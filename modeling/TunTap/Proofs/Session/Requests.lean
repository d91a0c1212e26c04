import TunTap.Proofs.Request.Layout
import TunTap.Proofs.Session.History

/-!
# The requests of a session

Whatever the kernel replied before and replies now, a request that a step makes is for the descriptor and the
parameters of that step (`request_mem_step`), and its image shows the parameters and can be read back
(`requests_of_history`). So an image says what was asked for, no more and no less.
-/

namespace TunTap

/-- The image that a call hands over. -/
def Call.image? : Call → Option (List UInt8)
  | .request _ _ image => some image
  | .openFile .. => none

/-- The images that a configuration hands over under a valid name. -/
theorem images_of_valid (route : Route) (fd : Descriptor) {p : Params} (k : Kernel) (h : Name.Valid p.name) :
    ∃ n, Name.ofString p.name = .ok n ∧
      (configure route fd p k).calls.filterMap Call.image? = [(Request.new n p.flags).image] := by
  have hn := Name.ofString_of_valid h
  exact ⟨_, hn, by rw [configure_of_ok hn]; rfl⟩

namespace Session

variable {limit : Option Level}

/-- A request is made by a step that binds, under a valid name. -/
theorem request_mem_step {s : State} {e : Step} {command : Option UInt32} {fd : Descriptor} {image : List UInt8}
    (h : .request command fd image ∈ (step limit s e).1.calls) :
    ∃ b n, e.binding? s = some b ∧ Name.ofString b.params.name = .ok n ∧ command = b.route.command? ∧ fd = b.fd ∧
      image = (Request.new n b.params.flags).image := by
  rcases e.opens_or_binds s with ⟨nonBlocking, rfl⟩ | ⟨b, hb, ⟨c, hn⟩ | ⟨n, hn⟩⟩
  · rw [step_openDevice] at h
    cases List.eq_of_mem_replicate h
  · rw [step_of_error hb hn] at h
    cases h
  · rw [step_of_ok hb hn] at h
    cases List.mem_singleton.1 h
    exact ⟨b, n, hb, hn, rfl, rfl, rfl⟩

/-- The flag word of a plain TUN device. -/
theorem littleEndian_image_tun (n : Name) (name : String) :
    littleEndian (((Request.new n (Params.flags ⟨name, .tun, false⟩)).image.drop 16).take 2) = 0x1001 := by
  have hf : (Flags.device .tun false : Flags 32).narrow.bits.toNat = 0x1001 := by decide
  rw [littleEndian_image]
  exact hf

/-- **The requests of a session.** Each shows what its step asks for, one decoder reads them all, and equal images
mean equal parameters. -/
theorem requests_of_history (limit : Option Level) (s : State) (es : List Step) :
    (∀ t ∈ history limit s es, ∀ command fd image, .request command fd image ∈ t.answer.calls →
      (∃ b, t.step.binding? t.before = some b ∧ fd = b.fd ∧ b.params.Layout image ∧
        Params.ofImage? image = some b.params) ∧
      ∀ fd' name, t.step = .configureTun fd' name → littleEndian ((image.drop 16).take 2) = 0x1001) ∧
    ∀ p q : Params, Name.Valid p.name → Name.Valid q.name → ∀ route route' fd fd' k k',
      (TunTap.configure route fd p k).calls.filterMap Call.image? =
        (TunTap.configure route' fd' q k').calls.filterMap Call.image? ↔ p = q := by
  constructor
  · intro t ht command fd image h
    rw [eq_taken_of_mem ht] at h
    obtain ⟨b, n, hb, hn, -, hfd, rfl⟩ := request_mem_step h
    refine ⟨⟨b, hb, hfd, layout_image hn, ofImage?_image_new hn⟩, fun fd' name he => ?_⟩
    rw [he] at hb
    cases hb
    exact littleEndian_image_tun n _
  · intro p q hp hq route route' fd fd' k k'
    obtain ⟨n, hn, hni⟩ := images_of_valid route fd k hp
    obtain ⟨m, hm, hmi⟩ := images_of_valid route' fd' k' hq
    rw [hni, hmi]
    constructor
    · intro h
      exact image_new_injective hn hm (List.cons.inj h).1
    · rintro rfl
      cases hn.symm.trans hm
      rfl

/-- The second of two requests, after a refusal that wrote over the name field of the first, and two devices that are
told apart by their images. -/
theorem requests_after_refusal :
    let s := State.start ⟨[⟨some (.ofBytes (List.replicate 16 0x78)), .refused 16⟩], []⟩
    let es : List Step := [.configure .supplied (some 5) (some "tap0") .tap true, .configureTun (some 5) (some "tun0")]
    let p : Params := ⟨"tun0", .tun, false⟩
    (∃ t ∈ history none s es, ∃ image, .request (some bindCommand) 5 image ∈ t.answer.calls ∧ p.Layout image ∧
      Params.ofImage? image = some p ∧ littleEndian ((image.drop 16).take 2) = 0x1001) ∧
    Name.Valid "tun0" ∧ Name.Valid "tap0" ∧
      ((TunTap.configure .supplied 5 p s.kernel).calls.filterMap Call.image? =
        (TunTap.configure .systemCall 6 ⟨"tap0", .tap, true⟩ s.kernel).calls.filterMap Call.image? ↔
          p = ⟨"tap0", .tap, true⟩) := by
  intro s es p
  have h := requests_of_history none s es
  have ht : Name.Valid "tun0" := by decide
  have ht' : Name.Valid "tap0" := by decide
  have hn := Name.ofString_of_valid ht
  refine ⟨?_, ht, ht', h.2 p ⟨"tap0", .tap, true⟩ ht ht' .supplied .systemCall 5 6 s.kernel s.kernel⟩
  let s' := (step none s es[0]).2
  have hm : taken none s' es[1] ∈ history none s es := List.mem_cons_of_mem _ List.mem_cons_self
  have hc : .request (some bindCommand) 5 (Request.new (.ofBytes (Utf8.encode "tun0".toList)) p.flags).image ∈
      (step none s' es[1]).1.calls := by
    rw [step_of_ok (e := es[1]) rfl hn]
    exact List.mem_singleton.2 rfl
  obtain ⟨⟨b, hb, -, hl, hd⟩, hw⟩ := h.1 _ hm _ _ _ hc
  cases hb
  exact ⟨_, hm, _, hc, hl, hd, hw _ _ rfl⟩

end Session

end TunTap
