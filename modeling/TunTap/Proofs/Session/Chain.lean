import TunTap.Proofs.Name.Obtained
import TunTap.Proofs.Session.History

/-!
# Configuring again and again

A program configures a device, takes the text of the name that it is given, configures again under that text, and so
on (`Step.again`). The name comes from a field that may hold any bytes, but its text is well-formed and free of nul
characters, so all that can go wrong is its length. If the text is too long, every further step is refused for it
(`chain_of_error`). Otherwise the first further step settles the name: every step sends the same image and gives the
same name, whose text is the one fed back (`chain_of_ok`).
-/

namespace TunTap

/-- The request for a name is accepted and the name left as it is. -/
structure RequestReply.Keeps (reply : RequestReply) (name : Name) : Prop where
  accepted : ∃ v, reply.outcome = .accepted v
  chosen : reply.chosen name = name

theorem RequestReply.Keeps.result {reply : RequestReply} {name : Name} (h : reply.Keeps name) :
    reply.result name = .ok name := by
  obtain ⟨v, hv⟩ := h.accepted
  simp only [RequestReply.result, hv, h.chosen]

/-- Acceptance keeps every name. -/
theorem RequestReply.keeps_accept (name : Name) : RequestReply.accept.Keeps name :=
  ⟨⟨_, rfl⟩, rfl⟩

/-- A kernel whose replies all keep a name keeps it next. -/
theorem Kernel.keeps_nextReply {k : Kernel} {name : Name} (h : ∀ reply ∈ k.requestReplies, reply.Keeps name) :
    k.nextReply.Keeps name := by
  unfold Kernel.nextReply
  cases hk : k.requestReplies with
  | nil => exact RequestReply.keeps_accept name
  | cons reply rs => exact h reply (hk ▸ List.mem_cons_self)

namespace Session

/-- The step that configures under the text of the name given last. -/
def Step.again (fd : Option Descriptor) (mode : Mode) (packetInfo : Bool) (route : Route) : Step :=
  .configure route fd none mode packetInfo

section Chain

variable (limit : Option Level) (fd : Option Descriptor) (mode : Mode) (packetInfo : Bool)

/-- The step after which the name given last is read from a field that the kernel wrote. -/
theorem step_of_written (route : Route) {name : Option String} {s : State} {first : Name} {written : NameField}
    {value : { v : Int32 // v ≠ -1 }} (hname : Name.ofString (name.getD s.lastName) = .ok first)
    (hnext : s.kernel.nextReply = ⟨some written, .accepted value⟩) :
    ∃ a, a.result = .ok (.name (.ofField written)) ∧
      step limit s (.configure route fd name mode packetInfo) =
        (a, { s with kernel := s.kernel.afterReply, lastName := (Name.ofField written).text }) := by
  let b : Binding := ⟨route, s.descriptor fd, ⟨name.getD s.lastName, mode, packetInfo⟩⟩
  have hb : Step.binding? s (.configure route fd name mode packetInfo) = some b := rfl
  rw [step_of_ok hb hname, hnext]
  exact ⟨_, rfl, rfl⟩

/-- A text that is no name is refused at every step. -/
theorem chain_of_error {s : State} {c : NameError} (h : Name.ofString s.lastName = .error c) (routes : List Route) :
    ∀ a ∈ run limit s (routes.map (Step.again fd mode packetInfo)), a.result = .error (.badName c) ∧ a.calls = [] := by
  induction routes with
  | nil => exact fun a ha => by cases ha
  | cons route routes ih =>
    intro a ha
    have hs : step limit s (.again fd mode packetInfo route) = _ := step_of_error rfl h
    rw [List.map_cons, run, hs] at ha
    rcases List.mem_cons.1 ha with rfl | ha
    · exact ⟨rfl, rfl⟩
    · exact ih a ha

/-- A text that is a name is kept by every step. -/
theorem chain_of_ok {s : State} {m : Name} (h : Name.ofString s.lastName = .ok m)
    (hk : ∀ reply ∈ s.kernel.requestReplies, reply.Keeps m) (routes : List Route) :
    ∀ a ∈ run limit s (routes.map (Step.again fd mode packetInfo)), a.result = .ok (.name m) ∧
      ∃ command, a.calls = [.request command (s.descriptor fd) (Request.new m (.device mode packetInfo)).image] := by
  induction routes generalizing s with
  | nil => exact fun a ha => by cases ha
  | cons route routes ih =>
    intro a ha
    have hr := (Kernel.keeps_nextReply hk).result
    have hs : step limit s (.again fd mode packetInfo route) = _ := step_of_ok rfl h
    rw [List.map_cons, run, hs, hr] at ha
    rcases List.mem_cons.1 ha with rfl | ha
    · exact ⟨rfl, _, rfl⟩
    · refine ih (s := ⟨s.kernel.afterReply, s.held, m.text⟩) ?_ (fun reply hm => hk reply ?_) a ha
      · rw [Name.text_ofString h]
        exact h
      · exact List.mem_of_mem_tail hm

end Chain

/-- **Configuring again settles.** After a request that is accepted with any field written over the name, further
steps by any routes, against a kernel that keeps the name they ask for, are all refused for the length of its text or
all give one name. -/
theorem chain_settles (limit : Option Level) (s : State) (route : Route) (fd : Option Descriptor)
    (name : Option String) (mode : Mode) (packetInfo : Bool) {first : Name} {written : NameField}
    {value : { v : Int32 // v ≠ -1 }} {replies : List RequestReply}
    (hname : Name.ofString (name.getD s.lastName) = .ok first)
    (hfirst : s.kernel.requestReplies = ⟨some written, .accepted value⟩ :: replies)
    (hkeep : ∀ m, Name.ofString (Name.ofField written).text = .ok m → ∀ reply ∈ replies, reply.Keeps m)
    (fd' : Option Descriptor) (mode' : Mode) (packetInfo' : Bool) (routes : List Route) :
    let n := Name.ofField written
    let k := (Utf8.encode n.text.toList).length
    ∃ a as, run limit s (.configure route fd name mode packetInfo :: routes.map (.again fd' mode' packetInfo')) =
        a :: as ∧ as.length = routes.length ∧ a.result = .ok (.name n) ∧
      (15 < k ∧ (∀ a ∈ as, a.result = .error (.badName (.tooLong k)) ∧ a.calls = []) ∨
        k ≤ 15 ∧ ∃ m image, m.text = n.text ∧ image.length = 40 ∧
          ∀ a ∈ as, a.result = .ok (.name m) ∧ ∃ command, a.calls = [.request command (s.descriptor fd') image]) := by
  intro n k
  have hnext : s.kernel.nextReply = ⟨some written, .accepted value⟩ := by rw [Kernel.nextReply, hfirst]; rfl
  obtain ⟨a, ha, hs⟩ := step_of_written limit fd mode packetInfo route hname hnext
  let s' : State := { s with kernel := s.kernel.afterReply, lastName := n.text }
  refine ⟨a, run limit s' (routes.map (.again fd' mode' packetInfo')), ?_, ?_, ha, ?_⟩
  · rw [run, hs]
  · rw [length_run, List.length_map]
  · by_cases hk : 15 < k
    · have hc : Name.ofString n.text = .error (.tooLong k) := Name.ofString_of_long hk
      exact .inl ⟨hk, chain_of_error limit fd' mode' packetInfo' (s := s') hc routes⟩
    · have hv : Name.Valid n.text := ⟨Nat.lt_succ_of_le (Nat.le_of_not_lt hk), n.nul_notMem_encode_text⟩
      have hm := Name.ofString_of_valid hv
      have hr : ∀ reply ∈ s'.kernel.requestReplies, reply.Keeps (.ofBytes (Utf8.encode n.text.toList)) := by
        intro reply h
        rw [show s'.kernel.requestReplies = replies from congrArg List.tail hfirst] at h
        exact hkeep _ hm reply h
      have hall := chain_of_ok limit fd' mode' packetInfo' (s := s') hm hr routes
      exact .inr ⟨Nat.le_of_not_lt hk, _, _, Name.text_ofString hm, Request.length_image _, hall⟩

/-- Two further steps after a field that ends in the middle of a character, against a kernel that writes the name back
as it found it. The text has a replacement character of three bytes, and the further steps ask for a name with it. -/
theorem chain_settles_on_replacement :
    let n := Name.ofField (.ofBytes [0x74, 0xc3])
    let s := State.start
      ⟨[⟨some (.ofBytes [0x74, 0xc3]), .accepted ⟨0, by decide⟩⟩,
        ⟨some (.ofBytes [0x74, 0xef, 0xbf, 0xbd]), .accepted ⟨0, by decide⟩⟩], []⟩
    let es : List Step :=
      [.configure .systemCall (some 3) (some "t%d") .tun false, .again (some 3) .tun false .supplied,
        .again (some 3) .tun false .systemCall]
    ∃ a as, run none s es = a :: as ∧ as.length = 2 ∧ a.result = .ok (.name n) ∧
      ∃ m image, m.text = n.text ∧ image.length = 40 ∧
        ∀ a ∈ as, a.result = .ok (.name m) ∧ ∃ command, a.calls = [.request command 3 image] := by
  intro n s es
  have hkeep : ∀ m, Name.ofString n.text = .ok m →
      ∀ reply ∈ s.kernel.requestReplies.tail, reply.Keeps m := by
    intro m hm reply hr
    obtain rfl := List.mem_singleton.1 hr
    obtain rfl := (Name.ofString_eq_ok_iff.1 hm).2
    refine ⟨⟨_, rfl⟩, ?_⟩
    rw [Name.toList_text]
    decide
  have hname : Name.ofString "t%d" = .ok _ := Name.ofString_of_valid (by decide)
  have h := chain_settles none s .systemCall (some 3) (some "t%d") .tun false hname rfl hkeep (some 3) .tun false
    [.supplied, .systemCall]
  obtain ⟨a, as, hrun, hl, ha, ⟨hk, -⟩ | ⟨-, hm⟩⟩ := h
  · exact absurd hk (by decide)
  · exact ⟨a, as, hrun, hl, ha, hm⟩

end Session

end TunTap
