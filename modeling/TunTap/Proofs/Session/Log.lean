import TunTap.Proofs.Log
import TunTap.Proofs.Request.Layout
import TunTap.Proofs.Session.History

/-!
# The log of a session

A step that binds a descriptor under a valid name is recorded three times: what it asks for, which flag word it sends,
and how that ends (`Taken.Told`, `log_tells_the_truth`). What the records show is taken from the step, from the image
sent and from the reply. The first two records say as much as the request itself: they are the same for two steps
exactly if the steps send one image to one descriptor (`announcements_identify_requests`). The limit of the log decides
which records are kept and nothing else (`run_limited`).
-/

namespace TunTap

/-- A reply ends a request in one of two ways, and either is told as what it is. -/
theorem RequestReply.ends (reply : RequestReply) (fd : Descriptor) (n : Name) :
    (∃ errno, reply.result n = .error (.refused errno) ∧ reply.event fd n = .refused fd errno) ∨
      reply.result n = .ok (reply.chosen n) ∧ reply.event fd n = .bound fd (reply.chosen n) := by
  unfold result event
  cases reply.outcome with
  | accepted v => exact .inr ⟨rfl, rfl⟩
  | refused m => exact .inl ⟨_, rfl, rfl⟩

namespace Session

/-! ## Limits -/

/-- The answer with those of its records that a limit lets through. -/
def Answer.limited (limit : Option Level) (a : Answer) : Answer :=
  { a with records := a.records.filter fun r => r.level ∈ Level.shown limit }

theorem step_limited (limit : Option Level) (s : State) (e : Step) :
    step limit s e = ((step (some .trace) s e).1.limited limit, (step (some .trace) s e).2) := by
  cases e <;> simp only [step, answer, Answer.limited, Event.records_eq_filter limit]

/-- The limit decides on records only. -/
theorem run_limited (limit : Option Level) (s : State) (es : List Step) :
    run limit s es = (run (some .trace) s es).map (Answer.limited limit) := by
  induction es generalizing s with
  | nil => rfl
  | cons e es ih => rw [run, run, List.map_cons, ← ih, step_limited]

/-! ## The records of a step -/

/-- What the program writes at a level. -/
def written (level : Level) (message : String) : Record := ⟨level, "tunconf::configure", message⟩

/-- The flag word in an image. -/
def sentWord (image : List UInt8) : Nat := littleEndian ((image.drop 16).take 2)

/-- The name field in an image, as the reply to the step leaves it: what is written over it, or else what was sent. -/
def Taken.fieldAfter (t : Taken) (image : List UInt8) : NameField :=
  (t.before.kernel.requestReplies.head?.bind RequestReply.assigned).getD (.ofBytes (image.take 16))

/-- The last record tells how a step ends: it shows the error exactly if the request is refused with that error, and
the name chosen exactly if the request is accepted, and it is one of the two. -/
structure Taken.Ends (t : Taken) (fd : Descriptor) (chosen : Name) (last : Record) : Prop where
  refused : ∀ errno : Errno, last = written .warn
      ("TUNSETIFF on fd " ++ toString fd.toInt ++ " failed: " ++ (errno.name ++ ": " ++ errno.text)) ↔
    t.answer.result = .error (.refused errno)
  bound : last = written .debug ("fd " ++ toString fd.toInt ++ " is now bound to " ++ chosen.text) ↔
    t.answer.result = .ok (t.step.value chosen)
  either : (∃ errno, t.answer.result = .error (.refused errno)) ∨ t.answer.result = .ok (t.step.value chosen)

/-- The step sends an image, and its records tell so: first what is asked for, then the flag word in the image, and
last how that ends, where the name chosen is the one in the field that the reply leaves behind. -/
structure Taken.Told (t : Taken) (b : Binding) (image : List UInt8) (last : Record) : Prop where
  sent : t.answer.calls = [.request b.route.command? b.fd image]
  records : t.answer.records =
    [written .debug ("configuring fd " ++ toString b.fd.toInt ++ " as " ++
        (if b.params.mode = .tun then "Tun" else "Tap") ++ " device " ++
        ("IfName(" ++ Quoted.quote b.params.name ++ ")")),
      written .trace ("TUNSETIFF flags: " ++ ("0x" ++ Numeral.hex 4 (sentWord image))), last]
  /-- What stands in quotes is the name asked for. -/
  name : Quoted.Shows (Quoted.quote b.params.name) b.params.name
  /-- The four digits are those of the word. -/
  word : Numeral.value 16 (Numeral.hex 4 (sentWord image)).toList = sentWord image
  width : (Numeral.hex 4 (sentWord image)).length = 4
  ends : t.Ends b.fd (.ofField (t.fieldAfter image)) last

/-! The records of the events are what the structures above spell out. -/

theorem record_configuring (fd : Descriptor) (m : Mode) (n : Name) : (Event.configuring fd m n).record =
    written .debug ("configuring fd " ++ toString fd.toInt ++ " as " ++ (if m = .tun then "Tun" else "Tap") ++
      " device " ++ ("IfName(" ++ Quoted.quote n.text ++ ")")) := by
  have hm : m.name = if m = .tun then "Tun" else "Tap" := by cases m <;> rfl
  rw [← Numeral.ofInt_eq_toString, ← Event.oneLine_name, ← hm]
  rfl

theorem record_refused (fd : Descriptor) (errno : Errno) : (Event.refused fd errno).record = written .warn
    ("TUNSETIFF on fd " ++ toString fd.toInt ++ " failed: " ++ (errno.name ++ ": " ++ errno.text)) := by
  rw [← Numeral.ofInt_eq_toString]
  rfl

theorem record_bound (fd : Descriptor) (n : Name) : (Event.bound fd n).record =
    written .debug ("fd " ++ toString fd.toInt ++ " is now bound to " ++ n.text) := by
  rw [← Numeral.ofInt_eq_toString]
  rfl

section Steps

variable {s : State} {e : Step} {b : Binding} {n : Name}

theorem ends_of_ok (h : e.binding? s = some b) (hn : Name.ofString b.params.name = .ok n) :
    (taken (some .trace) s e).Ends b.fd (s.kernel.nextReply.chosen n) (s.kernel.nextReply.event b.fd n).record := by
  have ha : (taken (some .trace) s e).answer.result = (s.kernel.nextReply.result n).map e.value := by
    rw [taken, step_of_ok h hn]
  rcases s.kernel.nextReply.ends b.fd n with ⟨errno, hr, he⟩ | ⟨hr, he⟩ <;> rw [hr] at ha <;> rw [he]
  · refine ⟨fun errno' => ?_, ?_, .inl ⟨errno, ha⟩⟩
    · rw [ha, ← record_refused]
      exact Event.record_refused_inj.trans ⟨fun h => h ▸ rfl, fun h => by cases h; rfl⟩
    · rw [ha, ← record_bound]
      exact ⟨fun h => absurd h (Event.record_refused_ne_bound _ _ errno _), fun h => by cases h⟩
  · refine ⟨fun errno' => ?_, ?_, .inr ha⟩
    · rw [ha, ← record_refused]
      exact ⟨fun h => absurd h.symm (Event.record_refused_ne_bound _ _ errno' _), fun h => by cases h⟩
    · rw [ha, ← record_bound]
      exact ⟨fun _ => rfl, fun _ => rfl⟩

/-- The name in the field that the reply leaves behind is the one chosen. -/
theorem ofField_fieldAfter (e : Step) (hn : n.Canonical) (f : Flags 32) :
    .ofField ((taken (some .trace) s e).fieldAfter (Request.new n f).image) = s.kernel.nextReply.chosen n := by
  have hr : s.kernel.nextReply.assigned = s.kernel.requestReplies.head?.bind RequestReply.assigned := by
    rw [Kernel.nextReply]
    cases s.kernel.requestReplies <;> rfl
  have hi : NameField.ofBytes ((Request.new n f).image.take 16) = n.field := by
    rw [take_image]
    exact NameField.ofBytes_toList n.field
  rw [Taken.fieldAfter, hi, RequestReply.chosen, hr]
  show Name.ofField ((s.kernel.requestReplies.head?.bind RequestReply.assigned).getD n.field) = _
  cases s.kernel.requestReplies.head?.bind RequestReply.assigned with
  | none => exact hn.ofField_field
  | some f => rfl

/-- The records of a step under a valid name. -/
theorem told_of_ok (h : e.binding? s = some b) (hn : Name.ofString b.params.name = .ok n) :
    (taken (some .trace) s e).Told b (Request.new n b.params.flags).image
      (s.kernel.nextReply.event b.fd n).record := by
  have hw : sentWord (Request.new n b.params.flags).image = b.params.flags.narrow.bits.toNat := littleEndian_image _
  refine ⟨?_, ?_, Quoted.shows_quote _, ?_, ?_, ?_⟩
  · rw [taken, step_of_ok h hn]
  · rw [taken, step_of_ok h hn, Event.records_trace, hw, List.map_cons, record_configuring, Name.text_ofString hn]
    rfl
  · rw [hw, Numeral.hex, String.toList_ofList, Numeral.value_hexDigits]
    exact Nat.mod_eq_of_lt b.params.flags.narrow.bits.isLt
  · rw [Numeral.hex, String.length_ofList, Numeral.length_hexDigits]
  · have he := ends_of_ok h hn
    rw [← ofField_fieldAfter e (Name.canonical_ofString hn) b.params.flags] at he
    exact he

end Steps

/-- **The log tells the truth.** The records of a step under a valid name are three, and they tell what the step sends
and how it ends; the limit only leaves records out. -/
theorem log_tells_the_truth (s : State) (es : List Step) :
    (∀ t ∈ history (some .trace) s es, ∀ b, t.step.binding? t.before = some b → Name.Valid b.params.name →
      ∃ image last, t.Told b image last) ∧
    ∀ limit, run limit s es = (run (some .trace) s es).map (Answer.limited limit) := by
  constructor
  · intro t ht b hb hv
    rw [eq_taken_of_mem ht]
    exact ⟨_, _, told_of_ok hb (Name.ofString_of_valid hv)⟩
  · exact fun limit => run_limited limit s es

/-- A name that the kernel chose, and a refusal for the device of that name, where only the refusal is to be
recorded. -/
theorem log_tells_the_truth_of_warnings :
    let s := State.start
      ⟨[⟨some (.ofBytes [0x74, 0x75, 0x6e, 0x37, 0, 0x78]), .accepted ⟨0, by decide⟩⟩, ⟨none, .refused 16⟩], []⟩
    let es : List Step := [.configure .supplied (some 3) (some "tun%d") .tun false, .configureTun (some 3) none]
    let b : Binding := ⟨.supplied, 3, ⟨"tun%d", .tun, false⟩⟩
    let b' : Binding := ⟨.systemCall, 3, ⟨"tun7", .tun, false⟩⟩
    (∃ t ∈ history (some .trace) s es, t.step.binding? t.before = some b ∧ Name.Valid "tun%d" ∧
      ∃ image, t.Told b image (written .debug "fd 3 is now bound to tun7")) ∧
    (∃ t ∈ history (some .trace) s es, t.step.binding? t.before = some b' ∧ Name.Valid "tun7" ∧
      ∃ image, t.Told b' image (written .warn "TUNSETIFF on fd 3 failed: EBUSY: Device or resource busy")) ∧
    run (some .warn) s es = (run (some .trace) s es).map (Answer.limited (some .warn)) := by
  intro s es b b'
  have h := log_tells_the_truth s es
  let s' := (step (some .trace) s es[0]).2
  have hm : taken (some .trace) s es[0] ∈ history (some .trace) s es := List.mem_cons_self
  have hm' : taken (some .trace) s' es[1] ∈ history (some .trace) s es := List.mem_cons_of_mem _ List.mem_cons_self
  have hv : Name.Valid "tun%d" := by decide
  have hv' : Name.Valid "tun7" := by decide
  have hb : es[0].binding? s = some b := rfl
  have hn := Name.ofString_of_valid hv
  have hl : s'.lastName = "tun7" := by decide
  have hk : s'.kernel.nextReply = ⟨none, .refused 16⟩ := by
    show (step (some .trace) s es[0]).2.kernel.nextReply = _
    rw [step_of_ok hb hn]
    rfl
  have hb' : es[1].binding? s' = some b' := by
    show some (Binding.mk .systemCall 3 ⟨s'.lastName, .tun, false⟩) = some b'
    rw [hl]
  obtain ⟨image, last, ht⟩ := h.1 _ hm b hb hv
  obtain ⟨image', last', ht'⟩ := h.1 _ hm' b' hb' hv'
  have hr : (taken (some .trace) s es[0]).answer.result =
      .ok (es[0].value (.ofField (.ofBytes [0x74, 0x75, 0x6e, 0x37, 0, 0x78]))) := by
    rw [taken, step_of_ok hb hn]
    rfl
  have hr' : (taken (some .trace) s' es[1]).answer.result = .error (.refused (.ofNumber 16)) := by
    rw [taken, step_of_ok hb' (Name.ofString_of_valid hv')]
    show (s'.kernel.nextReply.result _).map _ = _
    rw [hk]
    rfl
  have hd : written .debug ("fd " ++ toString (3 : Int32).toInt ++ " is now bound to " ++
      (Name.ofField (.ofBytes [0x74, 0x75, 0x6e, 0x37, 0, 0x78])).text) =
      written .debug "fd 3 is now bound to tun7" := by decide
  have hw : written .warn ("TUNSETIFF on fd " ++ toString (3 : Int32).toInt ++ " failed: " ++
      ((Errno.ofNumber 16).name ++ ": " ++ (Errno.ofNumber 16).text)) =
      written .warn "TUNSETIFF on fd 3 failed: EBUSY: Device or resource busy" := by decide
  obtain rfl := (ht.ends.bound.2 hr).trans hd
  obtain rfl := ((ht'.ends.refused _).2 hr').trans hw
  exact ⟨⟨_, hm, hb, hv, image, ht⟩, ⟨_, hm', hb', hv', image', ht'⟩, h.2 (some .warn)⟩

/-! ## What the first records say -/

/-- The step writes two messages, and then hands an image to a descriptor. -/
structure Answer.Announces (a : Answer) (asked flags : String) (fd : Descriptor) (image : List UInt8) : Prop where
  messages : (a.records.map Record.message).take 2 = [asked, flags]
  call : ∃ command, a.calls = [.request command fd image]
  size : image.length = 40

theorem announces_of_ok {s : State} {e : Step} {b : Binding} {n : Name} (h : e.binding? s = some b)
    (hn : Name.ofString b.params.name = .ok n) :
    (step (some .trace) s e).1.Announces (Event.configuring b.fd b.params.mode n).message
      (Event.flagWord b.params.flags.narrow).message b.fd (Request.new n b.params.flags).image := by
  rw [step_of_ok h hn, Event.records_trace]
  exact ⟨rfl, ⟨_, rfl⟩, Request.length_image _⟩

/-- The two messages and the request determine each other. -/
theorem messages_eq_iff {fd fd' : Descriptor} {p q : Params} {n m : Name} (hp : Name.ofString p.name = .ok n)
    (hq : Name.ofString q.name = .ok m) :
    (Event.configuring fd p.mode n).message = (Event.configuring fd' q.mode m).message ∧
        (Event.flagWord p.flags.narrow).message = (Event.flagWord q.flags.narrow).message ↔
      fd = fd' ∧ (Request.new n p.flags).image = (Request.new m q.flags).image := by
  constructor
  · rintro ⟨hc, hf⟩
    obtain ⟨hfd, -, ht⟩ := Event.configuring_injective hc
    have hs : p.name = q.name := by rw [← Name.text_ofString hp, ht, Name.text_ofString hq]
    have hnm : n = m := by
      rw [hs, hq] at hp
      exact (Except.ok.inj hp).symm
    refine ⟨hfd, ?_⟩
    rw [Request.new, Request.new, Event.flagWord_injective hf, hnm]
  · rintro ⟨rfl, hi⟩
    obtain rfl := image_new_injective hp hq hi
    obtain rfl := Except.ok.inj (hp.symm.trans hq)
    exact ⟨rfl, rfl⟩

/-- **The log identifies requests.** Two steps under valid names write the same two messages exactly if they hand the
same image to the same descriptor. -/
theorem announcements_identify_requests {s s' : State} {e e' : Step} {b b' : Binding} (h : e.binding? s = some b)
    (h' : e'.binding? s' = some b') (hv : Name.Valid b.params.name) (hv' : Name.Valid b'.params.name) :
    ∃ asked flags image asked' flags' image',
      (step (some .trace) s e).1.Announces asked flags b.fd image ∧
      (step (some .trace) s' e').1.Announces asked' flags' b'.fd image' ∧
      (asked = asked' ∧ flags = flags' ↔ b.fd = b'.fd ∧ image = image') := by
  have hn := Name.ofString_of_valid hv
  have hn' := Name.ofString_of_valid hv'
  exact ⟨_, _, _, _, _, _, announces_of_ok h hn, announces_of_ok h' hn', messages_eq_iff hn hn'⟩

/-- A bell, and a text that spells out how a bell is escaped. -/
theorem announcements_identify_requests_of_escapes :
    let s := State.start ⟨[], []⟩
    let e : Step := .configure .supplied (some (-1)) (some "\x07") .tap true
    let e' : Step := .configure .systemCall (some (-1)) (some "\\u\x7b7\x7d") .tap true
    let b : Binding := ⟨.supplied, -1, "\x07", .tap, true⟩
    let b' : Binding := ⟨.systemCall, -1, "\\u\x7b7\x7d", .tap, true⟩
    e.binding? s = some b ∧ e'.binding? s = some b' ∧ Name.Valid b.params.name ∧ Name.Valid b'.params.name ∧
    ∃ asked flags image asked' flags' image',
      (step (some .trace) s e).1.Announces asked flags (-1) image ∧
      (step (some .trace) s e').1.Announces asked' flags' (-1) image' ∧
      (asked = asked' ∧ flags = flags' ↔ (-1 : Descriptor) = -1 ∧ image = image') := by
  intro s e e' b b'
  have hb : e.binding? s = some b := rfl
  have hb' : e'.binding? s = some b' := rfl
  have hv : Name.Valid b.params.name := by decide
  have hv' : Name.Valid b'.params.name := by decide
  exact ⟨hb, hb', hv, hv', announcements_identify_requests hb hb' hv hv'⟩

end Session

end TunTap
