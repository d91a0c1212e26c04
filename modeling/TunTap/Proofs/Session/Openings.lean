import TunTap.Proofs.Session.Replies

/-!
# Openings and replies

To open the control device, an attempt is made for every interruption at the head of the replies and one more, which
the next reply decides (`Opening`, `opening_openControlDevice`). Each attempt takes one reply of the script, and nothing
else does (`openReplies_step`). So however often a session opens the control device, and whatever it binds in between,
each opening goes on where the one before it stopped (`openings_accounted`).
-/

namespace TunTap

open OpenReply in
/-- An opening of the control device against the replies `rs`: its result, its calls, and the replies that it leaves. -/
structure Opening (nonBlocking : Bool) (rs : List OpenReply) (result : Except Error Descriptor) (calls : List Call)
    (left : List OpenReply) : Prop where
  /-- All attempts are alike: bit 1 of the flags stands for reading and writing, bit 19 for closing when another
  program is run, and bit 11 for not waiting. -/
  calls : ∃ flags : UInt32, calls = List.replicate (1 + interruptions rs) (.openFile "/dev/net/tun" flags) ∧
    ∀ i, flags.toNat.testBit i = true ↔ i = 1 ∨ i = 19 ∨ i = 11 ∧ nonBlocking = true
  accepted : ∀ fd, rs[interruptions rs]? = some (.opened fd) → result = .ok fd
  refused : ∀ n, rs[interruptions rs]? = some (.refused n) →
    n ≠ 4 ∧ ∃ e, result = .error (.system e) ∧ e.number? = some n
  exhausted : rs[interruptions rs]? = none → ∃ e, result = .error (.system e) ∧ e.number? = some 2
  left : left = rs.drop (1 + interruptions rs)

/-! ## One opening -/

theorem testBit_openFlags (nonBlocking : Bool) (i : Nat) :
    (openFlags nonBlocking).toNat.testBit i = true ↔ i = 1 ∨ i = 19 ∨ i = 11 ∧ nonBlocking = true := by
  by_cases hi : i < 32
  · revert i
    cases nonBlocking <;> decide
  · have hlt : (openFlags nonBlocking).toNat < 2 ^ i :=
      Nat.lt_of_lt_of_le (UInt32.toNat_lt _) (Nat.pow_le_pow_right (by decide) (Nat.not_lt.1 hi))
    rw [Nat.testBit_lt_two_pow hlt]
    constructor
    · intro h; cases h
    · rintro (rfl | rfl | ⟨rfl, -⟩) <;> exact absurd (by decide) hi

/-- What the reply that counts makes of an opening. -/
theorem opening_decisive (nonBlocking : Bool) (rs : List OpenReply) :
    Opening nonBlocking rs (OpenReply.decisive rs).result
      (List.replicate (OpenReply.interruptions rs + 1) (openControlDevice.call nonBlocking))
      (rs.drop (OpenReply.interruptions rs + 1)) where
  calls := by
    rw [Nat.add_comm]
    exact ⟨openFlags nonBlocking, rfl, testBit_openFlags nonBlocking⟩
  accepted := by
    intro fd h
    rw [OpenReply.decisive_eq, h]
    rfl
  refused := by
    intro n h
    have hd : OpenReply.decisive rs = .refused n := by
      rw [OpenReply.decisive_eq, h]
      rfl
    have hi := OpenReply.isInterruption_decisive rs
    rw [hd] at hi ⊢
    exact ⟨of_decide_eq_false hi, _, rfl, rfl⟩
  exhausted := by
    intro h
    rw [OpenReply.decisive_eq, h]
    exact ⟨_, rfl, rfl⟩
  left := by rw [Nat.add_comm]

theorem opening_openControlDevice (nonBlocking : Bool) (k : Kernel) :
    let run := openControlDevice nonBlocking k
    Opening nonBlocking k.openReplies run.result run.calls run.kernel.openReplies ∧
      run.kernel.requestReplies = k.requestReplies := by
  rw [openControlDevice_eq, OpenReply.tail_dropWhile]
  exact ⟨opening_decisive nonBlocking k.openReplies, rfl⟩

namespace Session

/-! ## One step -/

/-- The attempts to open the control device that the step made. -/
def Taken.attempts (t : Taken) : List Call := t.answer.calls.filter fun c => !c.isRequest

/-- The attempts made in a history. -/
def attempts (ts : List Taken) : List Call := ts.flatMap Taken.attempts

section Steps

variable {limit : Option Level} {s : State} {e : Step}

theorem opening_step (limit : Option Level) (s : State) (nonBlocking : Bool) :
    let t := taken limit s (.openDevice nonBlocking)
    let s' := (step limit s (.openDevice nonBlocking)).2
    ∃ result, t.answer.result = result.map .descriptor ∧
      Opening nonBlocking s.kernel.openReplies result t.answer.calls s'.kernel.openReplies := by
  rw [taken, step_openDevice, OpenReply.tail_dropWhile]
  exact ⟨_, rfl, opening_decisive nonBlocking s.kernel.openReplies⟩

/-- Opening makes no other calls. -/
theorem attempts_of_opening (nonBlocking : Bool) :
    (taken limit s (.openDevice nonBlocking)).attempts = (taken limit s (.openDevice nonBlocking)).answer.calls := by
  rw [Taken.attempts, taken, step_openDevice]
  exact List.filter_replicate_of_pos rfl

theorem attempts_of_binding {b : Binding} (h : e.binding? s = some b) : (taken limit s e).attempts = [] := by
  cases hn : Name.ofString b.params.name with
  | error c =>
    rw [Taken.attempts, taken, step_of_error h hn]
    rfl
  | ok n =>
    rw [Taken.attempts, taken, step_of_ok h hn]
    rfl

/-- Each attempt takes the next reply. -/
theorem openReplies_step (limit : Option Level) (s : State) (e : Step) :
    (step limit s e).2.kernel.openReplies = s.kernel.openReplies.drop (taken limit s e).attempts.length := by
  rcases e.opens_or_binds s with ⟨nonBlocking, rfl⟩ | ⟨b, hb, ⟨c, hn⟩ | ⟨n, hn⟩⟩
  · obtain ⟨result, -, ho⟩ := opening_step limit s nonBlocking
    obtain ⟨flags, hc, -⟩ := ho.calls
    rw [attempts_of_opening, hc, List.length_replicate]
    exact ho.left
  · rw [attempts_of_binding hb, step_of_error hb hn]
    rfl
  · rw [attempts_of_binding hb, step_of_ok hb hn]
    rfl

/-- An opening in a session, when `used` attempts have been made. -/
theorem opening_taken {script : List OpenReply} {used : Nat} (nonBlocking : Bool)
    (h : s.kernel.openReplies = script.drop used) :
    let t := taken limit s (.openDevice nonBlocking)
    let left := script.drop (used + t.answer.calls.length)
    ∃ result, t.answer.result = result.map .descriptor ∧
      Opening nonBlocking (script.drop used) result t.answer.calls left ∧ t.answer.left.2 = left.length := by
  intro t left
  obtain ⟨result, hr, ho⟩ := opening_step limit s nonBlocking
  have hl : (step limit s (.openDevice nonBlocking)).2.kernel.openReplies = left := by
    rw [openReplies_step, attempts_of_opening, h, List.drop_drop]
  rw [h, hl] at ho
  refine ⟨result, hr, ho, ?_⟩
  show (step limit s (.openDevice nonBlocking)).1.left.2 = _
  rw [left_step, hl]

end Steps

/-! ## Sessions -/

/-- **Openings and replies.** An opening takes the interruptions and the one reply after them, and decides by that one.
In a session it finds the replies of the script that the attempts so far have left, and leaves the rest in order. -/
theorem openings_accounted (limit : Option Level) :
    (∀ nonBlocking k, let run := openControlDevice nonBlocking k
      Opening nonBlocking k.openReplies run.result run.calls run.kernel.openReplies ∧
        run.kernel.requestReplies = k.requestReplies) ∧
      ∀ (s : State) (es : List Step) (i : Nat) (t : Taken) (nonBlocking : Bool),
        (history limit s es)[i]? = some t → t.step = .openDevice nonBlocking →
          let script := s.kernel.openReplies
          let used := (attempts ((history limit s es).take i)).length
          let left := script.drop (used + t.answer.calls.length)
          ∃ result, t.answer.result = result.map .descriptor ∧
            Opening nonBlocking (script.drop used) result t.answer.calls left ∧ t.answer.left.2 = left.length := by
  refine ⟨opening_openControlDevice, fun s es i t nonBlocking h ht => ?_⟩
  have hq := queue_before (fun s => s.kernel.openReplies) Taken.attempts (openReplies_step limit) h
  rw [eq_taken_of_mem (List.mem_of_getElem? h), ht]
  exact opening_taken nonBlocking hq

/-- Two interruptions and a descriptor, a request, and an opening that is interrupted until no reply is left. -/
theorem openings_accounted_until_exhausted :
    let script : List OpenReply := [.refused 4, .refused 4, .opened 7, .refused 4]
    let s := State.start ⟨[⟨none, .refused 4⟩], script⟩
    let es : List Step := [.openDevice true, .configureTun none (some "tun0"), .openDevice false]
    ∃ t, (history none s es)[2]? = some t ∧ t.step = .openDevice false ∧
      (attempts ((history none s es).take 2)).length = 3 ∧ t.answer.calls.length = 2 ∧
      ∃ result, t.answer.result = result.map .descriptor ∧
        Opening false [.refused 4] result t.answer.calls [] ∧ (∃ e, result = .error e ∧ e.number? = some 2) ∧
        t.answer.left.2 = 0 := by
  intro script s es
  let s' := (step none (step none s es[0]).2 es[1]).2
  have hu : (attempts ((history none s es).take 2)).length = 3 := by decide
  have hc : (taken none s' es[2]).answer.calls.length = 2 := by decide
  have ha := (openings_accounted none).2 s es 2 (taken none s' es[2]) false rfl rfl
  rw [hu, hc] at ha
  obtain ⟨result, hr, ho, hl⟩ := ha
  obtain ⟨e, he, hn⟩ := ho.exhausted rfl
  exact ⟨_, rfl, rfl, hu, hc, result, hr, ho, ⟨.system e, he, hn⟩, hl⟩

end Session

end TunTap
