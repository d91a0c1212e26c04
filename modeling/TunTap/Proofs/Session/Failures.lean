import TunTap.Proofs.Errno
import TunTap.Proofs.Session.History

/-!
# Failed calls

A step fails with an error number if the request that it makes is refused with that number (`Taken.RequestRefused`),
or if opening the control device comes to that in the end (`Taken.OpenRefused`). The error that the step gives carries
the number from there on through every conversion (`failures_carry_numbers`), with one exception: a request refused
with a number that has no name gives an error that carries 0 (`number_without_name_lost`).
-/

namespace TunTap.Session

/-- The request of the step is refused with this number. -/
def Taken.RequestRefused (t : Taken) (n : Int32) : Prop :=
  ∃ b name, t.step.binding? t.before = some b ∧ Name.ofString b.params.name = .ok name ∧
    t.before.kernel.nextReply.outcome = .refused n

/-- The step opens the control device, and the last attempt is refused with this number. -/
def Taken.OpenRefused (t : Taken) (n : Int32) : Prop :=
  (∃ nonBlocking, t.step = .openDevice nonBlocking) ∧
    OpenReply.decisive t.before.kernel.openReplies = .refused n

/-! ## One step -/

section Steps

variable {limit : Option Level} {s : State} {e : Step} {n : Int32}

theorem result_of_requestRefused (h : (taken limit s e).RequestRefused n) :
    (taken limit s e).answer.result = .error (.refused (.ofNumber n)) := by
  obtain ⟨b, name, hb, hn, ho⟩ := h
  have hb : e.binding? s = some b := hb
  have ho : s.kernel.nextReply.outcome = .refused n := ho
  rw [taken, step_of_ok hb hn]
  simp only [RequestReply.result, ho]
  rfl

theorem result_of_openRefused (h : (taken limit s e).OpenRefused n) :
    (taken limit s e).answer.result = .error (.system (.code n)) := by
  obtain ⟨⟨nonBlocking, rfl⟩, ho⟩ := h
  have ho : OpenReply.decisive s.kernel.openReplies = .refused n := ho
  rw [taken, step_openDevice]
  simp only [ho]
  rfl

/-- Opening the control device is never refused for an interruption. -/
theorem ne_interrupted_of_openRefused (h : (taken limit s e).OpenRefused n) : n ≠ 4 := by
  have hi := OpenReply.isInterruption_decisive s.kernel.openReplies
  rw [show OpenReply.decisive s.kernel.openReplies = .refused n from h.2] at hi
  exact of_decide_eq_false hi

end Steps

/-! ## Sessions -/

/-- **Failed calls.** The number that a request is refused with is kept if it has a name; the number that opening is
refused with is always kept. -/
theorem failures_carry_numbers (limit : Option Level) (s : State) (es : List Step) :
    ∀ t ∈ history limit s es, ∀ n,
      (t.RequestRefused n → ∃ e, t.answer.result = .error e ∧
        e.Carries (if Errno.Named n then n else 0)) ∧
      (t.OpenRefused n → n ≠ 4 ∧ ∃ e, t.answer.result = .error e ∧ e.Carries n) := by
  intro t ht n
  rw [eq_taken_of_mem ht]
  constructor
  · intro h
    refine ⟨_, result_of_requestRefused h, Error.carries_iff.2 ?_⟩
    exact congrArg some (Errno.number_ofNumber n)
  · intro h
    exact ⟨ne_interrupted_of_openRefused h, _, result_of_openRefused h, Error.carries_iff.2 rfl⟩

/-- An opening that is interrupted once and then refused with a number that has no name, and a busy device. -/
theorem failures_carry_numbers_after_interruption :
    let s := State.start ⟨[⟨some (.ofBytes [0x78]), .refused 16⟩], [.refused 4, .refused 524]⟩
    let es : List Step := [.openDevice true, .configureTun (some 3) (some "tun0")]
    (∃ t ∈ history none s es, t.OpenRefused 524 ∧ (524 : Int32) ≠ 4 ∧
        ∃ e, t.answer.result = .error e ∧ e.Carries 524) ∧
      ∃ t ∈ history none s es, t.RequestRefused 16 ∧ ∃ e, t.answer.result = .error e ∧ e.Carries 16 := by
  intro s es
  have h := failures_carry_numbers none s es
  let s' := (step none s es[0]).2
  have hm : taken none s es[0] ∈ history none s es := List.mem_cons_self
  have hm' : taken none s' es[1] ∈ history none s es := List.mem_cons_of_mem _ List.mem_cons_self
  have ho : (taken none s es[0]).OpenRefused 524 := ⟨⟨true, rfl⟩, rfl⟩
  have hr : (taken none s' es[1]).RequestRefused 16 := ⟨_, _, rfl, Name.ofString_of_valid (by decide), rfl⟩
  obtain ⟨e, he, hc⟩ := (h _ hm' 16).1 hr
  rw [if_pos (by decide)] at hc
  exact ⟨⟨_, hm, ho, (h _ hm 524).2 ho⟩, _, hm', hr, e, he, hc⟩

/-- A request refused with a number that has no name: the error does not carry the number. -/
theorem number_without_name_lost :
    let s := State.start ⟨[⟨none, .refused 524⟩], []⟩
    let t := taken none s (.configure .systemCall (some 3) (some "tun0") .tun false)
    t.RequestRefused 524 ∧ ∃ e, t.answer.result = .error e ∧ e.Carries 0 ∧ ¬ e.Carries 524 := by
  intro s t
  have hr : t.RequestRefused 524 := ⟨_, _, rfl, Name.ofString_of_valid (by decide), rfl⟩
  have h0 : (Errno.ofNumber 524).number = 0 := by
    rw [Errno.number_ofNumber, if_neg (by decide)]
  have hc : (Error.refused (.ofNumber 524)).number? = some 0 := congrArg some h0
  refine ⟨hr, _, result_of_requestRefused hr, Error.carries_iff.2 hc, fun h => ?_⟩
  rw [Error.carries_iff, hc] at h
  exact absurd h (by decide)

end TunTap.Session
