import TunTap.Proofs.Configure
import TunTap.Proofs.Open
import TunTap.Session

/-!
# Histories of sessions

A step other than opening the control device binds a descriptor, with the parameters that the state fills in
(`Step.binding?`). The steps of a session with the states in which they are taken are its history (`history`); its
answers are those of the session (`answers_history`), and each of them is the answer of one step (`eq_taken_of_mem`);
a queue that the calls use up is used up in order (`queue_before`).
A step goes on in one of three ways (`Step.opens_or_binds`): it opens the control device (`step_openDevice`), or does
what `configure` does, which is nothing at all under a name that is not valid (`step_of_error`) and one request
otherwise (`step_of_ok`).
-/

namespace TunTap.Session

/-! ## What a step binds -/

/-- A descriptor to be bound, and the route that the request takes. -/
structure Binding where
  route : Route
  fd : Descriptor
  params : Params

/-- What a step binds in a state: the descriptor and the name are those of the step, or else those remembered. -/
def Step.binding? (s : State) : Step → Option Binding
  | .openDevice _ => none
  | .configure route fd name mode packetInfo =>
    some ⟨route, (fd <|> s.held).getD (-1), ⟨name.getD s.lastName, mode, packetInfo⟩⟩
  | .configureTun fd name => some ⟨.systemCall, (fd <|> s.held).getD (-1), ⟨name.getD s.lastName, .tun, false⟩⟩

/-- What a step tells of the name chosen. -/
def Step.value : Step → Name → Value
  | .configureTun .. => fun _ => .done
  | _ => .name

/-- The name remembered after a step with this result. -/
def Step.nameAfter (s : State) (result : Except Error Name) : Step → String
  | .configure .. => (result.toOption.map Name.text).getD s.lastName
  | _ => s.lastName

section Steps

variable {limit : Option Level} {s : State} {e : Step} {b : Binding}

/-- A step that binds nothing opens the control device. -/
theorem Step.eq_openDevice (h : e.binding? s = none) : ∃ nonBlocking, e = .openDevice nonBlocking := by
  cases e with
  | openDevice nonBlocking => exact ⟨nonBlocking, rfl⟩
  | configure => cases h
  | configureTun => cases h

/-- The ways in which a step goes on: it opens the control device, or binds a descriptor under a text that is no name,
or under one that is. -/
theorem Step.opens_or_binds (s : State) (e : Step) :
    (∃ nonBlocking, e = .openDevice nonBlocking) ∨
      ∃ b, e.binding? s = some b ∧
        ((∃ c, Name.ofString b.params.name = .error c) ∨ ∃ n, Name.ofString b.params.name = .ok n) := by
  cases hb : e.binding? s with
  | none => exact .inl (Step.eq_openDevice hb)
  | some b =>
    refine .inr ⟨b, rfl, ?_⟩
    cases hn : Name.ofString b.params.name with
    | error c => exact .inl ⟨c, rfl⟩
    | ok n => exact .inr ⟨n, rfl⟩

/-- The replies left are counted after the step. -/
theorem left_step (limit : Option Level) (s : State) (e : Step) : (step limit s e).1.left =
    ((step limit s e).2.kernel.requestReplies.length, (step limit s e).2.kernel.openReplies.length) := by
  cases e <;> rfl

/-- Opening takes the replies up to the one that counts, which gives the device held. -/
theorem step_openDevice (limit : Option Level) (s : State) (nonBlocking : Bool) :
    let rs := s.kernel.openReplies
    let result := (OpenReply.decisive rs).result
    let s' : State :=
      { s with
        kernel := { s.kernel with openReplies := (rs.dropWhile OpenReply.isInterruption).tail }
        held := result.toOption }
    step limit s (.openDevice nonBlocking) =
      (⟨result.map .descriptor, [],
        List.replicate ((rs.takeWhile OpenReply.isInterruption).length + 1) (openControlDevice.call nonBlocking),
        (s.kernel.requestReplies.length, (rs.dropWhile OpenReply.isInterruption).tail.length), s'.held⟩, s') := by
  simp only [step, openControlDevice_eq]
  rfl

/-- A step that binds is a configuration. -/
theorem step_of_binding (h : e.binding? s = some b) :
    let run := TunTap.configure b.route b.fd b.params s.kernel
    let s' : State := { s with kernel := run.kernel, lastName := e.nameAfter s run.result }
    step limit s e = (answer limit (run.map e.value) s', s') := by
  cases e with
  | openDevice => cases h
  | configure => cases h; rfl
  | configureTun =>
    cases h
    simp only [step, TunTap.configureTun, Run.map_map]
    rfl

/-- Under a name that is not valid nothing happens. -/
theorem step_of_error {c : NameError} (h : e.binding? s = some b) (hn : Name.ofString b.params.name = .error c) :
    step limit s e =
      (⟨.error (.badName c), [], [], (s.kernel.requestReplies.length, s.kernel.openReplies.length), s.held⟩, s) := by
  have hs : e.nameAfter s (.error (.badName c)) = s.lastName := by cases e <;> rfl
  rw [step_of_binding h, configure_of_error hn, hs]
  rfl

/-- Under a valid name one request is made. -/
theorem step_of_ok {n : Name} (h : e.binding? s = some b) (hn : Name.ofString b.params.name = .ok n) :
    let reply := s.kernel.nextReply
    let s' : State :=
      { s with kernel := s.kernel.afterReply, lastName := e.nameAfter s (reply.result n) }
    step limit s e =
      (⟨(reply.result n).map e.value,
        Event.records limit
          [.configuring b.fd b.params.mode n, .flagWord b.params.flags.narrow, reply.event b.fd n],
        [.request b.route.command? b.fd (Request.new n b.params.flags).image],
        (s.kernel.requestReplies.length - 1, s.kernel.openReplies.length), s.held⟩, s') := by
  rw [step_of_binding h, configure_of_ok hn]
  simp [answer, Run.map, Kernel.afterReply]

end Steps

/-! ## Histories -/

/-- A step taken: the state before it, and its answer. -/
structure Taken where
  before : State
  step : Step
  answer : Answer

/-- A step as it is taken in a state. -/
def taken (limit : Option Level) (s : State) (e : Step) : Taken := ⟨s, e, (step limit s e).1⟩

/-- The steps of a session as they are taken. -/
def history (limit : Option Level) : State → List Step → List Taken
  | _, [] => []
  | s, e :: es => taken limit s e :: history limit (step limit s e).2 es

variable {limit : Option Level}

theorem answers_history (s : State) (es : List Step) : (history limit s es).map Taken.answer = run limit s es := by
  induction es generalizing s with
  | nil => rfl
  | cons e es ih =>
    rw [history, run, List.map_cons, ih]
    rfl

theorem steps_history (s : State) (es : List Step) : (history limit s es).map Taken.step = es := by
  induction es generalizing s with
  | nil => rfl
  | cons e es ih =>
    rw [history, List.map_cons, ih]
    rfl

/-- Every step is answered. -/
theorem length_run (s : State) (es : List Step) : (run limit s es).length = es.length := by
  have h : (history limit s es).length = es.length := by
    rw [← List.length_map Taken.step, steps_history]
  rw [← answers_history, List.length_map, h]

/-- Each answer is that of one step. -/
theorem eq_taken_of_mem {t : Taken} {s : State} {es : List Step} (h : t ∈ history limit s es) :
    t = taken limit t.before t.step := by
  induction es generalizing s with
  | nil => cases h
  | cons e es ih =>
    rcases List.mem_cons.1 h with rfl | h
    · rfl
    · exact ih h

/-- Where every step takes an entry off a queue for each of its calls of some kind, a step finds the entries that the
calls before it have left. -/
theorem queue_before {α : Type} (queue : State → List α) (calls : Taken → List Call)
    (hq : ∀ s e, queue (step limit s e).2 = (queue s).drop (calls (taken limit s e)).length) {t : Taken} {s : State}
    {es : List Step} {i : Nat} (h : (history limit s es)[i]? = some t) :
    queue t.before = (queue s).drop (((history limit s es).take i).flatMap calls).length := by
  induction es generalizing s i with
  | nil => cases h
  | cons e es ih =>
    cases i with
    | zero => cases h; rfl
    | succ i =>
      have h : (history limit (step limit s e).2 es)[i]? = some t := h
      rw [ih h, hq, List.drop_drop]
      simp [history]

end TunTap.Session
