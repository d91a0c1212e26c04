import TunTap.Proofs.Session.History

/-!
# Opening and binding in any order

Opening the control device reads the replies to opens and nothing else (`openDevice_agree`), and a step that binds a
descriptor of its own under a name of its own reads the replies to requests and nothing else (`binding_agree`); each
leaves the replies that the other reads as they were. So in a session that takes steps of both kinds in turns, every
step goes as it does in a session with the steps of its kind alone (`opens_and_bindings_independent`).
-/

namespace TunTap.Session

/-! ## Turns -/

/-- The entries of two lists, each in its order, make up a third list; the turns say which list is next, the first one
or the second. -/
inductive InTurns {α : Type} : List Bool → List α → List α → List α → Prop
  | nil : InTurns [] [] [] []
  | first {turns : List Bool} {xs ys zs : List α} (x : α) (h : InTurns turns xs ys zs) :
      InTurns (true :: turns) (x :: xs) ys (x :: zs)
  | second {turns : List Bool} {xs ys zs : List α} (y : α) (h : InTurns turns xs ys zs) :
      InTurns (false :: turns) xs (y :: ys) (y :: zs)

/-! ## Steps of the two kinds -/

def Step.Opens : Step → Prop
  | .openDevice _ => True
  | _ => False

/-- The step binds a descriptor under a name, and gives both itself. -/
def Step.BindsOwn : Step → Prop
  | .openDevice _ => False
  | .configure _ fd name _ _ | .configureTun fd name => fd.isSome ∧ name.isSome

/-- What is seen of a step itself: its result, its records and its calls. -/
def Answer.seen (a : Answer) : Except Error Value × List Record × List Call := (a.result, a.records, a.calls)

/-- The state after the last step. -/
def finish (limit : Option Level) : State → List Step → State
  | s, [] => s
  | s, e :: es => finish limit (step limit s e).2 es

variable (limit : Option Level)

section Steps

variable {s s' : State} {e : Step}

/-- Opening depends on the replies to opens. -/
theorem openDevice_agree (he : e.Opens) (h : s'.kernel.openReplies = s.kernel.openReplies) :
    (step limit s' e).1.seen = (step limit s e).1.seen ∧
      (step limit s' e).2.kernel.openReplies = (step limit s e).2.kernel.openReplies := by
  cases e with
  | openDevice nonBlocking =>
    rw [step_openDevice, step_openDevice, h]
    exact ⟨rfl, rfl⟩
  | configure => cases he
  | configureTun => cases he

/-- Opening leaves the replies to requests. -/
theorem requestReplies_openDevice (he : e.Opens) :
    (step limit s e).2.kernel.requestReplies = s.kernel.requestReplies := by
  cases e with
  | openDevice nonBlocking => rw [step_openDevice]
  | configure => cases he
  | configureTun => cases he

/-- What such a step binds does not depend on the state. -/
theorem Step.BindsOwn.binding (he : e.BindsOwn) : ∃ b, ∀ s, e.binding? s = some b := by
  cases e with
  | openDevice => cases he
  | configure route fd name mode packetInfo =>
    obtain ⟨fd, rfl⟩ := Option.isSome_iff_exists.1 he.1
    obtain ⟨name, rfl⟩ := Option.isSome_iff_exists.1 he.2
    exact ⟨⟨route, fd, ⟨name, mode, packetInfo⟩⟩, fun s => rfl⟩
  | configureTun fd name =>
    obtain ⟨fd, rfl⟩ := Option.isSome_iff_exists.1 he.1
    obtain ⟨name, rfl⟩ := Option.isSome_iff_exists.1 he.2
    exact ⟨⟨.systemCall, fd, .tun name⟩, fun s => rfl⟩

/-- Binding depends on the replies to requests. -/
theorem binding_agree (he : e.BindsOwn) (h : s'.kernel.requestReplies = s.kernel.requestReplies) :
    (step limit s' e).1.seen = (step limit s e).1.seen ∧
      (step limit s' e).2.kernel.requestReplies = (step limit s e).2.kernel.requestReplies := by
  obtain ⟨b, hb⟩ := he.binding
  cases hn : Name.ofString b.params.name with
  | error c =>
    rw [step_of_error (hb s') hn, step_of_error (hb s) hn]
    exact ⟨rfl, h⟩
  | ok n =>
    have hr : s'.kernel.nextReply = s.kernel.nextReply := by rw [Kernel.nextReply, h, Kernel.nextReply]
    rw [step_of_ok (hb s') hn, step_of_ok (hb s) hn, hr]
    exact ⟨rfl, congrArg List.tail h⟩

/-- Binding leaves the replies to opens. -/
theorem openReplies_binding (he : e.BindsOwn) : (step limit s e).2.kernel.openReplies = s.kernel.openReplies := by
  obtain ⟨b, hb⟩ := he.binding
  cases hn : Name.ofString b.params.name with
  | error c => rw [step_of_error (hb s) hn]
  | ok n =>
    rw [step_of_ok (hb s) hn]
    rfl

end Steps

/-! ## Sessions -/

/-- The last answer counts the replies left at the end. -/
theorem left_of_getLast? {s : State} {es : List Step} {a : Answer} (h : (run limit s es).getLast? = some a) : a.left =
    ((finish limit s es).kernel.requestReplies.length, (finish limit s es).kernel.openReplies.length) := by
  induction es generalizing s with
  | nil => cases h
  | cons e es ih =>
    cases es with
    | nil =>
      obtain rfl : (step limit s e).1 = a := Option.some.inj h
      exact left_step limit s e
    | cons e' es =>
      refine ih ?_
      rw [run, run, List.getLast?_cons_cons] at h
      exact h

/-- What is seen of the steps, and the replies left at the end. -/
theorem inTurns_seen {turns : List Bool} {os cs es : List Step} (h : InTurns turns os cs es) (ho : ∀ e ∈ os, e.Opens)
    (hc : ∀ e ∈ cs, e.BindsOwn) {s so sc : State} (hso : so.kernel.openReplies = s.kernel.openReplies)
    (hsc : sc.kernel.requestReplies = s.kernel.requestReplies) :
    InTurns turns ((run limit so os).map Answer.seen) ((run limit sc cs).map Answer.seen)
        ((run limit s es).map Answer.seen) ∧
      (finish limit s es).kernel =
        ⟨(finish limit sc cs).kernel.requestReplies, (finish limit so os).kernel.openReplies⟩ := by
  induction h generalizing s so sc with
  | nil => exact ⟨.nil, by rw [finish, finish, finish, hso, hsc]⟩
  | first e h ih =>
    have he := ho e List.mem_cons_self
    obtain ⟨hs, hk⟩ := openDevice_agree limit he hso
    have hsc' := hsc.trans (requestReplies_openDevice limit he).symm
    obtain ⟨ht, hf⟩ := ih (fun e' he' => ho e' (List.mem_cons_of_mem _ he')) hc hk hsc'
    refine ⟨?_, hf⟩
    rw [run, run, List.map_cons, List.map_cons, hs]
    exact .first _ ht
  | second e h ih =>
    have he := hc e List.mem_cons_self
    obtain ⟨hs, hk⟩ := binding_agree limit he hsc
    have hso' := hso.trans (openReplies_binding limit he).symm
    obtain ⟨ht, hf⟩ := ih ho (fun e' he' => hc e' (List.mem_cons_of_mem _ he')) hso' hk
    refine ⟨?_, hf⟩
    rw [run, run, List.map_cons, List.map_cons, hs]
    exact .second _ ht

/-- **Opening and binding in any order.** Steps of the two kinds in turns are seen to do what each kind does alone, in
a session that starts with the same replies to it, and they leave what each kind leaves. -/
theorem opens_and_bindings_independent {turns : List Bool} {os cs es : List Step}
    (h : InTurns turns os cs es) (ho : ∀ e ∈ os, e.Opens) (hc : ∀ e ∈ cs, e.BindsOwn) (s so sc : State)
    (hso : so.kernel.openReplies = s.kernel.openReplies) (hsc : sc.kernel.requestReplies = s.kernel.requestReplies) :
    InTurns turns ((run limit so os).map Answer.seen) ((run limit sc cs).map Answer.seen)
        ((run limit s es).map Answer.seen) ∧
      (finish limit s es).kernel =
        ⟨(finish limit sc cs).kernel.requestReplies, (finish limit so os).kernel.openReplies⟩ ∧
      ∀ a, (run limit s es).getLast? = some a →
        a.left = ((finish limit sc cs).kernel.requestReplies.length, (finish limit so os).kernel.openReplies.length) := by
  obtain ⟨ht, hk⟩ := inTurns_seen limit h ho hc hso hsc
  refine ⟨ht, hk, fun a ha => ?_⟩
  rw [left_of_getLast? limit ha, hk]

/-- An opening that is interrupted and then refused, between a request that is refused and one under a name that is
too long; nothing is left of either script. -/
theorem opens_and_bindings_independent_in_turns :
    let s := State.start ⟨[⟨none, .refused 16⟩], [.refused 4, .refused 13]⟩
    let so := State.start ⟨[], [.refused 4, .refused 13]⟩
    let sc := State.start ⟨[⟨none, .refused 16⟩], []⟩
    let c : Step := .configure .supplied (some 3) (some "tun0") .tap true
    let o : Step := .openDevice true
    let c' : Step := .configureTun (some 4) (some "sixteen-and-more")
    InTurns [false, true, false] [o] [c, c'] [c, o, c'] ∧ (∀ e ∈ [o], e.Opens) ∧ (∀ e ∈ [c, c'], e.BindsOwn) ∧
      so.kernel.openReplies = s.kernel.openReplies ∧ sc.kernel.requestReplies = s.kernel.requestReplies ∧
      InTurns [false, true, false] ((run none so [o]).map Answer.seen) ((run none sc [c, c']).map Answer.seen)
        ((run none s [c, o, c']).map Answer.seen) ∧
      (finish none s [c, o, c']).kernel =
        ⟨(finish none sc [c, c']).kernel.requestReplies, (finish none so [o]).kernel.openReplies⟩ := by
  intro s so sc c o c'
  have h : InTurns [false, true, false] [o] [c, c'] [c, o, c'] := .second c (.first o (.second c' .nil))
  have ho : ∀ e ∈ [o], e.Opens := List.forall_mem_singleton.2 trivial
  have hc : ∀ e ∈ [c, c'], e.BindsOwn :=
    List.forall_mem_cons.2 ⟨⟨rfl, rfl⟩, List.forall_mem_singleton.2 ⟨rfl, rfl⟩⟩
  obtain ⟨ht, hk, -⟩ := opens_and_bindings_independent none h ho hc s so sc rfl rfl
  exact ⟨h, ho, hc, rfl, rfl, ht, hk⟩

end TunTap.Session
