import Mathlib.Data.List.Forall2
import TunTap.Proofs.Session.History

/-!
# What a session learns from replies

Of what the kernel writes to a request, a program learns the name that it ends with if the request is accepted, and
nothing if it is refused. Replies that agree in this are alike (`RequestReply.Alike`); kernels whose replies are alike
give equal answers to a step and stay alike (`step_alike`), so whole sessions cannot tell them apart
(`only_names_are_learned`). In particular the bytes that are no part of the name can be any bytes at all
(`RequestReply.withRest`).
-/

namespace TunTap

/-! ## Fields with the same name -/

namespace NameField

/-- The stem, the nul byte after it if there is room for one before the last byte, and then the bytes of another
field. -/
def withRest (f g : NameField) : NameField :=
  .ofBytes (f.stem ++
    if f.stem.length = nameSize - 1 then g.toList.drop f.stem.length else 0 :: g.toList.drop (f.stem.length + 1))

/-- The other field does not change the stem. -/
theorem stem_withRest (f g : NameField) : (f.withRest g).stem = f.stem := by
  have hl := f.length_stem_lt
  unfold withRest
  by_cases hn : f.stem.length = nameSize - 1
  · rw [if_pos hn]
    exact stem_ofBytes_append (by simp; omega) hl f.nul_notMem_stem (.inl hn)
  · rw [if_neg hn]
    exact stem_ofBytes_append (by simp; omega) hl f.nul_notMem_stem (.inr rfl)

theorem ofField_withRest (f g : NameField) : Name.ofField (f.withRest g) = Name.ofField f := by
  rw [Name.ofField, stem_withRest, Name.ofField]

end NameField

/-! ## Replies -/

namespace RequestReply

/-- Both refuse with the same number, or both accept and leave the same name behind, or none. -/
inductive Alike : RequestReply → RequestReply → Prop
  | refused (a a' : Option NameField) (n : Int32) : Alike ⟨a, .refused n⟩ ⟨a', .refused n⟩
  | accepted {a a' : Option NameField} (v v' : { v : Int32 // v ≠ -1 }) (h : a.map Name.ofField = a'.map Name.ofField) :
    Alike ⟨a, .accepted v⟩ ⟨a', .accepted v'⟩

/-- The reply with other bytes wherever they do not count. -/
def withRest (reply : RequestReply) (g : NameField) : RequestReply :=
  match reply.outcome with
  | .accepted _ => { reply with assigned := reply.assigned.map fun f => f.withRest g }
  | .refused _ => { reply with assigned := some g }

theorem alike_withRest (reply : RequestReply) (g : NameField) : (reply.withRest g).Alike reply := by
  obtain ⟨a, o⟩ := reply
  cases o with
  | accepted v =>
    refine .accepted v v ?_
    cases a with
    | none => rfl
    | some f => exact congrArg some (f.ofField_withRest g)
  | refused n => exact .refused _ a n

theorem forall₂_withRest (g : Nat → NameField) : ∀ rs : List RequestReply,
    List.Forall₂ Alike (rs.mapIdx fun i reply => reply.withRest (g i)) rs
  | [] => .nil
  | reply :: rs => by
    rw [List.mapIdx_cons]
    exact .cons (reply.alike_withRest (g 0)) (forall₂_withRest (fun i => g (i + 1)) rs)

theorem chosen_eq (reply : RequestReply) (name : Name) :
    reply.chosen name = (reply.assigned.map Name.ofField).getD name := by
  unfold chosen
  cases reply.assigned <;> rfl

section Alike

variable {reply reply' : RequestReply} (h : reply.Alike reply') (name : Name)

include h

theorem Alike.result : reply.result name = reply'.result name := by
  cases h with
  | refused => rfl
  | accepted v v' h => simp only [RequestReply.result, chosen_eq, h]

theorem Alike.event (fd : Descriptor) : reply.event fd name = reply'.event fd name := by
  cases h with
  | refused => rfl
  | accepted v v' h => simp only [RequestReply.event, chosen_eq, h]

end Alike

end RequestReply

/-! ## Kernels -/

namespace Kernel

/-- The replies to requests are alike one by one, and the replies to opens are the same. -/
structure Alike (k k' : Kernel) : Prop where
  requests : List.Forall₂ RequestReply.Alike k.requestReplies k'.requestReplies
  opens : k.openReplies = k'.openReplies

variable {k k' : Kernel} (h : k.Alike k')

include h

theorem Alike.nextReply : k.nextReply.Alike k'.nextReply := by
  obtain ⟨rs, opens⟩ := k
  obtain ⟨rs', opens'⟩ := k'
  cases show List.Forall₂ RequestReply.Alike rs rs' from h.requests with
  | nil => exact .accepted _ _ rfl
  | cons hr => exact hr

theorem Alike.afterReply : k.afterReply.Alike k'.afterReply := by
  obtain ⟨rs, opens⟩ := k
  obtain ⟨rs', opens'⟩ := k'
  refine ⟨?_, h.opens⟩
  cases show List.Forall₂ RequestReply.Alike rs rs' from h.requests with
  | nil => exact .nil
  | cons _ hr => exact hr

end Kernel

/-! ## Sessions -/

namespace Session

/-- A step gives the same answer with kernels that are alike, and leaves them alike. -/
theorem step_alike (limit : Option Level) (e : Step) {s : State} {k : Kernel} (h : s.kernel.Alike k) :
    ∃ k', (step limit s e).2.kernel.Alike k' ∧
      step limit { s with kernel := k } e = ((step limit s e).1, { (step limit s e).2 with kernel := k' }) := by
  have hl := h.requests.length_eq
  rcases e.opens_or_binds s with ⟨nonBlocking, rfl⟩ | ⟨b, hb, hn⟩
  · refine ⟨{ k with openReplies := (k.openReplies.dropWhile OpenReply.isInterruption).tail }, ?_, ?_⟩
    · rw [step_openDevice]
      exact ⟨h.requests, congrArg (fun rs => (rs.dropWhile OpenReply.isInterruption).tail) h.opens⟩
    · rw [step_openDevice, step_openDevice]
      simp only [hl, h.opens]
  · have hb' : e.binding? { s with kernel := k } = some b := by rw [← hb]; cases e <;> rfl
    rcases hn with ⟨c, hn⟩ | ⟨n, hn⟩
    · refine ⟨k, ?_, ?_⟩
      · rw [step_of_error hb hn]
        exact h
      · rw [step_of_error hb hn, step_of_error hb' hn]
        simp only [hl, h.opens]
    · refine ⟨k.afterReply, ?_, ?_⟩
      · rw [step_of_ok hb hn]
        exact h.afterReply
      · rw [step_of_ok hb hn, step_of_ok hb' hn]
        simp only [h.nextReply.result, h.nextReply.event, hl, h.opens]
        cases e <;> rfl

theorem run_alike (limit : Option Level) (es : List Step) {s : State} {k : Kernel} (h : s.kernel.Alike k) :
    run limit { s with kernel := k } es = run limit s es := by
  induction es generalizing s k with
  | nil => rfl
  | cons e es ih =>
    obtain ⟨k', hk, hs⟩ := step_alike limit e h
    rw [run, run, hs, ih hk]

/-- **Only names are learned.** Sessions against scripts that are alike give the same answers, and so do sessions
against a script and the same script with any bytes where they do not count. -/
theorem only_names_are_learned (limit : Option Level) (held : Option Descriptor) (lastName : String)
    (opens : List OpenReply) (es : List Step) :
    (∀ rs rs' : List RequestReply, List.Forall₂ RequestReply.Alike rs rs' →
      run limit ⟨⟨rs, opens⟩, held, lastName⟩ es = run limit ⟨⟨rs', opens⟩, held, lastName⟩ es) ∧
    ∀ (rs : List RequestReply) (g : Nat → NameField),
      run limit ⟨⟨rs.mapIdx fun i reply => reply.withRest (g i), opens⟩, held, lastName⟩ es =
        run limit ⟨⟨rs, opens⟩, held, lastName⟩ es := by
  have hrun : ∀ rs rs' : List RequestReply, List.Forall₂ RequestReply.Alike rs rs' →
      run limit ⟨⟨rs, opens⟩, held, lastName⟩ es = run limit ⟨⟨rs', opens⟩, held, lastName⟩ es :=
    fun rs rs' h => (run_alike limit es (s := ⟨⟨rs, opens⟩, held, lastName⟩) (k := ⟨rs', opens⟩) ⟨h, rfl⟩).symm
  exact ⟨hrun, fun rs g => hrun _ _ (RequestReply.forall₂_withRest g rs)⟩

/-- A request that is refused after its name field was written over, and one that is accepted with bytes behind the
name; the name is used again. -/
theorem only_names_are_learned_from_written_fields :
    let rs : List RequestReply :=
      [⟨some (.ofBytes (List.replicate 16 0x78)), .refused 16⟩,
        ⟨some (.ofBytes [0x74, 0x75, 0x6e, 0x37, 0, 0x78, 0x79]), .accepted ⟨0, by decide⟩⟩]
    let rs' : List RequestReply :=
      [⟨none, .refused 16⟩, ⟨some (.ofBytes [0x74, 0x75, 0x6e, 0x37]), .accepted ⟨5, by decide⟩⟩]
    let es : List Step :=
      [.configure .supplied (some 3) (some "tap0") .tap true, .configure .systemCall (some 3) (some "tun%d") .tun false,
        .configure .supplied (some 3) none .tun true]
    List.Forall₂ RequestReply.Alike rs rs' ∧
      run (some .trace) ⟨⟨rs, []⟩, none, ""⟩ es = run (some .trace) ⟨⟨rs', []⟩, none, ""⟩ es := by
  intro rs rs' es
  have h : List.Forall₂ RequestReply.Alike rs rs' :=
    .cons (.refused _ _ 16) (.cons (.accepted _ _ (by decide)) .nil)
  exact ⟨h, (only_names_are_learned (some .trace) none "" [] es).1 rs rs' h⟩

end Session

end TunTap
