import TunTap.Proofs.Session.History

/-!
# Steps under names that are not valid

A step that binds a descriptor under a name that is too long or has a nul byte (`Taken.Rejected`) gives the error that
the name is refused for and leaves no trace (`step_of_rejected`). Any number of such steps can be left out of a
session: the other steps give the answers that they gave before (`rejected_steps_vanish`).
-/

namespace TunTap.Session

/-- The step binds a descriptor under a name that is too long or has a nul byte. -/
def Taken.Rejected (t : Taken) : Prop :=
  ∃ b, t.step.binding? t.before = some b ∧
    (15 < (Utf8.encode b.params.name.toList).length ∨ 0 ∈ Utf8.encode b.params.name.toList)

/-- The answer to a step that does nothing: an error, and everything else as it was. -/
def State.refuse (s : State) (c : NameError) : Answer where
  result := .error (.badName c)
  records := []
  calls := []
  left := (s.kernel.requestReplies.length, s.kernel.openReplies.length)
  held := s.held

/-- The entries of a list but for those whose place, counted from 0, is in `D`. -/
def without {α : Type} (D : Nat → Bool) : List α → List α
  | [] => []
  | a :: l => if D 0 then without (fun i => D (i + 1)) l else a :: without (fun i => D (i + 1)) l

variable {limit : Option Level}

/-- A rejected step leaves no trace. -/
theorem step_of_rejected {s : State} {e : Step} (h : (taken limit s e).Rejected) :
    ∃ b c, e.binding? s = some b ∧ Name.ofString b.params.name = .error c ∧ step limit s e = (s.refuse c, s) := by
  obtain ⟨b, hb, hr⟩ := h
  have hb : e.binding? s = some b := hb
  have hv : ¬ Name.Valid b.params.name := fun hv => by
    rcases hr with hl | h0
    · exact absurd hv.1 (Nat.not_lt.2 hl)
    · exact hv.2 h0
  obtain ⟨c, hc⟩ := Name.ofString_of_not_valid hv
  exact ⟨b, c, hb, hc, step_of_error hb hc⟩

/-- Rejected steps left out. -/
theorem run_without {s : State} {es : List Step} {D : Nat → Bool}
    (h : ∀ i t, (history limit s es)[i]? = some t → D i → t.Rejected) :
    run limit s (without D es) = without D (run limit s es) := by
  induction es generalizing s D with
  | nil => rfl
  | cons e es ih =>
    have h' : ∀ i t, (history limit (step limit s e).2 es)[i]? = some t → D (i + 1) → t.Rejected :=
      fun i t ht => h (i + 1) t ht
    have ih := ih h'
    simp only [without, run]
    split
    · next h0 =>
      -- the steps after a rejected one start from the state before it
      obtain ⟨b, c, -, -, hs⟩ := step_of_rejected (h 0 _ rfl h0)
      rw [hs] at ih ⊢
      exact ih
    · simp only [run]
      rw [ih]

/-- **Rejected steps vanish.** -/
theorem rejected_steps_vanish (limit : Option Level) (s : State) (es : List Step) :
    (∀ t ∈ history limit s es, t.Rejected →
      (∃ b c, t.step.binding? t.before = some b ∧ Name.ofString b.params.name = .error c ∧
        t.answer = t.before.refuse c) ∧
      (step limit t.before t.step).2 = t.before) ∧
    ∀ D : Nat → Bool, (∀ i t, (history limit s es)[i]? = some t → D i → t.Rejected) →
      run limit s (without D es) = without D (run limit s es) := by
  constructor
  · intro t ht hr
    rw [eq_taken_of_mem ht] at hr ⊢
    obtain ⟨b, c, hb, hc, hs⟩ := step_of_rejected hr
    exact ⟨⟨b, c, hb, hc, congrArg Prod.fst hs⟩, congrArg Prod.snd hs⟩
  · exact fun D h => run_without h

/-- A name that is too long stands between a request and one that uses the name given by it. -/
theorem rejected_step_vanishes_between :
    let s := State.start ⟨[⟨some (.ofBytes [0x74, 0x75, 0x6e, 0x37]), .accepted ⟨0, by decide⟩⟩, ⟨none, .refused 13⟩], []⟩
    let es : List Step :=
      [.configure .supplied (some 3) (some "tun%d") .tun false, .configureTun (some 3) (some "sixteen-and-more"),
        .configure .systemCall (some 3) none .tap true]
    let h := history (some .debug) s es
    (∃ t ∈ h, t.Rejected ∧ ∃ c, t.answer = t.before.refuse c) ∧
      (∀ i t, h[i]? = some t → i == 1 → t.Rejected) ∧
      run (some .debug) s (without (· == 1) es) = without (· == 1) (run (some .debug) s es) := by
  intro s es h
  have hr : ∀ i t, h[i]? = some t → i == 1 → t.Rejected := by
    intro i t ht hi
    obtain rfl := eq_of_beq hi
    cases ht
    exact ⟨_, rfl, .inl (by decide)⟩
  have hv := rejected_steps_vanish (some .debug) s es
  have hm : h[1] ∈ h := List.getElem_mem _
  obtain ⟨⟨b, c, -, -, hc⟩, -⟩ := hv.1 _ hm (hr 1 _ rfl rfl)
  exact ⟨⟨_, hm, hr 1 _ rfl rfl, c, hc⟩, hr, hv.2 _ hr⟩

end TunTap.Session
