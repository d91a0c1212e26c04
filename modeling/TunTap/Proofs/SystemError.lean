import TunTap.Proofs.Errno

/-!
# System errors told apart

Of a system error one sees the kind, the message and the number, if there is one (`SystemError.view`). This is enough
to tell which refusal or which fault of a name it was made of (`toSystem_tells_apart`). A refusal always has a number,
0 at least, and the number says which refusal it is; a fault of a name has none, and its message says how long the
name was (`NameError.message_injective`). The kind alone tells nothing: some refusals have that of the faults of names.
-/

namespace TunTap

/-! ## Faults of names -/

namespace NameError

theorem message_tooLong (n : Nat) : (tooLong n).message =
    "Interface name is " ++ Numeral.ofNat n ++ " bytes long, at most 15 are allowed" := rfl

theorem message_containsNul : containsNul.message = "Interface name contains a nul byte" := rfl

/-- The messages part ways after the words that they share. -/
theorem message_tooLong_ne (n : Nat) : (tooLong n).message ≠ containsNul.message := by
  intro h
  -- both begin with the same 15 characters
  have hc := congrArg (fun s : String => s.toList[15]?) h
  simp [message_tooLong, message_containsNul] at hc

theorem message_injective {c c' : NameError} (h : c.message = c'.message) : c = c' := by
  cases c with
  | tooLong m =>
    cases c' with
    | tooLong n =>
      rw [message_tooLong, message_tooLong, String.append_left_inj, String.append_right_inj] at h
      rw [Int.ofNat.inj (Numeral.ofInt_injective h)]
    | containsNul => exact absurd h (message_tooLong_ne m)
  | containsNul =>
    cases c' with
    | tooLong n => exact absurd h.symm (message_tooLong_ne n)
    | containsNul => rfl

end NameError

/-! ## What is seen of a system error -/

/-- A kind, a message and a number. -/
structure SystemError.View where
  kind : ErrorKind
  message : String
  number? : Option Int32
deriving DecidableEq

/-- What is seen of a system error that is not taken apart. -/
def SystemError.view (s : SystemError) : View := ⟨s.kind, s.message, s.number?⟩

namespace Error

theorem view_badName (c : NameError) :
    (badName c).toSystem.view = ⟨.invalidInput, (badName c).message, none⟩ := rfl

/-- An error that holds no system error is a refusal or a fault of a name. -/
theorem source?_eq_none_iff {e : Error} :
    e.source? = none ↔ (∃ errno, e = refused errno) ∨ ∃ c, e = badName c := by
  cases e <;> simp [source?]

/-- The view shows the number of the error, which tells refusals from faults of names. -/
theorem number?_eq_of_view_eq {e e' : Error} (h : e.toSystem.view = e'.toSystem.view) : e.number? = e'.number? := by
  rw [← number?_toSystem e, ← number?_toSystem e']
  exact congrArg SystemError.View.number? h

theorem eq_of_view_eq {e e' : Error} (he : e.source? = none) (he' : e'.source? = none)
    (h : e.toSystem.view = e'.toSystem.view) : e = e' := by
  have hn := number?_eq_of_view_eq h
  rcases source?_eq_none_iff.1 he with ⟨m, rfl⟩ | ⟨c, rfl⟩ <;>
    rcases source?_eq_none_iff.1 he' with ⟨n, rfl⟩ | ⟨c', rfl⟩
  · rw [Errno.eq_of_number_eq (Option.some.inj hn)]
  · cases hn
  · cases hn
  · have hm : c.message = c'.message := congrArg SystemError.View.message h
    rw [NameError.message_injective hm]

/-- **System errors told apart.** Refusals and faults of names are seen to be equal only if they are, and a fault of a
name is seen as invalid input without a number, under its own message. -/
theorem toSystem_tells_apart :
    (∀ e e' : Error, e.source? = none → e'.source? = none → (e.toSystem.view = e'.toSystem.view ↔ e = e')) ∧
      ∀ c : NameError, (badName c).toSystem.kind = .invalidInput ∧ (badName c).toSystem.number? = none ∧
        (badName c).toSystem.message = (badName c).message := by
  refine ⟨fun e e' he he' => ⟨eq_of_view_eq he he', fun h => by rw [h]⟩, fun c => ?_⟩
  have hv := view_badName c
  exact ⟨congrArg SystemError.View.kind hv, congrArg SystemError.View.number? hv,
    congrArg SystemError.View.message hv⟩

/-- A refusal that has the kind of a fault of a name, the refusal with number 0, and the longest of all names. -/
theorem toSystem_tells_apart_of_one_kind :
    let e := refused (.ofNumber 22)
    let e' := badName .containsNul
    let longest := badName (.tooLong (2 ^ 64 - 1))
    e.source? = none ∧ e'.source? = none ∧ longest.source? = none ∧ (refused .unknown).source? = none ∧
      e.toSystem.kind = e'.toSystem.kind ∧ e.toSystem.view ≠ e'.toSystem.view ∧
      e'.toSystem.view ≠ longest.toSystem.view ∧ longest.toSystem.view ≠ (refused .unknown).toSystem.view := by
  intro e e' longest
  obtain ⟨h, hname⟩ := toSystem_tells_apart
  have hk : e.toSystem.kind = .invalidInput := by decide +kernel
  refine ⟨rfl, rfl, rfl, rfl, hk.trans (hname .containsNul).1.symm, ?_, ?_, ?_⟩
  · exact mt (h e e' rfl rfl).1 (by decide)
  · exact mt (h e' longest rfl rfl).1 (by decide)
  · exact mt (h longest (refused .unknown) rfl rfl).1 (by decide)

end Error

end TunTap
