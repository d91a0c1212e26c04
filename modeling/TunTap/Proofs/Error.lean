import Mathlib.Logic.Function.Iterate
import TunTap.Proofs.Errno

/-!
# Errors passed on

A program passes an error on as a system error, and whoever takes it up makes an error of that again. This is one trip
(`Error.passOn`). The first trip may change the form of the error, but no later trip does: an error made of a system
error gives that one back (`iterate_passOn`). No trip loses the number, and the message stays as it is unless a refusal
gives way to the words of the system (`message_toSystem_iff`).
-/

namespace TunTap.Error

/-! ## The message of one trip -/

section Message

variable {e : Error}

theorem message_refused (errno : Errno) :
    (refused errno).message = "Failed to configure the TUN/TAP device: " ++ errno.message := rfl

theorem message_system (s : SystemError) : (system s).message = s.message := rfl

/-- The number stands in brackets after the words of the system. -/
theorem getLast?_message_code (n : Int32) : (SystemError.code n).message.toList.getLast? = some ')' := by
  rw [SystemError.message, String.toList_append]
  exact List.getLast?_concat

theorem getLast?_message_refused (errno : Errno) : (refused errno).message.toList.getLast? ≠ some ')' := by
  rw [message_refused, String.toList_append, List.getLast?_append]
  cases hm : errno.message.toList.getLast? with
  | none => decide
  | some c =>
    rw [Option.some_or, ← hm]
    exact errno.getLast?_message

theorem message_refused_ne (errno : Errno) (n : Int32) : (refused errno).message ≠ (SystemError.code n).message := by
  intro h
  apply getLast?_message_refused errno
  rw [h, getLast?_message_code]

/-- One trip keeps every message but that of a refusal. -/
theorem message_toSystem_iff : e.toSystem.message = e.message ↔ ∀ errno, e ≠ refused errno := by
  cases e with
  | refused errno =>
    constructor
    · intro h
      exact absurd h.symm (message_refused_ne errno errno.number)
    · intro h
      exact absurd rfl (h errno)
  | badName c =>
    rw [toSystem, SystemError.message]
    simp
  | system s =>
    rw [toSystem, message_system]
    simp

end Message

/-! ## Many trips -/

theorem passOn_passOn (e : Error) : e.passOn.passOn = e.passOn := rfl

/-- However many trips there are, the first one decides. -/
theorem iterate_passOn (e : Error) (k : Nat) : passOn^[k + 1] e = e.passOn := by
  rw [Function.iterate_succ_apply]
  exact Function.iterate_fixed (passOn_passOn e) k

theorem toSystem_iterate_passOn (e : Error) (k : Nat) : (passOn^[k] e).toSystem = e.toSystem := by
  cases k with
  | zero => rfl
  | succ k => rw [iterate_passOn, toSystem_passOn]

/-- **Errors settle at once.** The system error of every trip is that of the first one, and the error taken up in the
end holds it. This error has the number of the error sent out, and has its message unless that was a refusal. -/
theorem passOn_settles (e : Error) (k : Nat) :
    (passOn^[k] e).toSystem = e.toSystem ∧ passOn^[k + 1] e = .system e.toSystem ∧
      (passOn^[k + 1] e).number? = e.number? ∧
      ((passOn^[k + 1] e).message = e.message ↔ ∀ errno, e ≠ refused errno) := by
  refine ⟨toSystem_iterate_passOn e k, iterate_passOn e k, ?_, ?_⟩
  · rw [iterate_passOn, number?_passOn]
  · rw [iterate_passOn, passOn, message_system]
    exact message_toSystem_iff

end TunTap.Error
