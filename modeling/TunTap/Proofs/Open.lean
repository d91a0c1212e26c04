import TunTap.Configure

/-!
# Opening the control device

An attempt to open the control device that is interrupted is made again, so what counts is the first reply that is no
interruption (`OpenReply.decisive`). It gives the result; every attempt makes the same call, and takes one reply
(`openControlDevice_eq`). An interruption never counts (`isInterruption_decisive`).
-/

namespace TunTap

/-! ## The reply that counts -/

namespace OpenReply

/-- The reply after which another attempt is made: error number 4. -/
def isInterruption : OpenReply → Bool
  | opened _ => false
  | refused n => n = 4

/-- The first reply that is no interruption; where there is none, the file is missing, which is error number 2. -/
def decisive (rs : List OpenReply) : OpenReply :=
  (rs.dropWhile isInterruption).headD (refused 2)

/-- How many interruptions there are before the reply that counts. -/
def interruptions (rs : List OpenReply) : Nat := (rs.takeWhile isInterruption).length

/-- What a reply that is no interruption makes of an attempt. -/
def result : OpenReply → Except Error Descriptor
  | opened fd => .ok fd
  | refused n => .error (.system (.code n))

/-- An interruption never counts. -/
theorem isInterruption_decisive (rs : List OpenReply) : (decisive rs).isInterruption = false := by
  induction rs with
  | nil => decide
  | cons r rs ih =>
    cases h : r.isInterruption with
    | false => simp [decisive, h]
    | true => simpa [decisive, h] using ih

theorem drop_interruptions (rs : List OpenReply) : rs.drop (interruptions rs) = rs.dropWhile isInterruption := by
  have h : (rs.takeWhile isInterruption ++ rs.dropWhile isInterruption).drop (interruptions rs) =
      rs.dropWhile isInterruption := List.drop_left
  rwa [List.takeWhile_append_dropWhile] at h

/-- The reply that counts is the one after the interruptions. -/
theorem decisive_eq (rs : List OpenReply) : decisive rs = rs[interruptions rs]?.getD (refused 2) := by
  rw [decisive, ← drop_interruptions, List.headD_eq_head?_getD, List.head?_drop]

/-- The replies after the one that counts. -/
theorem tail_dropWhile (rs : List OpenReply) :
    (rs.dropWhile isInterruption).tail = rs.drop (interruptions rs + 1) := by
  rw [← drop_interruptions, List.tail_drop]

end OpenReply

/-! ## Attempts -/

open openControlDevice

variable (nonBlocking : Bool) (k : Kernel)

/-- The attempts against given replies. -/
theorem attempt_eq : ∀ rs : List OpenReply, attempt nonBlocking k rs =
    ⟨(OpenReply.decisive rs).result, [],
      List.replicate ((rs.takeWhile OpenReply.isInterruption).length + 1) (call nonBlocking),
      { k with openReplies := (rs.dropWhile OpenReply.isInterruption).tail }⟩
  | [] => rfl
  | .opened _ :: _ => rfl
  | .refused n :: rs => by
    by_cases hn : n = Errno.interrupted
    · have hi : (OpenReply.refused n).isInterruption = true := decide_eq_true hn
      simp only [attempt, if_pos hn, attempt_eq rs, OpenReply.decisive, List.takeWhile_cons, List.dropWhile_cons, hi]
      rfl
    · have hi : (OpenReply.refused n).isInterruption = false := decide_eq_false hn
      simp only [attempt, if_neg hn, OpenReply.decisive, List.takeWhile_cons, List.dropWhile_cons, hi]
      rfl

/-- **Opening the control device.** -/
theorem openControlDevice_eq : openControlDevice nonBlocking k =
    ⟨(OpenReply.decisive k.openReplies).result, [],
      List.replicate ((k.openReplies.takeWhile OpenReply.isInterruption).length + 1) (call nonBlocking),
      { k with openReplies := (k.openReplies.dropWhile OpenReply.isInterruption).tail }⟩ :=
  attempt_eq nonBlocking k k.openReplies

end TunTap
