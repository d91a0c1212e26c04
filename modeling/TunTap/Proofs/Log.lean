import TunTap.Log
import TunTap.Proofs.Errno
import TunTap.Proofs.Text.Quoted

/-!
# What messages tell

A message is written in one way only: the parts that vary can be read off it, whatever they are. The first message of a
configuration tells the descriptor, the mode and the text of the name (`configuring_injective`), the second one the flag
word (`flagWord_injective`), and the message of a refusal the error (`refused_injective`). With the limit `trace` every
event is recorded, and any other limit leaves out the records below it (`records_eq_filter`).
-/

namespace TunTap

/-! ## Limits -/

/-- The levels at or above a limit. -/
def Level.shown : Option Level → List Level
  | none => []
  | some .error => [.error]
  | some .warn => [.error, .warn]
  | some .info => [.error, .warn, .info]
  | some .debug => [.error, .warn, .info, .debug]
  | some .trace => [.error, .warn, .info, .debug, .trace]

theorem Level.passes_eq (limit : Option Level) (l : Level) : l.passes limit = decide (l ∈ shown limit) := by
  rcases limit with _ | m
  · rfl
  · cases m <;> cases l <;> rfl

namespace Event

variable {fd fd' : Descriptor} {m m' : Mode} {n n' : Name}

theorem records_trace (es : List Event) : records (some .trace) es = es.map record :=
  List.filter_eq_self.2 fun r _ => by cases r.level <;> rfl

theorem records_eq_filter (limit : Option Level) (es : List Event) :
    records limit es = (records (some .trace) es).filter fun r => r.level ∈ Level.shown limit := by
  rw [records_trace]
  simp only [records, Level.passes_eq]

/-! ## The messages -/

/-- A name is written with its text between quotes. -/
theorem oneLine_name (n : Name) : n.labelled.oneLine = "IfName(" ++ Quoted.quote n.text ++ ")" := by
  simp [Name.labelled, Labelled.oneLine]

theorem message_configuring (fd : Descriptor) (m : Mode) (n : Name) : (configuring fd m n).message =
    "configuring fd " ++ Numeral.ofInt fd.toInt ++ " as " ++ m.name ++ " device " ++ n.labelled.oneLine := rfl

theorem message_flagWord (f : Flags 16) :
    (flagWord f).message = "TUNSETIFF flags: " ++ ("0x" ++ Numeral.hex 4 f.bits.toNat) := rfl

theorem message_refused (fd : Descriptor) (e : Errno) : (refused fd e).message =
    "TUNSETIFF on fd " ++ Numeral.ofInt fd.toInt ++ " failed: " ++ e.message := rfl

/-! ## What is told -/

theorem eq_of_name_append {s t : String} (h : m.name ++ s = m'.name ++ t) : m = m' ∧ s = t := by
  have hc : ∀ u v : String, "Tun" ++ u ≠ "Tap" ++ v := fun u v h => by
    have hl := congrArg (fun s : String => s.toList[1]?) h
    simp at hl
  cases m <;> cases m'
  · exact ⟨rfl, (String.append_right_inj _).1 h⟩
  · exact absurd h (hc s t)
  · exact absurd h.symm (hc t s)
  · exact ⟨rfl, (String.append_right_inj _).1 h⟩

/-- A decimal numeral is told from the words after it. -/
theorem eq_of_ofInt_append {i j : Int} {s t : String}
    (h : Numeral.ofInt i ++ (" as " ++ s) = Numeral.ofInt j ++ (" as " ++ t)) : i = j ∧ s = t := by
  have hl := congrArg String.toList h
  simp only [String.toList_append] at hl
  obtain ⟨hi, hs⟩ := Numeral.ofInt_append_injective (s := _ ++ s.toList) (t := _ ++ t.toList) hl
  exact ⟨hi, String.toList_injective (List.append_cancel_left hs)⟩

/-- The descriptor, the mode and the name are told one after another. -/
theorem configuring_injective (h : (configuring fd m n).message = (configuring fd' m' n').message) :
    fd = fd' ∧ m = m' ∧ n.text = n'.text := by
  rw [message_configuring, message_configuring, oneLine_name, oneLine_name] at h
  simp only [String.append_assoc, String.append_right_inj] at h
  obtain ⟨hfd, h⟩ := eq_of_ofInt_append h
  obtain ⟨hm, h⟩ := eq_of_name_append h
  rw [String.append_right_inj, String.append_right_inj, String.append_left_inj] at h
  exact ⟨Int32.toInt_inj.1 hfd, hm, Quoted.quote_injective h⟩

/-- The numeral of a flag word has a digit for every four bits. -/
theorem flagWord_injective {f g : Flags 16} (h : (flagWord f).message = (flagWord g).message) : f = g := by
  rw [message_flagWord, message_flagWord, String.append_right_inj, String.append_right_inj] at h
  have hv := congrArg (Numeral.value 16) (String.ofList_injective h)
  have hlt : ∀ f : Flags 16, f.bits.toNat % 16 ^ 4 = f.bits.toNat := fun f => Nat.mod_eq_of_lt f.bits.isLt
  rw [Numeral.value_hexDigits, Numeral.value_hexDigits, hlt, hlt] at hv
  exact congrArg Flags.mk (BitVec.eq_of_toNat_eq hv)

theorem refused_injective {e e' : Errno} (h : (refused fd e).message = (refused fd e').message) : e = e' := by
  rw [message_refused, message_refused, String.append_right_inj] at h
  exact Errno.message_injective h

theorem record_refused_inj {e e' : Errno} : (refused fd e).record = (refused fd e').record ↔ e = e' := by
  constructor
  · intro h
    exact refused_injective (congrArg Record.message h)
  · rintro rfl
    rfl

theorem record_refused_ne_bound (fd fd' : Descriptor) (e : Errno) (n : Name) :
    (refused fd e).record ≠ (bound fd' n).record := fun h => by
  cases congrArg Record.level h

end Event

end TunTap
