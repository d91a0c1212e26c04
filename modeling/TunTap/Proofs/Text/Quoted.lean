import TunTap.Proofs.Text.Numeral
import TunTap.Text.Quoted

/-!
# Quoted text read back

Each escape is read back as the character that it stands for, whatever follows it (`unescape_escape`). A text that
spells out an escape has its backslash escaped in turn, so it is not taken for that escape: a quoted form shows the
text that it was made of (`shows_quote`) and no other (`Shows.unique`), and different texts have different quoted forms
(`quote_injective`). Which characters are hidden does not matter for this.
-/

namespace TunTap.Quoted

/-- The character that a letter after a backslash stands for. -/
def ofLetter : Char → Char
  | '0' => '\x00'
  | 't' => '\t'
  | 'r' => '\r'
  | 'n' => '\n'
  | c => c

/-- The character after a backslash, and what follows. -/
def unescapeAfter : List Char → Option (Char × List Char)
  | [] => none
  | 'u' :: '\x7b' :: s => some (.ofNat (Numeral.value 16 (s.takeWhile (· ≠ '\x7d'))), (s.dropWhile (· ≠ '\x7d')).tail)
  | l :: s => some (ofLetter l, s)

/-- The first character inside quotes, and what follows. A quote ends the text. -/
def unescape : List Char → Option (Char × List Char)
  | [] => none
  | c :: s => if c = '\\' then unescapeAfter s else if c = '"' then none else some (c, s)

/-- What stands inside quotes reads as these characters, one after another. -/
inductive Reads : List Char → List Char → Prop
  | nil : Reads [] []
  | cons {s rest cs : List Char} {c : Char} (first : unescape s = some (c, rest)) (others : Reads rest cs) :
    Reads s (c :: cs)

/-- A quoted form that reads as a text. -/
def Shows (quoted text : String) : Prop :=
  ∃ s, quoted = String.ofList ('"' :: s ++ ['"']) ∧ Reads s text.toList

/-! ## Escapes -/

/-- A code point ends before the closing brace. -/
theorem unescape_codePoint (c : Char) (rest : List Char) : unescape (codePoint c ++ rest) = some (c, rest) := by
  have hn : '\x7d' ∉ Nat.toDigits 16 c.toNat := Numeral.notMem_toDigits (by decide) (by decide) _
  have hb : ∀ d ∈ Nat.toDigits 16 c.toNat, decide (d ≠ '\x7d') = true := fun d hd =>
    decide_eq_true fun h => hn (h ▸ hd)
  have ht : (Nat.toDigits 16 c.toNat ++ '\x7d' :: rest).takeWhile (· ≠ '\x7d') = Nat.toDigits 16 c.toNat := by
    rw [List.takeWhile_append_of_pos hb]
    simp
  have hd : (Nat.toDigits 16 c.toNat ++ '\x7d' :: rest).dropWhile (· ≠ '\x7d') = '\x7d' :: rest := by
    rw [List.dropWhile_append_of_pos hb]
    simp
  have he : codePoint c ++ rest = '\\' :: 'u' :: '\x7b' :: (Nat.toDigits 16 c.toNat ++ '\x7d' :: rest) := by
    simp [codePoint]
  rw [he, unescape, if_pos rfl, unescapeAfter, ht, hd, Numeral.value_toDigits (by decide) (by decide),
    Char.ofNat_toNat]
  rfl

/-- A character inside quotes is read back, whatever follows it. -/
theorem unescape_escape (c : Char) (rest : List Char) : unescape (escape c ++ rest) = some (c, rest) := by
  unfold escape
  split
  case h_7 hq hb =>
    split
    · exact unescape_codePoint c rest
    · exact (if_neg hb).trans (if_neg hq)
  all_goals rfl

/-! ## Texts -/

theorem reads_escape (cs : List Char) : Reads (cs.flatMap escape) cs := by
  induction cs with
  | nil => exact .nil
  | cons c cs ih => exact .cons (unescape_escape c (cs.flatMap escape)) ih

/-- What stands inside quotes reads in one way. -/
theorem Reads.unique {s cs ds : List Char} (h : Reads s cs) (h' : Reads s ds) : cs = ds := by
  induction h generalizing ds with
  | nil =>
    cases h' with
    | nil => rfl
    | cons first others => cases first
  | cons first others ih =>
    cases h' with
    | nil => cases first
    | cons first' others' =>
      obtain ⟨rfl, rfl⟩ := Prod.mk.inj (Option.some.inj (first.symm.trans first'))
      rw [ih others']

theorem shows_quote (s : String) : Shows (quote s) s := ⟨_, rfl, reads_escape s.toList⟩

/-- A quoted form shows one text. -/
theorem Shows.unique {q s t : String} (h : Shows q s) (h' : Shows q t) : s = t := by
  obtain ⟨u, hu, hs⟩ := h
  obtain ⟨v, hv, ht⟩ := h'
  have hl := String.ofList_injective (hu.symm.trans hv)
  obtain rfl : u = v := (List.cons.inj (List.append_cancel_right hl)).2
  exact String.toList_injective (hs.unique ht)

theorem quote_injective {s t : String} (h : quote s = quote t) : s = t :=
  (shows_quote s).unique (h ▸ shows_quote t)

end TunTap.Quoted
