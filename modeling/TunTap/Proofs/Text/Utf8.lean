import TunTap.Text.Utf8

/-!
# What decoding keeps of the bytes

Decoding reads every encoded text back (`decode_encode`), so a byte string is well-formed exactly if encoding gives
it back after decoding (`wellFormed_iff`). Ill-formed bytes become replacement characters of three bytes each, and no
more than one for a byte: the text is at most three times as long as the bytes (`length_encode_decode_le`). A nul
character comes from a nul byte only (`nul_mem_of_mem_decode`), as a character begun is never one of the first 128
(`Pending.Sound`).
-/

namespace TunTap.Utf8

/-! ## Characters read back -/

section ReadBack

variable {p : Pending} {a b : UInt8} (bs : List UInt8)

theorem decode_cons (b : UInt8) : decode (b :: bs) = (start b).1 ++ decodeFrom (start b).2 bs := rfl

/-- The last byte of a character. -/
theorem decodeFrom_last (ho : p.owed = 0) (hl : p.low ≤ b) (hh : b ≤ p.high) :
    decodeFrom (some p) (b :: bs) = Char.ofNat (p.value * 64 + (b.toNat - 0x80)) :: decode bs := by
  simp [decodeFrom, step, hl, hh, Pending.push, ho, decode]

/-- A byte of a character before the last one. -/
theorem decodeFrom_next {n : Nat} (ho : p.owed = n + 1) (hl : p.low ≤ b) (hh : b ≤ p.high) :
    decodeFrom (some p) (b :: bs) = decodeFrom (some ⟨p.value * 64 + (b.toNat - 0x80), n, 0x80, 0xbf⟩) bs := by
  simp [decodeFrom, step, hl, hh, Pending.push, ho]

theorem start_one (h : a.toNat < 0x80) : start a = ([Char.ofNat a.toNat], none) := by
  simp only [start, UInt8.lt_iff_toNat_lt, UInt8.reduceToNat]
  rw [if_pos h]

theorem start_two (h : 0xc2 ≤ a.toNat) (h' : a.toNat < 0xe0) :
    start a = ([], some ⟨a.toNat - 0xc0, 0, 0x80, 0xbf⟩) := by
  simp only [start, UInt8.lt_iff_toNat_lt, UInt8.reduceToNat]
  rw [if_neg (by omega), if_neg (by omega), if_pos (by omega)]

theorem start_three (h : 0xe0 ≤ a.toNat) (h' : a.toNat < 0xf0) :
    start a = ([], some ⟨a.toNat - 0xe0, 1, if a = 0xe0 then 0xa0 else 0x80, if a = 0xed then 0x9f else 0xbf⟩) := by
  simp only [start, UInt8.lt_iff_toNat_lt, UInt8.reduceToNat]
  rw [if_neg (by omega), if_neg (by omega), if_neg (by omega), if_pos (by omega)]

theorem start_four (h : 0xf0 ≤ a.toNat) (h' : a.toNat < 0xf5) :
    start a = ([], some ⟨a.toNat - 0xf0, 2, if a = 0xf0 then 0x90 else 0x80, if a = 0xf4 then 0x8f else 0xbf⟩) := by
  simp only [start, UInt8.lt_iff_toNat_lt, UInt8.reduceToNat]
  rw [if_neg (by omega), if_neg (by omega), if_neg (by omega), if_neg (by omega), if_pos (by omega)]

theorem toNat_ofNat {n : Nat} (h : n < 256) : (UInt8.ofNat n).toNat = n := by
  simp [Nat.mod_eq_of_lt h]

/-- A byte after the first one, with the low six bits of `n`. -/
def tail (n : Nat) : UInt8 := .ofNat (n % 0x40 + 0x80)

theorem toNat_tail (n : Nat) : (tail n).toNat = n % 0x40 + 0x80 := toNat_ofNat (by omega)

theorem le_tail {low : UInt8} {n : Nat} (h : low.toNat ≤ n % 0x40 + 0x80) : low ≤ tail n := by
  rw [UInt8.le_iff_toNat_le, toNat_tail]; exact h

theorem tail_le {high : UInt8} {n : Nat} (h : n % 0x40 + 0x80 ≤ high.toNat) : tail n ≤ high := by
  rw [UInt8.le_iff_toNat_le, toNat_tail]; exact h

/-- Without narrower bounds every such byte is in range. -/
theorem tail_range (n : Nat) : 0x80 ≤ tail n ∧ tail n ≤ 0xbf :=
  ⟨le_tail (by simp), tail_le (by simp; omega)⟩

section Range

variable {c : Prop} [Decidable c] {n : Nat}

/-- In range where the lower bound is narrower in one case. -/
theorem ite_le_tail {low : UInt8} (h : c → low.toNat ≤ n % 0x40 + 0x80) : (if c then low else 0x80) ≤ tail n := by
  split
  · next hc => exact le_tail (h hc)
  · exact (tail_range n).1

/-- In range where the upper bound is narrower in one case. -/
theorem tail_le_ite {high : UInt8} (h : c → n % 0x40 + 0x80 ≤ high.toNat) : tail n ≤ (if c then high else 0xbf) := by
  split
  · next hc => exact tail_le (h hc)
  · exact (tail_range n).2

end Range

/-- The last byte of a character gives its low six bits. -/
theorem decodeFrom_tail {v n m : Nat} (h : v * 64 + n % 0x40 = m) :
    decodeFrom (some ⟨v, 0, 0x80, 0xbf⟩) (tail n :: bs) = Char.ofNat m :: decode bs := by
  rw [decodeFrom_last bs rfl (tail_range n).1 (tail_range n).2, toNat_tail, Nat.add_sub_cancel, h]

theorem decode_one {n : Nat} (h : n ≤ 0x7f) : decode (.ofNat n :: bs) = Char.ofNat n :: decode bs := by
  have ha := toNat_ofNat (n := n) (by omega)
  rw [decode_cons, start_one (by omega), ha]
  rfl

theorem decode_two {n : Nat} (h : 0x7f < n) (h' : n ≤ 0x7ff) :
    decode (.ofNat (n / 64 % 0x20 + 0xc0) :: tail n :: bs) = Char.ofNat n :: decode bs := by
  have ha := toNat_ofNat (n := n / 64 % 0x20 + 0xc0) (by omega)
  rw [decode_cons, start_two (by omega) (by omega)]
  exact decodeFrom_tail bs (by omega)

theorem decode_three {n : Nat} (h : 0x7ff < n) (h' : n ≤ 0xffff) (hs : n < 0xd800 ∨ 0xdfff < n) :
    decode (.ofNat (n / 4096 % 0x10 + 0xe0) :: tail (n / 64) :: tail n :: bs) = Char.ofNat n :: decode bs := by
  have ha := toNat_ofNat (n := n / 4096 % 0x10 + 0xe0) (by omega)
  have hb := toNat_tail (n / 64)
  generalize UInt8.ofNat (n / 4096 % 0x10 + 0xe0) = a at ha ⊢
  -- the narrower bounds leave out overlong forms and surrogates, and `n` is neither
  have hl : (if a = 0xe0 then 0xa0 else 0x80) ≤ tail (n / 64) :=
    ite_le_tail fun e => by rw [e] at ha; simp at ha ⊢; omega
  have hh : tail (n / 64) ≤ (if a = 0xed then 0x9f else 0xbf) :=
    tail_le_ite fun e => by rw [e] at ha; simp at ha ⊢; omega
  rw [decode_cons, start_three (by omega) (by omega), List.nil_append, decodeFrom_next _ rfl hl hh]
  exact decodeFrom_tail bs (by dsimp only; omega)

theorem decode_four {n : Nat} (h : 0xffff < n) (h' : n < 0x110000) :
    decode (.ofNat (n / 262144 % 0x08 + 0xf0) :: tail (n / 4096) :: tail (n / 64) :: tail n :: bs) =
      Char.ofNat n :: decode bs := by
  have ha := toNat_ofNat (n := n / 262144 % 0x08 + 0xf0) (by omega)
  have hb := toNat_tail (n / 4096)
  have hc := toNat_tail (n / 64)
  generalize UInt8.ofNat (n / 262144 % 0x08 + 0xf0) = a at ha ⊢
  have hl : (if a = 0xf0 then 0x90 else 0x80) ≤ tail (n / 4096) :=
    ite_le_tail fun e => by rw [e] at ha; simp at ha ⊢; omega
  have hh : tail (n / 4096) ≤ (if a = 0xf4 then 0x8f else 0xbf) :=
    tail_le_ite fun e => by rw [e] at ha; simp at ha ⊢; omega
  rw [decode_cons, start_four (by omega) (by omega), List.nil_append, decodeFrom_next _ rfl hl hh,
    decodeFrom_next _ rfl (tail_range _).1 (tail_range _).2]
  exact decodeFrom_tail bs (by dsimp only; omega)

/-- The encoding of a character is read back as the character. -/
theorem decode_encodeChar (c : Char) : decode (String.utf8EncodeChar c ++ bs) = c :: decode bs := by
  have hv : c.toNat < 0xd800 ∨ 0xdfff < c.toNat ∧ c.toNat < 0x110000 := c.valid
  have hc : Char.ofNat c.toNat = c := Char.ofNat_toNat c
  unfold String.utf8EncodeChar
  simp only [Char.toNat] at hv hc ⊢
  generalize c.val.toNat = n at hv hc ⊢
  rw [← hc]
  split
  · next h => exact decode_one bs h
  split
  · next h h' => exact decode_two bs (by omega) h'
  split
  · next h h' => exact decode_three bs (by omega) h' (by omega)
  · exact decode_four bs (by omega) (by omega)

end ReadBack

/-- Decoding gives an encoded text back, whatever follows it. -/
theorem decode_encode_append (bs : List UInt8) : ∀ s : List Char, decode (encode s ++ bs) = s ++ decode bs
  | [] => rfl
  | c :: s => by
    rw [encode, List.flatMap_cons, List.append_assoc, decode_encodeChar, ← encode, decode_encode_append bs s]
    rfl

theorem decode_encode (s : List Char) : decode (encode s) = s := by
  have h := decode_encode_append [] s
  rw [List.append_nil] at h
  rw [h]
  exact List.append_nil s

theorem encode_injective {s t : List Char} (h : encode s = encode t) : s = t := by
  rw [← decode_encode s, h, decode_encode]

/-- The well-formed byte strings are those that encoding gives back after decoding. -/
theorem wellFormed_iff {bs : List UInt8} : WellFormed bs ↔ encode (decode bs) = bs := by
  constructor
  · rintro ⟨s, rfl⟩
    rw [decode_encode]
  · exact fun h => ⟨_, h⟩

/-! ## The bytes of a string -/

theorem encode_toList (s : String) : encode s.toList = s.toUTF8.data.toList := by
  have h : s.toList.utf8Encode = s.toByteArray := String.utf8Encode_toList
  show _ = s.toByteArray.data.toList
  rw [← h, List.utf8Encode, List.data_toByteArray]
  rfl

theorem length_encode_toList (s : String) : (encode s.toList).length = s.utf8ByteSize := by
  rw [encode_toList]
  rfl

/-! ## Growth -/

/-- The bytes still to be paid for: a character begun may end as a replacement character. -/
def debt : Option Pending → Nat
  | none => 0
  | some _ => 3

theorem length_encode_singleton (c : Char) : (encode [c]).length = c.utf8Size := by
  simp [encode]

theorem utf8Size_ofNat_of_lt : ∀ n < 0x80, (Char.ofNat n).utf8Size = 1 := by
  decide

/-- The first byte of a piece pays for what it gives and for what it begins. -/
theorem length_encode_start_le (b : UInt8) : (encode (start b).1).length + debt (start b).2 ≤ 3 := by
  unfold start
  split
  · next h =>
    rw [length_encode_singleton, utf8Size_ofNat_of_lt _ (UInt8.lt_iff_toNat_lt.1 h)]
    simp [debt]
  split
  · decide
  split
  · simp [debt]
  split
  · simp [debt]
  split
  · simp [debt]
  · decide

/-- A byte in the range owed pays for the fourth byte of a character. -/
theorem length_encode_push_le (p : Pending) (b : UInt8) : (encode (p.push b).1).length + debt (p.push b).2 ≤ 6 := by
  unfold Pending.push
  split
  · have := Char.utf8Size_le_four (Char.ofNat (p.value * 64 + (b.toNat - 0x80)))
    simp only [length_encode_singleton, debt]
    omega
  · simp [debt]

/-- Every byte pays for what it gives and begins, with what the character begun before still owes. -/
theorem length_encode_step_le (q : Option Pending) (b : UInt8) :
    (encode (step q b).1).length + debt (step q b).2 ≤ 3 + debt q := by
  cases q with
  | none => exact length_encode_start_le b
  | some p =>
    simp only [step]
    split
    · exact length_encode_push_le p b
    · have h := length_encode_start_le b
      have hr : (encode [replacement]).length = 3 := by decide
      rw [← List.singleton_append, encode_append, List.length_append, hr]
      simp only [debt] at h ⊢
      omega

theorem length_encode_decodeFrom_le : ∀ (q : Option Pending) (bs : List UInt8),
    (encode (decodeFrom q bs)).length ≤ 3 * bs.length + debt q
  | none, [] => Nat.le_refl 0
  | some _, [] => Nat.le_refl 3
  | q, b :: bs => by
    have h₁ := length_encode_step_le q b
    have h₂ := length_encode_decodeFrom_le (step q b).2 bs
    simp only [decodeFrom, encode_append, List.length_append, List.length_cons]
    omega

/-- Decoding and encoding again makes at most three bytes of each. -/
theorem length_encode_decode_le (bs : List UInt8) : (encode (decode bs)).length ≤ 3 * bs.length :=
  length_encode_decodeFrom_le none bs

/-! ## Nul -/

theorem ofNat_ne_zero {n : Nat} (h : 0 < n) (h' : n < 256) : 0 ≠ UInt8.ofNat n := by
  intro e
  have := congrArg UInt8.toNat e
  rw [toNat_ofNat h'] at this
  exact absurd this (Nat.ne_of_lt h)

/-- Only the nul character has a nul byte. -/
theorem nul_mem_encodeChar {c : Char} : 0 ∈ String.utf8EncodeChar c ↔ c = '\x00' := by
  constructor
  · intro h
    have hc : c.val.toNat = 0 := by
      apply Classical.byContradiction
      intro hn
      simp only [String.utf8EncodeChar] at h
      generalize c.val.toNat = n at h hn
      -- the byte of an ASCII character is its code point, and all other bytes are at least 128
      split at h
      · exact ofNat_ne_zero (by omega) (by omega) (List.mem_singleton.1 h)
      split at h
      · simp only [List.mem_cons, List.not_mem_nil, or_false] at h
        rcases h with h | h <;> exact ofNat_ne_zero (by omega) (by omega) h
      split at h
      · simp only [List.mem_cons, List.not_mem_nil, or_false] at h
        rcases h with h | h | h <;> exact ofNat_ne_zero (by omega) (by omega) h
      · simp only [List.mem_cons, List.not_mem_nil, or_false] at h
        rcases h with h | h | h | h <;> exact ofNat_ne_zero (by omega) (by omega) h
    exact Char.toNat_inj.1 hc
  · rintro rfl
    decide

theorem nul_mem_encode {s : List Char} : 0 ∈ encode s ↔ '\x00' ∈ s := by
  simp [encode, nul_mem_encodeChar]

namespace Pending

/-- How many ways there are to go on for `n` bytes without narrower bounds. -/
def ways : Nat → Nat
  | 0 => 1
  | n + 1 => 64 * ways n

/-- The least code point that the character begun may have. -/
def least (p : Pending) : Nat := (p.value * 64 + (p.low.toNat - 0x80)) * ways p.owed

/-- The code point after the greatest that the character begun may have. -/
def bound (p : Pending) : Nat := (p.value * 64 + (p.high.toNat - 0x80) + 1) * ways p.owed

/-- Whatever bytes follow, the character will be a character, and not one of the first 128. -/
structure Sound (p : Pending) : Prop where
  least : 0x80 ≤ p.least
  scalar : p.bound ≤ 0xd800 ∨ 0xe000 ≤ p.least ∧ p.bound ≤ 0x110000

end Pending

theorem ofNat_ne_nul {n : Nat} (h : n.isValidChar) (h' : n ≠ 0) : Char.ofNat n ≠ '\x00' := by
  intro e
  have hn : (Char.ofNat n).toNat = n := by
    rw [Char.ofNat, dif_pos h]
    rfl
  rw [e] at hn
  exact h' hn.symm

theorem sound_start {b : UInt8} {p : Pending} (h : (start b).2 = some p) : p.Sound := by
  simp only [start, UInt8.lt_iff_toNat_lt, UInt8.reduceToNat, ← UInt8.toNat_inj] at h
  split at h
  · simp at h
  split at h
  · simp at h
  split at h
  · simp only [Option.some.injEq] at h
    subst h
    refine ⟨?_, .inl ?_⟩
    · simp [Pending.least, Pending.ways]; omega
    · simp [Pending.bound, Pending.ways]; omega
  split at h
  · simp only [Option.some.injEq] at h
    subst h
    constructor <;> simp only [Pending.least, Pending.bound, Pending.ways]
    · split <;> simp <;> omega
    · split <;> split <;> simp <;> omega
  split at h
  · simp only [Option.some.injEq] at h
    subst h
    constructor <;> simp only [Pending.least, Pending.bound, Pending.ways]
    · split <;> simp <;> omega
    · split <;> split <;> simp <;> omega
  · simp at h

section Push

variable {b : UInt8} {p : Pending}

theorem Pending.least_le (hl : p.low ≤ b) : p.least ≤ (p.value * 64 + (b.toNat - 0x80)) * ways p.owed :=
  Nat.mul_le_mul_right _ (by have := UInt8.le_iff_toNat_le.1 hl; omega)

theorem Pending.le_bound (hh : b ≤ p.high) : (p.value * 64 + (b.toNat - 0x80) + 1) * ways p.owed ≤ p.bound :=
  Nat.mul_le_mul_right _ (by have := UInt8.le_iff_toNat_le.1 hh; omega)

/-- A byte in range narrows down what the character may be. -/
theorem sound_push {q : Pending} (hp : p.Sound) (hl : p.low ≤ b) (hh : b ≤ p.high) (h : (p.push b).2 = some q) :
    q.Sound := by
  have h₁ := Pending.least_le hl
  have h₂ := Pending.le_bound hh
  have h₃ := hp.least
  have h₄ := hp.scalar
  cases ho : p.owed with
  | zero => simp [Pending.push, ho] at h
  | succ n =>
    simp only [Pending.push, ho, Option.some.injEq] at h
    subst h
    rw [ho, Pending.ways, ← Nat.mul_assoc] at h₁ h₂
    generalize p.value * 64 + (b.toNat - 0x80) = v at h₁ h₂
    have e₁ : (⟨v, n, 0x80, 0xbf⟩ : Pending).least = v * 64 * Pending.ways n := by
      simp [Pending.least]
    have e₂ : (⟨v, n, 0x80, 0xbf⟩ : Pending).bound = (v + 1) * 64 * Pending.ways n := by
      rw [Nat.add_mul v]
      simp [Pending.bound, Nat.add_assoc]
    exact ⟨by omega, by omega⟩

theorem nul_notMem_push (hp : p.Sound) (hl : p.low ≤ b) (hh : b ≤ p.high) : '\x00' ∉ (p.push b).1 := by
  have h₁ := Pending.least_le hl
  have h₂ := Pending.le_bound hh
  have h₃ := hp.least
  have h₄ := hp.scalar
  cases ho : p.owed with
  | zero =>
    simp only [ho, Pending.ways, Nat.mul_one] at h₁ h₂
    simp only [Pending.push, ho, List.mem_singleton]
    exact (ofNat_ne_nul (by simp only [Nat.isValidChar]; omega) (by omega)).symm
  | succ n => simp [Pending.push, ho]

end Push

theorem nul_mem_start {b : UInt8} (h : '\x00' ∈ (start b).1) : b = 0 := by
  unfold start at h
  split at h
  · next hb =>
    have hb := UInt8.lt_iff_toNat_lt.1 hb
    rw [← UInt8.toNat_inj]
    apply Classical.byContradiction
    intro h0
    exact ofNat_ne_nul (by simp only [Nat.isValidChar]; simp at hb; omega) h0 (List.mem_singleton.1 h).symm
  split at h
  · exact absurd h (by decide)
  split at h
  · cases h
  split at h
  · cases h
  split at h
  · cases h
  · exact absurd h (by decide)

/-- What is pending stays sound, and only a nul byte gives a nul character. -/
theorem sound_step {q : Option Pending} (b : UInt8) (hq : ∀ p, q = some p → p.Sound) :
    (∀ p, (step q b).2 = some p → p.Sound) ∧ ('\x00' ∈ (step q b).1 → b = 0) := by
  cases q with
  | none => exact ⟨fun _ h => sound_start h, nul_mem_start⟩
  | some p =>
    have hp := hq p rfl
    simp only [step]
    split
    · next h => exact ⟨fun _ h' => sound_push hp h.1 h.2 h', fun h' => absurd h' (nul_notMem_push hp h.1 h.2)⟩
    · refine ⟨fun _ h => sound_start h, fun h => ?_⟩
      rcases List.mem_cons.1 h with h | h
      · exact absurd h (by decide)
      · exact nul_mem_start h

theorem nul_mem_decodeFrom : ∀ {q : Option Pending} {bs : List UInt8}, (∀ p, q = some p → p.Sound) →
    '\x00' ∈ decodeFrom q bs → 0 ∈ bs
  | none, [], _, h => absurd h (by simp [decodeFrom])
  | some _, [], _, h => absurd h (by simp [decodeFrom, replacement])
  | q, b :: bs, hq, h => by
    obtain ⟨hs, hb⟩ := sound_step b hq
    simp only [decodeFrom, List.mem_append] at h
    rcases h with h | h
    · rw [hb h]; exact List.mem_cons_self
    · exact List.mem_cons_of_mem _ (nul_mem_decodeFrom hs h)

/-- A nul character is read from a nul byte. -/
theorem nul_mem_of_mem_decode {bs : List UInt8} (h : '\x00' ∈ decode bs) : 0 ∈ bs :=
  nul_mem_decodeFrom (fun _ h => by cases h) h

end TunTap.Utf8
