import TunTap.Proofs.Name.Given
import TunTap.Proofs.Name.Obtained

/-!
# Names and their fields

A field holds one name (`NameField.Holds`): the longest start of its first 15 bytes that is free of nul bytes. This is
the stem (`holds_iff`), so two fields are read as one name exactly if they hold the same bytes, whatever follows them
(`ofField_projects`). Every name that a program comes by fills its field in the same way, with nul bytes after its own
(`Canonical.padded`). The fields of two such names therefore differ exactly if their bytes do, and looking for a name
in a list is looking for its bytes (`obtained_names_are_their_bytes`).
-/

namespace TunTap

/-! ## What a field holds -/

namespace NameField

/-- The bytes are the longest start of the first 15 bytes of the field without a nul byte. -/
structure Holds (f : NameField) (bs : List UInt8) : Prop where
  starts : bs <+: f.toList.take 15
  noNul : 0 ∉ bs
  longest : ∀ cs, cs <+: f.toList.take 15 → 0 ∉ cs → cs <+: bs

section Holds

variable {f : NameField} {bs cs : List UInt8}

theorem stem_prefix (f : NameField) : f.stem <+: f.toList.take 15 := List.takeWhile_prefix _

theorem prefix_stem (h : cs <+: f.toList.take 15) (h0 : 0 ∉ cs) : cs <+: f.stem := by
  obtain ⟨rest, hrest⟩ := h
  have hs : f.stem = (cs ++ rest).takeWhile (· ≠ 0) := by rw [hrest]; rfl
  rw [hs, List.takeWhile_append_of_pos (passes_of_nul_notMem h0)]
  exact List.prefix_append _ _

theorem holds_stem (f : NameField) : f.Holds f.stem where
  starts := f.stem_prefix
  noNul := f.nul_notMem_stem
  longest := fun _ => prefix_stem

/-- Of two longest starts, neither is longer. -/
theorem Holds.eq (hb : f.Holds bs) (hc : f.Holds cs) : bs = cs := by
  have h₁ : bs <+: cs := hc.longest bs hb.starts hb.noNul
  have h₂ : cs <+: bs := hb.longest cs hc.starts hc.noNul
  exact h₁.eq_of_length_le h₂.length_le

theorem holds_iff : f.Holds bs ↔ bs = f.stem := by
  constructor
  · exact fun h => h.eq f.holds_stem
  · rintro rfl
    exact f.holds_stem

/-- After its stem a field has a nul byte, or no more than one byte. -/
theorem exists_rest (f : NameField) :
    ∃ rest, f.toList = f.stem ++ rest ∧ (f.stem.length = 15 ∨ rest.head? = some 0) := by
  have hs : f.stem ++ (f.toList.take 15).dropWhile (· ≠ 0) = f.toList.take 15 := List.takeWhile_append_dropWhile
  have hn := List.head?_dropWhile_not (· ≠ (0 : UInt8)) (f.toList.take 15)
  generalize (f.toList.take 15).dropWhile (· ≠ 0) = tail at hs hn
  refine ⟨tail ++ f.toList.drop 15, ?_, ?_⟩
  · rw [← List.append_assoc, hs, List.take_append_drop]
  · cases tail with
    | nil =>
      rw [List.append_nil] at hs
      rw [hs, List.length_take, Vector.length_toList]
      exact .inl rfl
    | cons b tail =>
      have hb : b = 0 := by simpa using hn
      rw [hb]
      exact .inr rfl

theorem stem_eq_iff (hl : bs.length < nameSize) (h0 : 0 ∉ bs) :
    f.stem = bs ↔ ∃ rest, f.toList = bs ++ rest ∧ (bs.length = 15 ∨ rest.head? = some 0) := by
  constructor
  · rintro rfl
    exact f.exists_rest
  · rintro ⟨rest, hf, hr⟩
    exact stem_of_toList hf hl h0 hr

end Holds

end NameField

namespace Name

theorem ofField_eq_iff {f g : NameField} : ofField f = ofField g ↔ f.stem = g.stem := by
  constructor
  · intro h
    rw [← bytes_ofField f, h, bytes_ofField]
  · intro h
    rw [ofField, h, ofField]

/-- A field is read as the name of a text exactly if it holds the bytes of the text. -/
theorem ofField_eq_ofString_iff {s : String} {n : Name} (h : ofString s = .ok n) (f : NameField) :
    ofField f = n ↔ f.stem = s.toUTF8.data.toList := by
  rw [← Utf8.encode_toList, ← bytes_ofString h, ← bytes_ofField f]
  exact ⟨fun hf => congrArg bytes hf, (canonical_ofField f).ext (canonical_ofString h)⟩

/-- **Names read from fields.** Reading keeps what the field holds and nothing else. -/
theorem ofField_projects :
    (∀ f : NameField, f.Holds (ofField f).bytes) ∧
      (∀ (f g : NameField) (bs cs : List UInt8), f.Holds bs → g.Holds cs → (ofField f = ofField g ↔ bs = cs)) ∧
      (∀ n : Name, n.Obtained → ofField n.field = n) ∧
      ∀ s n, ofString s = .ok n → ∀ f : NameField,
        (ofField f = n ↔ f.Holds s.toUTF8.data.toList) ∧
          (ofField f = n ↔
            ∃ rest, f.toList = s.toUTF8.data.toList ++ rest ∧ (s.utf8ByteSize = 15 ∨ rest.head? = some 0)) := by
  refine ⟨fun f => ?_, fun f g bs cs hf hg => ?_, fun n hn => hn.canonical.ofField_field, fun s n hs f => ?_⟩
  · rw [bytes_ofField]
    exact f.holds_stem
  · rw [ofField_eq_iff, NameField.holds_iff.1 hf, NameField.holds_iff.1 hg]
  · have hv := (ofString_eq_ok_iff.1 hs).1
    rw [Valid, Utf8.encode_toList] at hv
    rw [ofField_eq_ofString_iff hs, NameField.holds_iff]
    exact ⟨eq_comm, NameField.stem_eq_iff hv.1 hv.2⟩

/-- A field without a nul byte, whose last byte is dropped, and the field of the name that is left. -/
theorem ofField_projects_unterminated :
    let f := NameField.ofBytes (Utf8.encode "abcdefghijklmnop".toList)
    let g := NameField.ofBytes (Utf8.encode "abcdefghijklmno".toList)
    f.Holds f.stem ∧ g.Holds g.stem ∧ ofField f = ofField g ∧ (ofField f).Obtained ∧
      ofField (ofField f).field = ofField f ∧ ∃ n, ofString "abcdefghijklmno" = .ok n ∧ ofField f = n := by
  intro f g
  obtain ⟨-, hiff, hback, htext⟩ := ofField_projects
  have hs : f.stem = g.stem := by decide
  have hn : ofString "abcdefghijklmno" = .ok _ := ofString_of_valid (by decide)
  refine ⟨f.holds_stem, g.holds_stem, (hiff f g _ _ f.holds_stem g.holds_stem).2 hs, .ofField f,
    hback _ (.ofField f), _, hn, (htext _ _ hn f).2.2 ⟨[0x70], ?_, .inl rfl⟩⟩
  decide

/-! ## How a name fills its field -/

/-- At most 15 bytes, none of them nul, stand in the field with nul bytes after them up to the end. -/
structure Padded (n : Name) : Prop where
  short : n.length ≤ 15
  noNul : 0 ∉ n.bytes
  field : n.field.toList = n.bytes ++ List.replicate (16 - n.length) 0

section Canonical

variable {m n : Name}

theorem Canonical.padded (h : n.Canonical) : n.Padded where
  short := Nat.le_of_lt_succ n.length_bytes_lt
  noNul := n.nul_notMem_bytes
  field := by
    have hf : n.field = .ofBytes n.bytes := congrArg Name.field h
    rw [hf]
    exact NameField.toList_ofBytes (Nat.le_of_lt n.length_bytes_lt)

theorem Canonical.eq_iff (hm : m.Canonical) (hn : n.Canonical) : m = n ↔ m.bytes = n.bytes :=
  ⟨congrArg bytes, hm.ext hn⟩

theorem isEmpty_iff_length : n.isEmpty = true ↔ n.length = 0 := by
  rw [isEmpty_iff, length, List.length_eq_zero_iff]

theorem Canonical.length_eq_zero_iff (h : n.Canonical) : n.length = 0 ↔ n = empty := by
  have he : empty.bytes = [] := bytes_ofBytes (by decide) List.not_mem_nil
  rw [h.eq_iff canonical_empty, he, length, List.length_eq_zero_iff]

/-- Looking for a name among names is looking for its bytes. -/
theorem Canonical.firstIndex_eq {entries : List (Option Name)} (hn : n.Canonical)
    (h : ∀ m, some m ∈ entries → m.Canonical) :
    firstIndex entries n = entries.findIdx? fun e => e.map bytes = some n.bytes := by
  unfold firstIndex
  induction entries with
  | nil => rfl
  | cons e entries ih =>
    have he : e = some n ↔ e.map bytes = some n.bytes := by
      cases e with
      | none => simp
      | some m =>
        have hm : m.Canonical := h m List.mem_cons_self
        simpa using hm.eq_iff hn
    have hrest := ih fun m hm => h m (List.mem_cons_of_mem _ hm)
    rw [List.findIdx?_cons, List.findIdx?_cons, decide_eq_decide.2 he, hrest]

end Canonical

/-- Parsing and converting a text are ways to come by a name too. -/
theorem Obtained.ofText {w : Handover} {s : String} {n : Name} (h : Name.ofText w s = .ok n) : n.Obtained :=
  .ofString ((ofText_eq w s).symm.trans h)

/-- **Names are their bytes.** Whichever ways two names came by, their fields differ only if their bytes do. -/
theorem obtained_names_are_their_bytes :
    (∀ w s n, ofText w s = .ok n → n.Obtained) ∧
      (∀ n : Name, n.Obtained →
        n.Padded ∧ (n.isEmpty = true ↔ n.length = 0) ∧ (n.length = 0 ↔ n = empty)) ∧
      (∀ m n : Name, m.Obtained → n.Obtained → (m = n ↔ m.bytes = n.bytes)) ∧
      ∀ (entries : List (Option Name)) (n : Name), (∀ m, some m ∈ entries → m.Obtained) → n.Obtained →
        firstIndex entries n = entries.findIdx? fun e => e.map bytes = some n.bytes := by
  refine ⟨fun w s n h => .ofText h, fun n hn => ?_, fun m n hm hn => ?_, fun entries n h hn => ?_⟩
  · exact ⟨hn.canonical.padded, isEmpty_iff_length, hn.canonical.length_eq_zero_iff⟩
  · exact hm.canonical.eq_iff hn.canonical
  · exact hn.canonical.firstIndex_eq fun m hm => (h m hm).canonical

/-- A parsed name found behind an entry that is none and the empty name, where it was read from a field with a byte
after the nul. -/
theorem obtained_names_are_their_bytes_past_nul :
    let m := ofField (.ofBytes [0x74, 0x75, 0x6e, 0x30, 0, 0x78])
    ∃ n, ofText .parsed "tun0" = .ok n ∧ m.Obtained ∧ n.Obtained ∧ m.Padded ∧ m = n ∧
      firstIndex [none, some empty, some m] n = some 2 := by
  intro m
  obtain ⟨htext, hpad, heq, hindex⟩ := obtained_names_are_their_bytes
  have hs : Valid "tun0" := by decide
  have hn : ofText .parsed "tun0" = .ok _ := ofString_of_valid hs
  have hm : m.Obtained := .ofField _
  have hb : m.bytes = (ofBytes (Utf8.encode "tun0".toList)).bytes := by decide
  refine ⟨_, hn, hm, htext _ _ _ hn, (hpad m hm).1, (heq _ _ hm (htext _ _ _ hn)).2 hb, ?_⟩
  rw [hindex _ _ (fun m' hm' => ?_) (htext _ _ _ hn)]
  · decide
  · simp only [List.mem_cons, Option.some.injEq, reduceCtorEq, List.not_mem_nil, or_false, false_or] at hm'
    rcases hm' with rfl | rfl
    · exact .empty
    · exact hm

end Name

end TunTap
