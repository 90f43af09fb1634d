import ResourceSymbols.Proofs.Fields

namespace ResourceSymbols

namespace ValueType

theorem isValid_iff {t : ValueType} : t.isValid = true ↔ t = int ∨ t = intArray := by
  obtain ⟨c⟩ := t
  simp [isValid, int, intArray]

@[simp] theorem toText_int : int.toText = Bytes.ofString "int" := by
  simp [toText, name?, int]

@[simp] theorem toText_intArray : intArray.toText = Bytes.ofString "int[]" := by
  simp [toText, name?, intArray]

theorem ofText?_eq_some_iff {a : Bytes} {t : ValueType} :
    ofText? a = some t ↔ (t = int ∨ t = intArray) ∧ a = t.toText := by
  have hne : Bytes.ofString "int[]" ≠ Bytes.ofString "int" := by decide +kernel
  unfold ofText?
  split_ifs with h1 h2
  · subst h1
    rw [Option.some.injEq]
    constructor
    · rintro rfl
      exact ⟨.inl rfl, toText_int.symm⟩
    · rintro ⟨rfl | rfl, h⟩
      · rfl
      · exact absurd (h.trans toText_intArray) hne.symm
  · subst h2
    rw [Option.some.injEq]
    constructor
    · rintro rfl
      exact ⟨.inr rfl, toText_intArray.symm⟩
    · rintro ⟨rfl | rfl, h⟩
      · exact absurd (h.trans toText_int) h1
      · rfl
  · simp only [false_iff, not_and]
    rintro (rfl | rfl) h
    exacts [h1 (h.trans toText_int), h2 (h.trans toText_intArray)]

theorem eq_int_iff {t : ValueType} : t = int ↔ t.code = 0 := by
  obtain ⟨c⟩ := t
  simp [int]

theorem int_ne_intArray : int ≠ intArray := by decide

end ValueType

namespace Bytes

theorem contains_singleton {b : Bytes} {x : UInt8} : b.contains [x] = true ↔ x ∈ b := by
  induction b with
  | nil => simp [contains]
  | cons y b ih =>
    rw [contains, Bool.or_eq_true, ih]
    simp [startsWith, @eq_comm _ y x]

theorem startsWith_singleton {b : Bytes} {x : UInt8} :
    b.startsWith [x] = true ↔ b.head? = some x := by
  cases b <;> simp [startsWith]

theorem endsWith_singleton {b : Bytes} {x : UInt8} :
    b.endsWith [x] = true ↔ b.getLast? = some x := by
  rcases List.eq_nil_or_concat b with rfl | ⟨l, y, rfl⟩
  · simp [endsWith]
  · simp [endsWith]

theorem trimmed_iff {v : Bytes} : Trimmed v ↔ v ≠ [] ∧ v.trimSpace = v := by
  have hnil : isBlank [] = true := by simp [isBlank]
  constructor
  · intro hv
    exact ⟨hv.1, by simpa using trimSpace_complete hnil hv hnil⟩
  · rintro ⟨h0, h⟩
    obtain ⟨-, -, -, -, -, ht⟩ := trimSpace_sound (h.symm ▸ h0)
    rwa [h] at ht

end Bytes

/-- The symbols that can be written as a line of symbol text and read back unchanged. -/
structure Symbol.Writable (s : Symbol) : Prop where
  type : s.type = .int ∨ s.type = .intArray
  cls : isToken s.cls = true
  name : isToken s.name = true
  value : Bytes.Trimmed s.value
  noCR : 13 ∉ s.value
  noLF : 10 ∉ s.value
  intToken : s.type = .int → isToken s.value = true
  arrayBraces : s.type = .intArray → s.value.head? = some 123 ∧ s.value.getLast? = some 125

theorem Symbol.flaw?_eq_none_iff {s : Symbol} : s.flaw? = none ↔ s.Writable := by
  obtain ⟨t, c, n, v⟩ := s
  constructor
  · intro h
    simp only [flaw?] at h
    split_ifs at h with h1 h2 h3 h4 h5 h6 h7 h8 h9 <;>
      simp only [Bool.not_eq_eq_eq_not, Bool.not_true, Bool.not_eq_false, Bool.or_eq_true, not_or,
        bne_iff_ne, ne_eq, Decidable.not_not, List.isEmpty_iff, Bytes.contains_singleton,
        ValueType.isValid_iff] at h1 h2 h3 h4 h5
    · -- an integer: a single token
      have ht : t = .int := ValueType.eq_int_iff.2 h6
      exact ⟨.inl ht, h2, h3, Bytes.trimmed_iff.2 ⟨h4, h5.1.1.symm⟩, h5.1.2, h5.2,
        fun _ => Bytes.isToken_iff.2 ⟨h4, by simpa using h7⟩,
        fun h' => absurd (ht.symm.trans h') ValueType.int_ne_intArray⟩
    · -- an array: braces at both ends
      have ht : t = .intArray := h1.resolve_left (mt ValueType.eq_int_iff.1 h6)
      exact ⟨.inr ht, h2, h3, Bytes.trimmed_iff.2 ⟨h4, h5.1.1.symm⟩, h5.1.2, h5.2,
        fun h' => absurd (h'.symm.trans ht) ValueType.int_ne_intArray,
        fun _ => ⟨Bytes.startsWith_singleton.1 (by simpa using h8),
          Bytes.endsWith_singleton.1 (by simpa using h9)⟩⟩
  · rintro ⟨ht, hc, hn, hv, hcr, hlf, hint, harr⟩
    dsimp only at ht hc hn hv hcr hlf hint harr
    obtain ⟨hv0, hvt⟩ := Bytes.trimmed_iff.1 hv
    have hvalid : t.isValid = true := ValueType.isValid_iff.2 ht
    have h13 : v.contains [13] = false := Bool.eq_false_iff.2 (mt Bytes.contains_singleton.1 hcr)
    have h10 : v.contains [10] = false := Bool.eq_false_iff.2 (mt Bytes.contains_singleton.1 hlf)
    rcases ht with rfl | rfl
    · have hsp : v.hasSpace = false := (Bytes.isToken_iff.1 (hint rfl)).2
      simp [flaw?, hvalid, hc, hn, hv0, hvt, h13, h10, hsp, show ValueType.int.code = 0 from rfl]
    · obtain ⟨h123, h125⟩ := harr rfl
      simp [flaw?, hvalid, hc, hn, hv0, hvt, h13, h10, show ValueType.intArray.code = 1 from rfl,
        Bytes.startsWith_singleton.2 h123, Bytes.endsWith_singleton.2 h125]

/-- The line spells the symbol: its four fields are the symbol's kind, class, name and value, and
the symbol can be written. -/
def Spells (line : Bytes) (s : Symbol) : Prop :=
  Fields line s.type.toText s.cls s.name s.value ∧ s.Writable

/-- Why a line is no symbol, in the order the reasons are looked for: fewer than four fields, a
first field that names no kind, or a symbol that the check refuses. -/
inductive Refuses (line : Bytes) : LineFault → Prop
  | missingField (h : ∀ a b c v, ¬Fields line a b c v) : Refuses line .missingField
  | unknownType {a b c v : Bytes} (h : Fields line a b c v) (ht : ValueType.ofText? a = none) :
      Refuses line (.unknownType a)
  | flaw {a b c v : Bytes} {t : ValueType} {f : Flaw} (h : Fields line a b c v)
      (ht : ValueType.ofText? a = some t) (hf : Symbol.flaw? ⟨t, b, c, v⟩ = some f) :
      Refuses line (.flaw f)

theorem parseLine_eq_ok_of_spells {n : Nat} {line : Bytes} {s : Symbol} (h : Spells line s) :
    parseLine n line = .ok s := by
  obtain ⟨t, c, m, v⟩ := s
  obtain ⟨hF, hw⟩ := h
  obtain ⟨r₁, r₂, r₃, h₁, h₂, h₃, rfl⟩ := hF.nextField
  simp [parseLine, h₁, h₂, h₃, hF.value_ne_nil, ValueType.ofText?_eq_some_iff.2 ⟨hw.type, rfl⟩,
    Symbol.flaw?_eq_none_iff.2 hw]

theorem Refuses.parseLine {n : Nat} {line : Bytes} {r : LineFault} (h : Refuses line r) :
    parseLine n line = .error (.format n line r) := by
  cases h with
  | missingField h =>
    rcases h₁ : nextField line with ⟨a, r₁⟩
    rcases h₂ : nextField r₁ with ⟨b, r₂⟩
    rcases h₃ : nextField r₂ with ⟨c, r₃⟩
    -- with a non-empty rest the line would have fields
    have hv : r₃.trimSpace = [] := by
      by_contra hv
      exact h a b c _ (fields_of_nextField h₁ h₂ h₃ hv)
    simp [ResourceSymbols.parseLine, h₁, h₂, h₃, hv]
  | unknownType h ht =>
    obtain ⟨r₁, r₂, r₃, h₁, h₂, h₃, rfl⟩ := h.nextField
    simp [ResourceSymbols.parseLine, h₁, h₂, h₃, h.value_ne_nil, ht]
  | flaw h ht hf =>
    obtain ⟨r₁, r₂, r₃, h₁, h₂, h₃, rfl⟩ := h.nextField
    simp [ResourceSymbols.parseLine, h₁, h₂, h₃, h.value_ne_nil, ht, hf]

theorem parseLine_cases (n : Nat) (line : Bytes) :
    (∃ s, Spells line s ∧ parseLine n line = .ok s) ∨
      ∃ r, Refuses line r ∧ parseLine n line = .error (.format n line r) := by
  rcases h₁ : nextField line with ⟨a, r₁⟩
  rcases h₂ : nextField r₁ with ⟨b, r₂⟩
  rcases h₃ : nextField r₂ with ⟨c, r₃⟩
  by_cases hv : r₃.trimSpace = []
  · have hr : Refuses line .missingField :=
      .missingField fun a' b' c' v' hF => ((fields_iff_of_nextField h₁ h₂ h₃).1 hF).2.2.2.2 hv
    exact .inr ⟨_, hr, hr.parseLine⟩
  have hF := fields_of_nextField h₁ h₂ h₃ hv
  cases ht : ValueType.ofText? a with
  | none =>
    have hr := Refuses.unknownType hF ht
    exact .inr ⟨_, hr, hr.parseLine⟩
  | some t =>
    cases hf : Symbol.flaw? ⟨t, b, c, r₃.trimSpace⟩ with
    | some f =>
      have hr := Refuses.flaw hF ht hf
      exact .inr ⟨_, hr, hr.parseLine⟩
    | none =>
      obtain ⟨-, rfl⟩ := ValueType.ofText?_eq_some_iff.1 ht
      have hs : Spells line ⟨t, b, c, r₃.trimSpace⟩ := ⟨hF, Symbol.flaw?_eq_none_iff.1 hf⟩
      exact .inl ⟨_, hs, parseLine_eq_ok_of_spells hs⟩

theorem parseLine_eq_ok_iff {n : Nat} {line : Bytes} {s : Symbol} :
    parseLine n line = .ok s ↔ Spells line s := by
  constructor
  · intro h
    rcases parseLine_cases n line with ⟨s', hs', h'⟩ | ⟨r, -, h'⟩
    · rw [h, Except.ok.injEq] at h'
      exact h' ▸ hs'
    · rw [h] at h'
      cases h'
  · exact parseLine_eq_ok_of_spells

theorem parseLine_eq_error_iff {n : Nat} {line : Bytes} {e : SymbolError} :
    parseLine n line = .error e ↔ ∃ r, e = .format n line r ∧ Refuses line r := by
  constructor
  · intro h
    rcases parseLine_cases n line with ⟨s', -, h'⟩ | ⟨r, hr, h'⟩
    · rw [h] at h'
      cases h'
    · rw [h, Except.error.injEq] at h'
      exact ⟨r, h', hr⟩
  · rintro ⟨r, rfl, hr⟩
    exact hr.parseLine

end ResourceSymbols
