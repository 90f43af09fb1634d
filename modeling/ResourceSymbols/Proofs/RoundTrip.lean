import ResourceSymbols.Proofs.Reading

namespace ResourceSymbols

open Utf8

namespace Bytes

theorem splitOn_ne_nil (b : Bytes) (sep : UInt8) : splitOn b sep ≠ [] := by
  cases b with
  | nil => simp [splitOn]
  | cons x rest =>
    rw [splitOn]
    split
    · simp
    · split <;> simp

theorem splitOn_append_cons {l : Bytes} {sep : UInt8} (h : sep ∉ l) (r : Bytes) :
    splitOn (l ++ sep :: r) sep = l :: splitOn r sep := by
  induction l with
  | nil =>
    rw [List.nil_append, splitOn]
    cases hs : splitOn r sep with
    | nil => exact absurd hs (splitOn_ne_nil r sep)
    | cons first more => simp
  | cons x l ih =>
    have hx : (x == sep) = false := by
      simpa using fun e : x = sep => h (e ▸ List.mem_cons_self)
    rw [List.cons_append, splitOn, ih (fun h' => h (List.mem_cons_of_mem _ h'))]
    simp [hx]

theorem not_mem_of_hasSpace_eq_false {f : Bytes} (h : f.hasSpace = false) {x : UInt8}
    (hx : x < 128) (hsp : Unicode.isSpace x.toNat = true) : x ∉ f := by
  intro hm
  have := hasSpace_eq_false_iff.1 h _ (mem_segments_of_lt hx hm)
  rw [Segment.isSpace, hsp] at this
  cases this

theorem Trimmed.getLast?_ne {v : Bytes} (h : Trimmed v) {x : UInt8} (hx : x < 128)
    (hsp : Unicode.isSpace x.toNat = true) : v.getLast? ≠ some x := by
  intro hl
  obtain ⟨w, rfl⟩ : ∃ w, v = w ++ [x] := by
    rcases List.eq_nil_or_concat v with rfl | ⟨w, y, rfl⟩
    · simp at hl
    · simp only [List.concat_eq_append, List.getLast?_concat, Option.some.injEq] at hl
      exact ⟨w, by rw [hl, List.concat_eq_append]⟩
  have hseg : segments (w ++ [x]) = segments w ++ [⟨x.toNat, [x]⟩] := by
    rw [segments_append_cons hx w [], segments_nil]
  have hlast := h.2.2 ⟨x.toNat, [x]⟩ (by rw [hseg, List.getLast?_concat]; rfl)
  rw [Segment.isSpace, hsp] at hlast
  cases hlast

theorem dropSuffix_of_getLast?_ne {b : Bytes} {x : UInt8} (h : b.getLast? ≠ some x) :
    b.dropSuffix [x] = b := by
  have hx : b.endsWith [x] = false := by
    simpa [← Bool.not_eq_true, endsWith_singleton] using h
  simp [dropSuffix, hx]

end Bytes

theorem textLines_flatten {L : List Bytes} (h : ∀ l ∈ L, 10 ∉ l) :
    textLines (L.map fun l => l ++ [10]).flatten = L := by
  have hsplit : Bytes.splitOn (L.map fun l => l ++ [10]).flatten 10 = L ++ [[]] := by
    induction L with
    | nil => rfl
    | cons l L ih =>
      rw [List.map_cons, List.flatten_cons, List.append_assoc, List.singleton_append,
        Bytes.splitOn_append_cons (h l List.mem_cons_self),
        ih fun l' hl' => h l' (List.mem_cons_of_mem _ hl')]
      rfl
  simp [textLines, hsplit]

theorem ValueType.isToken_toText {t : ValueType} (ht : t = .int ∨ t = .intArray) :
    isToken t.toText = true := by
  rcases ht with rfl | rfl
  · rw [ValueType.toText_int, show Bytes.ofString "int" = [105, 110, 116] by decide +kernel]
    simp [isToken, Bytes.hasSpace, segments_cons_of_lt, Segment.isSpace, Unicode.isSpace]
  · rw [ValueType.toText_intArray,
      show Bytes.ofString "int[]" = [105, 110, 116, 91, 93] by decide +kernel]
    simp [isToken, Bytes.hasSpace, segments_cons_of_lt, Segment.isSpace, Unicode.isSpace]

namespace Symbol.Writable

variable {s : Symbol} (h : s.Writable)
include h

theorem spells_line : Spells s.line s := by
  have hline : s.line =
      [] ++ s.type.toText ++ ([32] ++ s.cls ++ ([32] ++ s.name ++ ([32] ++ s.value ++ []))) := by
    simp [Symbol.line]
  have hnil : Bytes.isBlank [] = true := by simp [Bytes.isBlank]
  have hsp : Bytes.Spaces [32] :=
    ⟨by simp, by simp [Bytes.isBlank, segments_cons_of_lt, Segment.isSpace, Unicode.isSpace]⟩
  rw [hline]
  exact ⟨.mk hnil (ValueType.isToken_toText h.type) hsp h.cls hsp h.name hsp h.value hnil, h⟩

theorem not_mem_line : 10 ∉ s.line := by
  have hlf : Unicode.isSpace (10 : UInt8).toNat = true := by decide
  have htok {f : Bytes} (hf : isToken f = true) : 10 ∉ f :=
    Bytes.not_mem_of_hasSpace_eq_false (Bytes.isToken_iff.1 hf).2 (by decide) hlf
  simp only [Symbol.line, List.mem_append, List.mem_singleton, not_or]
  exact ⟨⟨⟨⟨⟨⟨htok (ValueType.isToken_toText h.type), by decide⟩, htok h.cls⟩, by decide⟩,
    htok h.name⟩, by decide⟩, h.noLF⟩

theorem clipLine_line : clipLine s.line = s.line := by
  have hv : s.value ≠ [] := h.value.1
  have hlast : s.line.getLast? = s.value.getLast? := by
    obtain ⟨y, hy⟩ := Option.ne_none_iff_exists'.1 (mt List.getLast?_eq_none_iff.1 hv)
    rw [Symbol.line, List.getLast?_append, hy, Option.some_or]
  have hcr : s.line.getLast? ≠ some 13 := by
    rw [hlast]
    exact h.value.getLast?_ne (by decide) (by decide)
  simp only [clipLine, Bytes.dropSuffix_of_getLast?_ne hcr]

end Symbol.Writable

/-- The check of a symbol passes exactly when its line of symbol text reads back as the symbol
itself. -/
theorem Symbol.flaw?_eq_none_iff_parseLine_line (n : Nat) (s : Symbol) :
    (s.flaw? = none ↔ parseLine n s.line = .ok s) ∧
      (s.flaw? ≠ none →
        (∃ e, parseLine n s.line = .error e) ∨ ∃ s', s' ≠ s ∧ parseLine n s.line = .ok s') := by
  have hiff : s.flaw? = none ↔ parseLine n s.line = .ok s := by
    constructor
    · intro h
      exact parseLine_eq_ok_of_spells (Symbol.flaw?_eq_none_iff.1 h).spells_line
    · intro h
      exact Symbol.flaw?_eq_none_iff.2 (parseLine_eq_ok_iff.1 h).2
  refine ⟨hiff, fun hf => ?_⟩
  cases hp : parseLine n s.line with
  | error e => exact .inl ⟨e, rfl⟩
  | ok s' =>
    refine .inr ⟨s', ?_, rfl⟩
    rintro rfl
    exact hf (hiff.2 hp)

theorem Builder.build_name_ne_nil {b : Builder} {t : Table} (h : b.build = .ok t) : t.name ≠ [] := by
  cases he : b.firstError with
  | some e => simp [Builder.build, he] at h
  | none =>
    simp only [Builder.build, he, Except.ok.injEq] at h
    subst h
    by_cases hn : b.name.isEmpty
    · simp only [hn, if_true]
      decide +kernel
    · rw [if_neg hn]
      intro h'
      simp only at h'
      simp [h'] at hn

section Written

variable {syms : List Symbol} (hw : ∀ s ∈ syms, s.Writable)
include hw

theorem textLines_written : textLines (syms.map fun s => s.line ++ [10]).flatten =
    syms.map Symbol.line := by
  have hL : ∀ l ∈ syms.map Symbol.line, 10 ∉ l := by
    intro l hl
    obtain ⟨s, hs, rfl⟩ := List.mem_map.1 hl
    exact (hw s hs).not_mem_line
  have hwrite : (syms.map fun s => s.line ++ [10]).flatten =
      ((syms.map Symbol.line).map fun l => l ++ [10]).flatten := by
    simp [List.map_map, Function.comp_def]
  rw [hwrite, textLines_flatten hL]

theorem readsAs_lines (hnd : (syms.map Symbol.key).Nodup) :
    ReadsAs [] ((syms.map Symbol.line).map clipLine) syms := by
  have hclip : (syms.map Symbol.line).map clipLine = syms.map Symbol.line := by
    rw [List.map_map]
    refine List.map_congr_left fun s hs => ?_
    rw [Function.comp_apply]
    exact (hw s hs).clipLine_line
  -- no written line is blank
  have hkept : (syms.map Symbol.line).filter (fun l => !l.isBlank) = syms.map Symbol.line := by
    refine List.filter_eq_self.2 fun l hl => ?_
    obtain ⟨s, hs, rfl⟩ := List.mem_map.1 hl
    simp [(hw s hs).spells_line.isBlank_eq_false]
  rw [hclip, ReadsAs, hkept]
  exact ⟨List.forall₂_map_left_iff.2 (List.forall₂_same.2 fun s hs => (hw s hs).spells_line),
    by simpa using hnd⟩

end Written

theorem Builder.Sound.build_writable {b : Builder} (h : b.Sound) {t : Table} (ht : b.build = .ok t) :
    ∀ s ∈ t.symbols, s.Writable := fun s hs =>
  Symbol.flaw?_eq_none_iff.1 (h.flawless s ((h.build_symbols ht).1.mem_iff.1 hs))

/-- Writing a built table and reading the text back, with the table's name and package, gives the
table back, provided every written line fits the reader's line limit. -/
theorem read_write (cs : List Builder.Call) {t : Table} (ht : (Builder.run {} cs).1.build = .ok t)
    (hfit : ∀ s ∈ t.symbols, (s.line ++ [10]).length ≤ maxLineLength) :
    Table.read { name := t.name, pkg := t.pkg } t.write = .ok t := by
  have hsound := Builder.sound_new.run cs
  obtain ⟨hperm, hpair⟩ := hsound.build_symbols ht
  -- the table's symbols can be written, and their keys are distinct
  have hw : ∀ s ∈ t.symbols, s.Writable := hsound.build_writable ht
  have hnd : (t.symbols.map Symbol.key).Nodup := (hperm.map Symbol.key).nodup_iff.2 hsound.nodup
  have hlines : textLines t.write = t.symbols.map Symbol.line := textLines_written hw
  have hfit' : ∀ raw ∈ textLines t.write, raw.length < maxLineLength := by
    rw [hlines]
    intro raw hraw
    obtain ⟨s, hs, rfl⟩ := List.mem_map.1 hraw
    have := hfit s hs
    simp only [List.length_append, List.length_singleton] at this
    omega
  have hR : ReadsAs [] ((textLines t.write).map clipLine) t.symbols := by
    rw [hlines]
    exact readsAs_lines hw hnd
  have hname : t.name.isEmpty = false := by simpa using Builder.build_name_ne_nil ht
  have hsorted : t.symbols.Pairwise fun a b => a.keyLe b :=
    hpair.imp fun h => by simp [Symbol.keyLe, Symbol.keyLt_asymm h]
  have hsyms : (t.symbols.reverse.mergeSort fun a b => a.keyLe b) = t.symbols :=
    Builder.mergeSort_keyLe_eq (List.reverse_perm _) hsorted (by simpa [List.map_reverse] using hnd)
  rw [read_eq_ok_of_readsAs hfit' hR, hname, hsyms]
  rfl

/-- Three symbols offered out of key order are built sorted, and the table is read back from its
text. -/
theorem read_write_three_symbols :
    let cs : List Builder.Call := [.add ⟨.int, [105, 100], [98], [50]⟩,
      .add ⟨.int, [97, 116, 116, 114], [99], [51]⟩, .add ⟨.int, [105, 100], [97], [49]⟩]
    let t : Table := ⟨Bytes.ofString "R", [], [⟨.int, [97, 116, 116, 114], [99], [51]⟩,
      ⟨.int, [105, 100], [97], [49]⟩, ⟨.int, [105, 100], [98], [50]⟩]⟩
    (Builder.run {} cs).1.build = .ok t ∧ (∀ s ∈ t.symbols, (s.line ++ [10]).length ≤ maxLineLength) ∧
      Table.read { name := t.name, pkg := t.pkg } t.write = .ok t := by
  intro cs t
  have ht : (Builder.run {} cs).1.build = .ok t := by
    simp only [cs, t]
    cbv
  have hfit : ∀ s ∈ t.symbols, (s.line ++ [10]).length ≤ maxLineLength := by decide +kernel
  exact ⟨ht, hfit, read_write cs ht hfit⟩

end ResourceSymbols
