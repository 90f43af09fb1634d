import Mathlib
import ResourceSymbols.Proofs.SourceOrder
import ResourceSymbols.Proofs.ArchiveSource

namespace ResourceSymbols

namespace Bytes

def replaceEach (old new : Bytes) : Bytes → Bytes
  | [] => []
  | c :: rest =>
    if !old.isEmpty && startsWith (c :: rest) old then
      new ++ replaceEach old new ((c :: rest).drop old.length)
    else c :: replaceEach old new rest
termination_by s => s.length
decreasing_by
  all_goals simp_wf
  rename_i h
  simp only [Bool.and_eq_true, Bool.not_eq_true', List.isEmpty_eq_false_iff] at h
  have := List.length_pos_iff.2 h.1
  omega

def replaceAll (old new s : Bytes) : Bytes :=
  if old.isEmpty then new ++ (Utf8.segments s).flatMap fun seg => seg.raw ++ new
  else replaceEach old new s

theorem contains_iff_infix {s p : Bytes} : contains s p = true ↔ p <:+: s := by
  induction s with
  | nil => simp [contains]
  | cons c rest ih => rw [contains, Bool.or_eq_true, ih, startsWith_iff, List.infix_cons_iff]

theorem contains_eq_false_of_not_mem {s p : Bytes} {x : UInt8} (hx : x ∈ p) (hs : x ∉ s) :
    contains s p = false := by
  rw [← Bool.not_eq_true, contains_iff_infix]
  exact fun h => hs (h.subset hx)

theorem startsWith_append_eq_false {a p : Bytes} (h₁ : startsWith a p = false)
    (h₂ : startsWith p a = false) (x : Bytes) : startsWith (a ++ x) p = false := by
  rw [← Bool.not_eq_true, startsWith_iff]
  intro hp
  rcases List.prefix_or_prefix_of_prefix hp (List.prefix_append a x) with h | h
  · rw [← startsWith_iff, h₁] at h
    exact Bool.false_ne_true h
  · rw [← startsWith_iff, h₂] at h
    exact Bool.false_ne_true h

theorem startsWith_append_cons {p x y : Bytes} {c : UInt8} (hc : c ∉ p) :
    startsWith (x ++ c :: y) p = startsWith x p := by
  apply Bool.eq_iff_iff.2
  rw [startsWith_iff, startsWith_iff]
  refine ⟨fun h => ?_, fun h => h.trans (List.prefix_append _ _)⟩
  rcases List.prefix_or_prefix_of_prefix h (List.prefix_append x (c :: y)) with hpx | ⟨r, rfl⟩
  · exact hpx
  · -- `p` is `x` and more, and what follows `x` in `p` would start with `c`
    cases r with
    | nil => simp
    | cons r₀ r =>
      obtain ⟨rfl, -⟩ := List.cons_prefix_cons.1 ((List.prefix_append_right_inj x).1 h)
      exact absurd (List.mem_append_right x List.mem_cons_self) hc

theorem startsWith_cons_eq_false {p y : Bytes} {c : UInt8} (hc : c ∉ p) (hp : p ≠ []) :
    startsWith (c :: y) p = false := by
  rw [← List.nil_append (c :: y), startsWith_append_cons hc]
  simpa [startsWith] using hp.symm

/-- No occurrence of `p` starts inside `a`, whatever follows: no part of `a` from some byte on
starts with `p` or starts `p`. -/
def StartsClear (p a : Bytes) : Prop :=
  ∀ k < a.length, startsWith (a.drop k) p = false ∧ startsWith p (a.drop k) = false

/-- No occurrence of `p` ends inside `b`, whatever comes before: `b` starts with no proper end part
of `p`. -/
def EndsClear (p b : Bytes) : Prop := ∀ j < p.length, 0 < j → startsWith b (p.drop j) = false

instance (p a : Bytes) : Decidable (StartsClear p a) := by unfold StartsClear; infer_instance

instance (p b : Bytes) : Decidable (EndsClear p b) := by unfold EndsClear; infer_instance

theorem StartsClear.tail {p a : Bytes} {c : UInt8} (h : StartsClear p (c :: a)) : StartsClear p a :=
  fun k hk => h (k + 1) (by simp only [List.length_cons]; omega)

theorem StartsClear.startsWith {p a : Bytes} {c : UInt8} (h : StartsClear p (c :: a)) (x : Bytes) :
    startsWith (c :: a ++ x) p = false :=
  startsWith_append_eq_false (h 0 (by simp)).1 (h 0 (by simp)).2 x

theorem contains_append_of_startsClear {p a : Bytes} (h : StartsClear p a) (x : Bytes) :
    contains (a ++ x) p = contains x p := by
  induction a with
  | nil => rfl
  | cons c a ih => rw [List.cons_append, contains, ← List.cons_append, h.startsWith, Bool.false_or, ih h.tail]

theorem contains_append_of_endsClear {p b : Bytes} (hp : p ≠ []) (hb : contains b p = false)
    (h : EndsClear p b) (x : Bytes) : contains (x ++ b) p = contains x p := by
  induction x with
  | nil => rw [List.nil_append, hb, contains, eq_comm, List.isEmpty_eq_false_iff]; exact hp
  | cons c x ih =>
    rw [List.cons_append, contains, contains, ih]
    congr 1
    apply Bool.eq_iff_iff.2
    rw [startsWith_iff, startsWith_iff, ← List.cons_append]
    refine ⟨fun hpre => ?_, fun hpre => hpre.trans (List.prefix_append _ _)⟩
    rcases List.prefix_or_prefix_of_prefix hpre (List.prefix_append (c :: x) b) with h₁ | ⟨r, rfl⟩
    · exact h₁
    · -- an occurrence at `c` that reaches into `b` would end inside `b`
      cases r with
      | nil => simp
      | cons r₀ r =>
        have hr := (List.prefix_append_right_inj (c :: x)).1 hpre
        have hend := h (c :: x).length (by simp) (by simp)
        rw [List.drop_left, startsWith_iff.2 hr] at hend
        exact Bool.noConfusion hend

theorem contains_between {p a b : Bytes} (hp : p ≠ []) (ha : StartsClear p a) (hb : EndsClear p b)
    (hbp : contains b p = false) (x : Bytes) : contains (a ++ x ++ b) p = contains x p := by
  rw [List.append_assoc, contains_append_of_startsClear ha, contains_append_of_endsClear hp hbp hb]

theorem contains_append_cons {p : Bytes} (hp : p ≠ []) {c : UInt8} (hc : c ∉ p) (x y : Bytes) :
    contains (x ++ c :: y) p = (contains x p || contains y p) := by
  induction x with
  | nil => simp [contains, startsWith_cons_eq_false hc hp, hp]
  | cons d x ih =>
    rw [List.cons_append, contains, ← List.cons_append, startsWith_append_cons hc, ih, contains,
      Bool.or_assoc]

section Replace

variable {old new : Bytes}

@[simp] theorem replaceEach_nil : replaceEach old new [] = [] := by rw [replaceEach]

theorem replaceEach_cons (c : UInt8) (rest : Bytes) :
    replaceEach old new (c :: rest) =
      if !old.isEmpty && startsWith (c :: rest) old then
        new ++ replaceEach old new ((c :: rest).drop old.length)
      else c :: replaceEach old new rest := by
  rw [replaceEach]

theorem replaceEach_prefix_append (hold : old ≠ []) (x : Bytes) :
    replaceEach old new (old ++ x) = new ++ replaceEach old new x := by
  obtain ⟨c, o, rfl⟩ := List.exists_cons_of_ne_nil hold
  have hs : startsWith (c :: o ++ x) (c :: o) = true := startsWith_iff.2 (List.prefix_append _ _)
  rw [List.cons_append, replaceEach_cons, ← List.cons_append, hs, if_pos (by simp), List.drop_left]

theorem replaceEach_of_contains_eq_false {s : Bytes} (h : contains s old = false) :
    replaceEach old new s = s := by
  induction s with
  | nil => exact replaceEach_nil
  | cons c rest ih =>
    simp only [contains, Bool.or_eq_false_iff] at h
    rw [replaceEach_cons, h.1, Bool.and_false, if_neg Bool.false_ne_true, ih h.2]

theorem replaceEach_append_of_startsClear {a : Bytes} (h : StartsClear old a) (x : Bytes) :
    replaceEach old new (a ++ x) = a ++ replaceEach old new x := by
  induction a with
  | nil => rfl
  | cons c a ih =>
    rw [List.cons_append, replaceEach_cons, ← List.cons_append, h.startsWith, Bool.and_false,
      if_neg Bool.false_ne_true, ih h.tail, List.cons_append]

theorem replaceEach_between (hold : old ≠ []) {a b : Bytes} (ha : StartsClear old a)
    (hb : EndsClear old b) (hbold : contains b old = false) {x : Bytes} (hx : contains x old = false) :
    replaceEach old new (a ++ x ++ b) = a ++ x ++ b :=
  replaceEach_of_contains_eq_false (by rw [contains_between hold ha hb hbold, hx])

theorem replaceEach_append_cons {c : UInt8} (hc : c ∉ old) (x y : Bytes) :
    replaceEach old new (x ++ c :: y) = replaceEach old new x ++ c :: replaceEach old new y := by
  -- on the length of `x`: an occurrence at its front ends before `c`, and the rest is shorter
  induction h : x.length using Nat.strongRecOn generalizing x with
  | ind n ih =>
  cases x with
  | nil =>
    have hs : (!old.isEmpty && startsWith (c :: y) old) = false := by
      rcases eq_or_ne old [] with rfl | hold
      · rfl
      · rw [startsWith_cons_eq_false hc hold, Bool.and_false]
    rw [List.nil_append, replaceEach_cons, hs, if_neg Bool.false_ne_true, replaceEach_nil, List.nil_append]
  | cons d x =>
    have hs : startsWith (d :: (x ++ c :: y)) old = startsWith (d :: x) old :=
      @startsWith_append_cons old (d :: x) y c hc
    rw [List.cons_append, replaceEach_cons, hs, replaceEach_cons d x]
    split
    · rename_i hocc
      simp only [Bool.and_eq_true, Bool.not_eq_true', List.isEmpty_eq_false_iff] at hocc
      have hle : old.length ≤ (d :: x).length := (startsWith_iff.1 hocc.2).length_le
      have hlt : ((d :: x).drop old.length).length < n := by
        have := List.length_pos_iff.2 hocc.1
        simp only [List.length_drop, ← h]
        omega
      rw [← List.cons_append, List.drop_append_of_le_length hle, ih _ hlt _ rfl, List.append_assoc]
    · rw [ih x.length (by simp [← h]) x rfl, List.cons_append]

theorem replaceEach_lines {c : UInt8} (hc : c ∉ old) (ls : List Bytes) :
    replaceEach old new (ls.map (· ++ [c])).flatten =
      ((ls.map (replaceEach old new)).map (· ++ [c])).flatten := by
  induction ls with
  | nil => exact replaceEach_nil
  | cons l ls ih =>
    simp only [List.map_cons, List.flatten_cons, List.append_assoc, List.singleton_append]
    rw [replaceEach_append_cons hc, ih]

end Replace

end Bytes

namespace Table

def intModifiers (finalIds : Bool) : Bytes := fieldModifiers finalIds ++ Bytes.ofString " int"

theorem intModifiers_true : intModifiers true = Bytes.ofString "public static final int" := by cbv

theorem intModifiers_false : intModifiers false = Bytes.ofString "public static int" := by cbv

def fieldPrefix (finalIds : Bool) : Bytes := fieldIndent ++ fieldModifiers finalIds ++ [32]

def dropFinal (l : Bytes) : Bytes :=
  if Bytes.startsWith l (fieldPrefix true) then fieldPrefix false ++ l.drop (fieldPrefix true).length
  else l

def packageLine (t : Table) : Bytes := Bytes.ofString "package " ++ t.pkg ++ [59]

def outerLine (t : Table) : Bytes := Bytes.ofString "public final class " ++ t.name ++ Bytes.ofString " \x7b"

theorem javaField_eq (finalIds : Bool) (s : Symbol) :
    s.javaField finalIds = fieldPrefix finalIds ++
      (s.type.javaType ++ [32] ++ s.name ++ Bytes.ofString " = " ++ s.value ++ [59]) := by
  simp [Symbol.javaField, fieldPrefix, fieldIndent]

theorem javaLines_map (t : Table) (f : Bytes → Bytes)
    (hfixed : ∀ l ∈ javaHeader ++ [[], [125], classCloseLine], f l = l)
    (hpkg : f t.packageLine = t.packageLine) (houter : f t.outerLine = t.outerLine)
    (hopen : ∀ c ∈ t.classes, f (classOpenLine c) = classOpenLine c)
    (hfield : ∀ s ∈ t.symbols, f (s.javaField true) = s.javaField false) :
    (t.javaLines true).map f = t.javaLines false := by
  have hheader : javaHeader.map f = javaHeader :=
    (List.map_congr_left fun l hl => hfixed l (by simp [hl])).trans (List.map_id _)
  have hclass : ∀ c ∈ t.classes, (t.javaClassLines true c).map f = t.javaClassLines false c := by
    intro c hc
    have hfields : (t.symbolsOf c).map (f ∘ Symbol.javaField true) = (t.symbolsOf c).map (Symbol.javaField false) :=
      List.map_congr_left fun s hs => hfield s (List.mem_filter.1 hs).1
    have hclose := hfixed classCloseLine (by simp)
    simp only [javaClassLines, List.map_cons, List.map_append, List.map_map, hfields]
    rw [← classOpenLine, hopen c hc, ← classCloseLine, hclose]
    rfl
  have hpkgLines : (if t.pkg.isEmpty then [] else [Bytes.ofString "package " ++ t.pkg ++ [59], []]).map f =
      (if t.pkg.isEmpty then [] else [Bytes.ofString "package " ++ t.pkg ++ [59], []]) := by
    split
    · rfl
    · simp only [List.map_cons, List.map_nil]
      rw [← packageLine, hpkg, hfixed [] (by simp)]
  have hclasses : ((t.classes.map (t.javaClassLines true)).flatten).map f =
      (t.classes.map (t.javaClassLines false)).flatten := by
    rw [List.map_flatten, List.map_map]
    exact congrArg List.flatten (List.map_congr_left hclass)
  have hempty := hfixed [] (by simp)
  have hend := hfixed [125] (by simp)
  simp only [javaLines, List.map_append, hheader, hpkgLines, hclasses, List.map_cons, List.map_nil]
  rw [← outerLine, houter, hempty, hend]

section Replace

open Bytes

theorem not_mem_of_contains_eq_false {p : Bytes} {c : UInt8} (h : contains p [c] = false) : c ∉ p :=
  fun hc => Bool.false_ne_true (h ▸ contains_singleton.2 hc)

theorem space_mem_intModifiers : (32 : UInt8) ∈ intModifiers true := contains_singleton.1 (by cbv)

theorem intModifiers_ne_nil : intModifiers true ≠ [] := List.ne_nil_of_mem space_mem_intModifiers

theorem contains_intModifiers_of_isToken {x : Bytes} (hx : isToken x = true) :
    contains x (intModifiers true) = false :=
  contains_eq_false_of_not_mem space_mem_intModifiers
    (not_mem_of_hasSpace_eq_false (isToken_iff.1 hx).2 (by decide) (by decide))

theorem javaField_eq_intModifiers (finalIds : Bool) {s : Symbol} {tail : Bytes}
    (ht : s.type.javaType = Bytes.ofString "int" ++ tail) :
    s.javaField finalIds = fieldIndent ++ (intModifiers finalIds ++
      (tail ++ [32] ++ s.name ++ Bytes.ofString " = " ++ s.value ++ [59])) := by
  have hint : Bytes.ofString " int" = [32] ++ Bytes.ofString "int" := by cbv
  simp only [Symbol.javaField, intModifiers, fieldIndent, ht, hint, List.append_assoc]

theorem contains_fieldRest {s : Symbol} (hname : isToken s.name = true)
    (hvalue : contains s.value (intModifiers true) = false) {tail : Bytes}
    (htail : StartsClear (intModifiers true) (tail ++ [32])) :
    contains (tail ++ [32] ++ s.name ++ Bytes.ofString " = " ++ s.value ++ [59]) (intModifiers true) = false := by
  have hsplit : tail ++ [32] ++ s.name ++ Bytes.ofString " = " ++ s.value ++ [59] =
      (tail ++ [32] ++ s.name ++ [32]) ++ 61 :: ([32] ++ s.value ++ [59]) := by
    simp [show Bytes.ofString " = " = [32, 61, 32] by cbv]
  rw [hsplit, contains_append_cons intModifiers_ne_nil (not_mem_of_contains_eq_false (by cbv)),
    contains_between intModifiers_ne_nil htail (by cbv; decide) (by cbv),
    contains_between intModifiers_ne_nil (by cbv; decide) (by cbv; decide) (by cbv),
    contains_intModifiers_of_isToken hname, hvalue, Bool.or_self]

theorem replaceEach_javaField {s : Symbol} (hw : s.Writable)
    (hv : s.type = .intArray → contains s.value (intModifiers true) = false) :
    replaceEach (intModifiers true) (intModifiers false) (s.javaField true) = s.javaField false := by
  -- the type word `int` ends the modifiers; an array type adds its brackets to the rest
  obtain ⟨tail, ht, htail, hvalue⟩ : ∃ tail, s.type.javaType = Bytes.ofString "int" ++ tail ∧
      StartsClear (intModifiers true) (tail ++ [32]) ∧ contains s.value (intModifiers true) = false := by
    rcases hw.type with h | h
    · exact ⟨[], by simp [ValueType.javaType, h], by cbv; decide,
        contains_intModifiers_of_isToken (hw.intToken h)⟩
    · exact ⟨Bytes.ofString "[]", by simp [ValueType.javaType, h]; cbv, by cbv; decide, hv h⟩
  rw [javaField_eq_intModifiers true ht, javaField_eq_intModifiers false ht,
    replaceEach_append_of_startsClear (by cbv; decide), replaceEach_prefix_append intModifiers_ne_nil,
    replaceEach_of_contains_eq_false (contains_fieldRest hw.name hvalue htail)]

theorem replaceEach_fixed {l : Bytes} (hl : l ∈ javaHeader ++ [[], [125], classCloseLine]) :
    replaceEach (intModifiers true) (intModifiers false) l = l := by
  refine replaceEach_of_contains_eq_false ?_
  revert l
  simp only [javaHeader, List.cons_append, List.nil_append, List.forall_mem_cons, List.not_mem_nil,
    IsEmpty.forall_iff, implies_true, and_true]
  cbv

-- The package clause, the outer class line and a class line are fixed text around a package, a
-- table name or a class: no occurrence starts in the text before or ends in the text after.

theorem replaceEach_packageLine {t : Table} (hpkg : contains t.pkg (intModifiers true) = false) :
    replaceEach (intModifiers true) (intModifiers false) t.packageLine = t.packageLine :=
  replaceEach_between intModifiers_ne_nil (by cbv; decide) (by cbv; decide) (by cbv) hpkg

theorem replaceEach_outerLine {t : Table} (hname : contains t.name (intModifiers true) = false) :
    replaceEach (intModifiers true) (intModifiers false) t.outerLine = t.outerLine :=
  replaceEach_between intModifiers_ne_nil (by cbv; decide) (by cbv; decide) (by cbv) hname

theorem replaceEach_classOpenLine {c : Bytes} (hc : isToken c = true) :
    replaceEach (intModifiers true) (intModifiers false) (classOpenLine c) = classOpenLine c :=
  replaceEach_between intModifiers_ne_nil (by cbv; decide) (by cbv; decide) (by cbv)
    (contains_intModifiers_of_isToken hc)

end Replace

theorem dropFinal_javaField (s : Symbol) : dropFinal (s.javaField true) = s.javaField false := by
  have hs : Bytes.startsWith (s.javaField true) (fieldPrefix true) = true := by
    rw [javaField_eq, Bytes.startsWith_iff]
    exact List.prefix_append _ _
  rw [dropFinal, if_pos hs, javaField_eq true, List.drop_left, javaField_eq]

theorem forall_mem_javaLines (t : Table) (finalIds : Bool) {P : Bytes → Prop}
    (hfixed : ∀ l ∈ javaHeader ++ [[], [125], classCloseLine], P l)
    (hpkg : P t.packageLine) (houter : P t.outerLine)
    (hopen : ∀ c ∈ t.classes, P (classOpenLine c))
    (hfield : ∀ s ∈ t.symbols, P (s.javaField finalIds)) :
    ∀ l ∈ t.javaLines finalIds, P l := by
  intro l hl
  simp only [javaLines, List.mem_append, List.mem_flatten, List.mem_map] at hl
  rcases hl with ((((hhead | hempty) | hp) | ho) | ⟨_, ⟨c, hc, rfl⟩, hl⟩) | hend
  · exact hfixed l (by simp [hhead])
  · exact hfixed l (by simp_all)
  · split at hp
    · simp at hp
    · rcases List.mem_pair.1 hp with rfl | rfl
      · exact hpkg
      · exact hfixed [] (by simp)
  · rw [List.mem_singleton.1 ho]
    exact houter
  · -- a line of the nested class of `c`
    simp only [javaClassLines, List.mem_cons, List.mem_append, List.mem_map, List.not_mem_nil, or_false] at hl
    rcases hl with rfl | ⟨s, hs, rfl⟩ | rfl
    · exact hopen c hc
    · exact hfield s (List.mem_filter.1 hs).1
    · exact hfixed classCloseLine (by simp)
  · simp only [List.mem_cons, List.not_mem_nil, or_false] at hend
    rcases hend with rfl | rfl <;> exact hfixed _ (by simp)

@[simp] theorem isFieldLine_packageLine (t : Table) : isFieldLine t.packageLine = false := by
  rw [packageLine, List.append_assoc, isFieldLine_append (by cbv)]
  cbv

@[simp] theorem isFieldLine_outerLine (t : Table) : isFieldLine t.outerLine = false := by
  rw [outerLine, List.append_assoc, isFieldLine_append (by cbv)]
  cbv

theorem isFieldLine_fixed {l : Bytes} (hl : l ∈ javaHeader ++ [[], [125], classCloseLine]) :
    isFieldLine l = false := by
  revert l
  simp only [javaHeader, List.cons_append, List.nil_append, List.forall_mem_cons, List.not_mem_nil,
    IsEmpty.forall_iff, implies_true, and_true]
  cbv

theorem startsWith_fieldPrefix_of_isFieldLine {l : Bytes} (h : isFieldLine l = false) :
    Bytes.startsWith l (fieldPrefix true) = false := by
  rw [← Bool.not_eq_true, Bytes.startsWith_iff]
  intro hp
  rw [isFieldLine, ← Bool.not_eq_true, Bytes.startsWith_iff] at h
  have hindent : fieldIndent <+: fieldPrefix true := by
    rw [fieldPrefix, List.append_assoc]
    exact List.prefix_append _ _
  exact h (hindent.trans hp)

theorem dropFinal_of_isFieldLine {l : Bytes} (h : isFieldLine l = false) : dropFinal l = l := by
  rw [dropFinal, startsWith_fieldPrefix_of_isFieldLine h, if_neg Bool.false_ne_true]

theorem javaLines_mutable (t : Table) :
    t.javaLines false = (t.javaLines true).map dropFinal ∧
      ∀ l ∈ t.javaLines true, Bytes.startsWith l (fieldPrefix true) = isFieldLine l := by
  refine ⟨(javaLines_map t dropFinal (fun l hl => dropFinal_of_isFieldLine (isFieldLine_fixed hl))
    (dropFinal_of_isFieldLine (isFieldLine_packageLine t)) (dropFinal_of_isFieldLine (isFieldLine_outerLine t))
    (fun c _ => dropFinal_of_isFieldLine (isFieldLine_classOpenLine c))
    (fun s _ => dropFinal_javaField s)).symm, ?_⟩
  -- a field line starts with the whole prefix; every other line is no field line
  have hother {l : Bytes} (h : isFieldLine l = false) : Bytes.startsWith l (fieldPrefix true) = isFieldLine l := by
    rw [startsWith_fieldPrefix_of_isFieldLine h, h]
  refine forall_mem_javaLines t true (fun l hl => hother (isFieldLine_fixed hl))
    (hother (isFieldLine_packageLine t)) (hother (isFieldLine_outerLine t))
    (fun c _ => hother (isFieldLine_classOpenLine c)) (fun s _ => ?_)
  rw [isFieldLine_javaField, Bytes.startsWith_iff, javaField_eq]
  exact List.prefix_append _ _

/-- Asking for mutable identifiers changes only the field modifiers of a built table's source. -/
theorem java_mutable_eq_replaceAll (cs : List Builder.Call) {t : Table}
    (ht : (Builder.run {} cs).1.build = .ok t)
    (hname : Bytes.contains t.name (Bytes.ofString "public static final int") = false)
    (hpkg : Bytes.contains t.pkg (Bytes.ofString "public static final int") = false)
    (hvalues : ∀ s ∈ t.symbols, s.type = .intArray →
      Bytes.contains s.value (Bytes.ofString "public static final int") = false) :
    t.java false = Bytes.replaceAll (Bytes.ofString "public static final int")
        (Bytes.ofString "public static int") (t.java true) ∧
      t.javaLines false = (t.javaLines true).map dropFinal ∧
      ∀ l ∈ t.javaLines true, Bytes.startsWith l (fieldPrefix true) = isFieldLine l := by
  refine ⟨?_, javaLines_mutable t⟩
  have hw : ∀ s ∈ t.symbols, s.Writable := (Builder.sound_new.run cs).build_writable ht
  have htok : ∀ c ∈ t.classes, isToken c = true := fun c hc => by
    obtain ⟨s, hs, rfl⟩ := List.mem_map.1 (List.mem_eraseDups.1 hc)
    exact (hw s hs).cls
  rw [← intModifiers_true] at hname hpkg hvalues
  -- replacing keeps every line but the fields, whose modifiers it changes
  have hlines : (t.javaLines true).map (Bytes.replaceEach (intModifiers true) (intModifiers false)) =
      t.javaLines false :=
    javaLines_map t _ (fun l hl => replaceEach_fixed hl) (replaceEach_packageLine hpkg)
      (replaceEach_outerLine hname) (fun c hc => replaceEach_classOpenLine (htok c hc))
      (fun s hs => replaceEach_javaField (hw s hs) (hvalues s hs))
  have hne : ¬ (intModifiers true).isEmpty = true := by simp [intModifiers_ne_nil]
  -- and no occurrence runs across the line feeds
  rw [← intModifiers_true, ← intModifiers_false, Bytes.replaceAll, if_neg hne, java, java,
    Bytes.replaceEach_lines (not_mem_of_contains_eq_false (by cbv)), hlines]

open Utf8 in
/-- A table in package `a` with one array whose value has blanks inside its braces: the mutable
source is the final one with the modifiers replaced. -/
theorem java_mutable_eq_replaceAll_array :
    (Builder.run {} [.tablePackage [97], .add ⟨.intArray, [115], [83], [123, 32, 49, 32, 125]⟩]).1.build =
        .ok ⟨Bytes.ofString "R", [97], [⟨.intArray, [115], [83], [123, 32, 49, 32, 125]⟩]⟩ ∧
      Table.java ⟨Bytes.ofString "R", [97], [⟨.intArray, [115], [83], [123, 32, 49, 32, 125]⟩]⟩ false =
        Bytes.replaceAll (Bytes.ofString "public static final int") (Bytes.ofString "public static int")
          (Table.java ⟨Bytes.ofString "R", [97], [⟨.intArray, [115], [83], [123, 32, 49, 32, 125]⟩]⟩ true) := by
  have ht : (Builder.run {} [.tablePackage [97], .add ⟨.intArray, [115], [83], [123, 32, 49, 32, 125]⟩]).1.build =
      .ok ⟨Bytes.ofString "R", [97], [⟨.intArray, [115], [83], [123, 32, 49, 32, 125]⟩]⟩ := by
    simp [Builder.run, Builder.call, Builder.add, Symbol.flaw?, Builder.build, isToken,
      Bytes.hasSpace, segments_cons_of_lt, Segment.isSpace, Unicode.isSpace, trimSpace_eq,
      Bytes.contains, Bytes.startsWith, Bytes.endsWith, ValueType.isValid, ValueType.intArray,
      defaultTableName, List.rdropWhile, Builder.setPackage]
  refine ⟨ht, (java_mutable_eq_replaceAll _ ht (by cbv) (by cbv) ?_).1⟩
  intro s hs _
  rw [List.mem_singleton.1 hs]
  cbv

end Table

end ResourceSymbols
