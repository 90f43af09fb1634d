import ResourceSymbols.Proofs.RoundTrip
import ResourceSymbols.Table.Java

namespace ResourceSymbols

namespace Table

def classOpenLine (cls : Bytes) : Bytes :=
  Bytes.ofString "    public static final class " ++ cls ++ Bytes.ofString " \x7b"

def classCloseLine : Bytes := Bytes.ofString "    \x7d"

def classBlock (finalIds : Bool) (L : List Symbol) (cls : Bytes) : List Bytes :=
  classOpenLine cls :: (L.filter (·.cls == cls)).map (Symbol.javaField finalIds) ++ [classCloseLine]

def runLines (finalIds : Bool) : Option Bytes → List Symbol → List Bytes
  | none, [] => []
  | some _, [] => [classCloseLine]
  | none, s :: rest => classOpenLine s.cls :: s.javaField finalIds :: runLines finalIds (some s.cls) rest
  | some c, s :: rest =>
    if s.cls = c then s.javaField finalIds :: runLines finalIds (some c) rest
    else classCloseLine :: classOpenLine s.cls :: s.javaField finalIds :: runLines finalIds (some s.cls) rest

def passLines (t : Table) (finalIds : Bool) : List Bytes :=
  javaHeader ++ [[]]
    ++ (if t.pkg.isEmpty then [] else [Bytes.ofString "package " ++ t.pkg ++ [59], []])
    ++ [Bytes.ofString "public final class " ++ t.name ++ Bytes.ofString " \x7b"]
    ++ runLines finalIds none t.symbols
    ++ [[], [125]]

def fieldIndent : Bytes := Bytes.ofString "        "

def isFieldLine (l : Bytes) : Bool := Bytes.startsWith l fieldIndent

theorem isFieldLine_append {p : Bytes} (hp : fieldIndent.length ≤ p.length) (x : Bytes) :
    isFieldLine (p ++ x) = isFieldLine p := by
  simp only [isFieldLine, Bytes.startsWith, List.take_append_of_le_length hp]

@[simp] theorem isFieldLine_javaField (finalIds : Bool) (s : Symbol) :
    isFieldLine (s.javaField finalIds) = true := by
  simp [isFieldLine, Bytes.startsWith, Symbol.javaField, fieldIndent]

@[simp] theorem isFieldLine_classOpenLine (cls : Bytes) : isFieldLine (classOpenLine cls) = false := by
  rw [classOpenLine, List.append_assoc, isFieldLine_append (by decide +kernel)]
  decide +kernel

@[simp] theorem isFieldLine_classCloseLine : isFieldLine classCloseLine = false := by decide +kernel

/-! ### Symbols in order of class -/

theorem filter_cls_of_head_ne {c : Bytes} {s : Symbol} {rest : List Symbol}
    (hs : ∀ r ∈ rest, s.cls ≤ r.cls) (hc : c ≤ s.cls) (hsc : s.cls ≠ c) :
    rest.filter (·.cls == c) = [] ∧ rest.filter (·.cls != c) = rest := by
  have hother : ∀ r ∈ rest, r.cls ≠ c := fun r hr hrc => hsc (List.le_antisymm (hrc ▸ hs r hr) hc)
  exact ⟨List.filter_eq_nil_iff.2 (by simpa using hother), List.filter_eq_self.2 (by simpa using hother)⟩

theorem map_cls_filter (L : List Symbol) (c : Bytes) :
    (L.map Symbol.cls).filter (fun b => !b == c) = (L.filter (·.cls != c)).map Symbol.cls := by
  rw [List.filter_map]
  rfl

theorem filter_cls_cons_of_mem {s : Symbol} {rest : List Symbol} {c : Bytes}
    (hc : c ∈ ((rest.filter (·.cls != s.cls)).map Symbol.cls).eraseDups) :
    (s :: rest).filter (·.cls == c) = (rest.filter (·.cls != s.cls)).filter (·.cls == c) := by
  obtain ⟨r, hr, rfl⟩ := List.mem_map.1 (List.mem_eraseDups.1 hc)
  have hrs : r.cls ≠ s.cls := by simpa using (List.mem_filter.1 hr).2
  rw [List.filter_filter, List.filter_cons_of_neg (by simpa using hrs.symm)]
  refine List.filter_congr fun q _ => ?_
  by_cases hq : q.cls = r.cls <;> simp [hq, hrs]

section Pass

variable (finalIds : Bool)

theorem runLines_fields (o : Option Bytes) (L : List Symbol) :
    (runLines finalIds o L).filter isFieldLine = L.map (Symbol.javaField finalIds) := by
  fun_induction runLines finalIds o L <;> simp_all

theorem runLines_some {c : Bytes} {L : List Symbol} (hs : L.Pairwise fun a b => a.cls ≤ b.cls)
    (hc : ∀ s ∈ L, c ≤ s.cls) :
    runLines finalIds (some c) L =
      (L.filter (·.cls == c)).map (Symbol.javaField finalIds) ++
        classCloseLine :: runLines finalIds none (L.filter (·.cls != c)) := by
  induction L with
  | nil => rfl
  | cons s rest ih =>
    rw [List.pairwise_cons] at hs
    by_cases hsc : s.cls = c
    · have hrest := ih hs.2 fun r hr => hc r (List.mem_cons_of_mem _ hr)
      simp [runLines, hsc, hrest]
    · -- `s` starts a later class: nothing after it is of class `c`
      obtain ⟨hnone, hall⟩ := filter_cls_of_head_ne hs.1 (hc s List.mem_cons_self) hsc
      simp [runLines, hsc, hnone, hall]

theorem runLines_none {L : List Symbol} (hs : L.Pairwise fun a b => a.cls ≤ b.cls) :
    runLines finalIds none L = ((L.map Symbol.cls).eraseDups.map (classBlock finalIds L)).flatten := by
  cases L with
  | nil => rfl
  | cons s rest =>
    rw [List.pairwise_cons] at hs
    have hfirst := runLines_some finalIds hs.2 hs.1
    -- after the first class the pass goes over the symbols of the other classes only
    have hrest := runLines_none (hs.2.filter (·.cls != s.cls))
    -- and each of those classes holds the same symbols once the first class is left out
    have hblocks : ∀ c ∈ ((rest.filter (·.cls != s.cls)).map Symbol.cls).eraseDups,
        classBlock finalIds (s :: rest) c = classBlock finalIds (rest.filter (·.cls != s.cls)) c := by
      intro c hc
      rw [classBlock, classBlock, filter_cls_cons_of_mem hc]
    rw [List.map_cons, List.eraseDups_cons, map_cls_filter, List.map_cons, List.flatten_cons,
      List.map_congr_left hblocks, ← hrest, runLines, hfirst]
    simp [classBlock]
termination_by L.length
decreasing_by
  have := List.length_filter_le (·.cls != s.cls) rest
  subst_vars
  simp only [List.length_cons]
  omega

end Pass

theorem passLines_fields (t : Table) (finalIds : Bool) :
    (t.passLines finalIds).filter isFieldLine = t.symbols.map (Symbol.javaField finalIds) := by
  have hheader : (javaHeader ++ [[]]).filter isFieldLine = [] := by decide +kernel
  have hempty : isFieldLine [] = false := by decide +kernel
  have hpkg : (if t.pkg.isEmpty then [] else [Bytes.ofString "package " ++ t.pkg ++ [59], []]).filter
      isFieldLine = [] := by
    split
    · rfl
    · have hline : isFieldLine (Bytes.ofString "package " ++ t.pkg ++ [59]) = false := by
        rw [List.append_assoc, isFieldLine_append (by decide +kernel)]
        decide +kernel
      simp only [List.filter_cons, hline, hempty, Bool.false_eq_true, if_false, List.filter_nil]
  have hclass : isFieldLine (Bytes.ofString "public final class " ++ t.name ++ Bytes.ofString " \x7b") =
      false := by
    rw [List.append_assoc, isFieldLine_append (by decide +kernel)]
    decide +kernel
  have htail : ([[], [125]] : List Bytes).filter isFieldLine = [] := by decide +kernel
  simp only [passLines, List.filter_append, hheader, hpkg, List.filter_cons, hclass, Bool.false_eq_true,
    if_false, List.filter_nil, runLines_fields, htail, List.nil_append, List.append_nil]

theorem javaLines_eq_passLines (t : Table) (finalIds : Bool)
    (hs : t.symbols.Pairwise fun a b => a.cls ≤ b.cls) :
    t.javaLines finalIds = t.passLines finalIds := by
  rw [javaLines, passLines, runLines_none finalIds hs]
  rfl

end Table

theorem Symbol.cls_le_of_keyLt {a b : Symbol} (h : a.keyLt b = true) : a.cls ≤ b.cls := by
  rcases Symbol.keyLt_iff.1 h with hlt | ⟨heq, -⟩
  · exact List.le_of_lt hlt
  · exact heq ▸ List.le_refl _

open Table in
/-- The Java source of a built table is one pass over its symbols in the order of its symbol text,
and does not depend on the order the symbols were added in. -/
theorem java_eq_symbol_pass (cs : List Builder.Call) {t : Table}
    (ht : (Builder.run {} cs).1.build = .ok t) (finalIds : Bool) :
    t.java finalIds = ((t.passLines finalIds).map fun l => l ++ [10]).flatten ∧
    (t.javaLines finalIds).filter isFieldLine = t.symbols.map (Symbol.javaField finalIds) ∧
    textLines t.write = t.symbols.map Symbol.line ∧
    ∀ (cs' : List Builder.Call) (t' : Table), (Builder.run {} cs').1.build = .ok t' →
      t'.name = t.name → t'.pkg = t.pkg → t'.symbols.Perm t.symbols → t'.java finalIds = t.java finalIds := by
  have hsound := Builder.sound_new.run cs
  obtain ⟨-, hpair⟩ := hsound.build_symbols ht
  have hpass : t.javaLines finalIds = t.passLines finalIds :=
    javaLines_eq_passLines t finalIds (hpair.imp Symbol.cls_le_of_keyLt)
  refine ⟨by rw [java, hpass], hpass ▸ passLines_fields t finalIds, ?_, ?_⟩
  · exact textLines_written (hsound.build_writable ht)
  · -- both symbol lists are ordered strictly by key, so being the same symbols they are equal
    intro cs' t' ht' hname hpkg hsame
    obtain ⟨-, hpair'⟩ := (Builder.sound_new.run cs').build_symbols ht'
    have hsyms : t'.symbols = t.symbols := hsame.eq_of_pairwise
      (fun a b _ _ hab hba => absurd hba (by simp [Symbol.keyLt_asymm hab])) hpair' hpair
    have : t' = t := by
      cases t
      cases t'
      simp_all
    rw [this]

open Table Utf8 in
/-- Two symbols of two classes, added against key order: the table built from them has the class
`attr` first, and its source is the one-pass source. -/
theorem java_eq_symbol_pass_two_classes :
    (Builder.run {} [.add ⟨.int, [105, 100], [98], [49]⟩, .add ⟨.int, [97], [97], [50]⟩]).1.build =
        .ok ⟨Bytes.ofString "R", [], [⟨.int, [97], [97], [50]⟩, ⟨.int, [105, 100], [98], [49]⟩]⟩ ∧
      (let t : Table := ⟨Bytes.ofString "R", [], [⟨.int, [97], [97], [50]⟩, ⟨.int, [105, 100], [98], [49]⟩]⟩
      t.java true = ((t.passLines true).map fun l => l ++ [10]).flatten ∧
      (t.javaLines true).filter isFieldLine = t.symbols.map (Symbol.javaField true) ∧
      textLines t.write = t.symbols.map Symbol.line ∧
      ∀ (cs' : List Builder.Call) (t' : Table), (Builder.run {} cs').1.build = .ok t' →
        t'.name = t.name → t'.pkg = t.pkg → t'.symbols.Perm t.symbols → t'.java true = t.java true) := by
  have ht : (Builder.run {} [.add ⟨.int, [105, 100], [98], [49]⟩, .add ⟨.int, [97], [97], [50]⟩]).1.build =
      .ok ⟨Bytes.ofString "R", [], [⟨.int, [97], [97], [50]⟩, ⟨.int, [105, 100], [98], [49]⟩]⟩ := by
    simp [Builder.run, Builder.call, Builder.add, Symbol.flaw?, Builder.build, isToken,
      Bytes.hasSpace, segments_cons_of_lt, Segment.isSpace, Unicode.isSpace, trimSpace_eq,
      Bytes.contains, Bytes.startsWith, ValueType.isValid, ValueType.int, defaultTableName,
      List.rdropWhile_singleton]
    exact List.mergeSort_of_pairwise (by decide +kernel)
  exact ⟨ht, java_eq_symbol_pass _ ht true⟩

end ResourceSymbols
