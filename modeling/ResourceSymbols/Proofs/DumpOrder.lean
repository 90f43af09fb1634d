import ResourceSymbols.Proofs.RoundTrip
import ResourceSymbols.Table.Dump

namespace ResourceSymbols

namespace Natural

theorem skipCommon_self (a : Bytes) : ∃ x, skipCommon a a = (x, x) ∧ x.length ≤ a.length := by
  induction a with
  | nil => exact ⟨[], rfl, Nat.le_refl _⟩
  | cons y ys ih =>
    simp only [skipCommon, bne_self_eq_false, Bool.or_false]
    split
    · exact ⟨_, rfl, Nat.le_refl _⟩
    · obtain ⟨x, hx, hlen⟩ := ih
      exact ⟨x, hx, by simp only [List.length_cons]; omega⟩

theorem lt_self (a : Bytes) : Bytes.lt a a = false := by
  rw [← Bool.not_eq_true, Bytes.lt_iff_lt]
  exact List.lt_irrefl a

theorem less_self (a : Bytes) : less a a = false := by
  -- on the length: equal digit runs go on to the rest of the same text
  induction h : a.length using Nat.strongRecOn generalizing a with
  | ind n ih =>
  obtain ⟨x, hx, hlen⟩ := skipCommon_self a
  rw [less, hx]
  dsimp only
  split
  · simp_all
  · split
    · exact lt_self x
    · rename_i hd
      simp only [bne_self_eq_false, Bool.and_self, Bool.false_eq_true, if_false]
      split
      · have hpos : 0 < (x.takeWhile isDigit).length := List.length_pos_iff.2 fun e => hd (Or.inl e)
        have hle := (List.takeWhile_sublist (l := x) isDigit).length_le
        exact ih _ (by simp only [List.length_drop]; omega) _ rfl
      · exact lt_self x

/-- Natural order is a strict total order on the texts `xs`: of two different ones exactly one
comes first, and coming first is transitive. -/
structure Ranks (xs : List Bytes) : Prop where
  connex : ∀ a ∈ xs, ∀ b ∈ xs, a ≠ b → (less a b = true ↔ less b a = false)
  trans : ∀ a ∈ xs, ∀ b ∈ xs, ∀ c ∈ xs, less a b = true → less b c = true → less a c = true

section Sorted

variable {α : Type} (key : α → Bytes)

theorem pairwise_mergeSort {l : List α} (h : Ranks (l.map key)) :
    (l.mergeSort fun a b => !less (key b) (key a)).Pairwise fun a b => less (key b) (key a) = false := by
  -- sort the elements together with their membership, where the order is total and transitive
  have hval : (l.attach.mergeSort fun a b => !less (key b.1) (key a.1)).map Subtype.val =
      l.mergeSort fun a b => !less (key b) (key a) := by
    rw [@List.map_mergeSort _ _ _ (fun a b => !less (key b) (key a)) Subtype.val l.attach
      fun _ _ _ _ => rfl, List.attach_map_subtype_val]
  have hmem : ∀ a : {x // x ∈ l}, key a.1 ∈ l.map key := fun a => List.mem_map_of_mem a.2
  rw [← hval, List.pairwise_map]
  refine (List.pairwise_mergeSort (fun a b c hab hbc => ?_) (fun a b => ?_) _).imp fun hab => by simpa using hab
  · -- were `c` before `a`, `b` would come before `a` or after `c`
    simp only [Bool.not_eq_eq_eq_not, Bool.not_true] at hab hbc ⊢
    cases hca : less (key c.1) (key a.1) with
    | false => rfl
    | true =>
      by_cases hbc' : key b.1 = key c.1
      · rw [hbc', hca] at hab
        exact absurd hab (by simp)
      · have hlt : less (key b.1) (key c.1) = true := (h.connex _ (hmem b) _ (hmem c) hbc').2 hbc
        rw [h.trans _ (hmem b) _ (hmem c) _ (hmem a) hlt hca] at hab
        exact absurd hab (by simp)
  · by_cases hab : key a.1 = key b.1
    · simp [hab, less_self]
    · cases hba : less (key b.1) (key a.1) with
      | false => rfl
      | true => simp [(h.connex _ (hmem b) _ (hmem a) (Ne.symm hab)).1 hba]

theorem eq_of_sorted {l₁ l₂ L : List α} (hinj : ∀ a ∈ L, ∀ b ∈ L, key a = key b → a = b)
    (h : Ranks (L.map key)) (hp₁ : l₁.Perm L) (hp₂ : l₂.Perm L)
    (hs₁ : l₁.Pairwise fun a b => less (key b) (key a) = false)
    (hs₂ : l₂.Pairwise fun a b => less (key b) (key a) = false) : l₁ = l₂ := by
  refine (hp₁.trans hp₂.symm).eq_of_pairwise (fun a b ha hb hba hab => ?_) hs₁ hs₂
  have ha' := hp₁.mem_iff.1 ha
  have hb' := hp₂.mem_iff.1 hb
  by_contra hne
  have hkey : key a ≠ key b := fun hk => hne (hinj a ha' b hb' hk)
  have := (h.connex _ (List.mem_map_of_mem ha') _ (List.mem_map_of_mem hb') hkey).2 hba
  rw [this] at hab
  exact absurd hab (by simp)

end Sorted

end Natural

namespace Table

def dumpBlock (o : Outline) (cls : Bytes) (list : List Symbol) : Outline :=
  let o := o.line 1 (Bytes.ofString "Class[%q] (%d symbols)") [.text cls, .int list.length]
  list.foldl (fun o s =>
    (o.line 2 (Bytes.ofString "%s %s") [.text s.type.toText, .text s.name]).labelled 3
      (Bytes.ofString "Value") s.value) o

def dumpWith (t : Table) (classes : List Bytes) (listOf : Bytes → List Symbol) : Bytes :=
  let pkg := if t.pkg.isEmpty then Bytes.ofString "<default>" else t.pkg
  let o := Outline.standard.line 0 (Bytes.ofString "Table %q package %q (%d symbols)")
    [.text t.name, .text pkg, .int t.len]
  (classes.foldl (fun o c => dumpBlock o c (listOf c)) o).text

theorem dump_eq_dumpWith (t : Table) :
    t.dump = t.dumpWith (naturalSort t.classes)
      (fun c => (t.symbolsOf c).mergeSort fun a b => !Natural.less b.name a.name) := rfl

theorem dumpWith_congr (t : Table) (classes : List Bytes) {f g : Bytes → List Symbol}
    (h : ∀ c ∈ classes, f c = g c) : t.dumpWith classes f = t.dumpWith classes g := by
  simp only [dumpWith]
  congr 1
  exact List.foldl_ext _ _ _ fun o c hc => by rw [h c hc]

/-- An order a dump may list a table in: the classes in an order that a sort by natural order may
return from any starting order, and the symbols of each class in such an order by name. -/
structure DumpOrder (t : Table) where
  classes : List Bytes
  listOf : Bytes → List Symbol
  classes_perm : classes.Perm t.classes
  classes_sorted : classes.Pairwise fun a b => Natural.less b a = false
  listOf_perm : ∀ c ∈ classes, (listOf c).Perm (t.symbolsOf c)
  listOf_sorted : ∀ c ∈ classes, (listOf c).Pairwise fun a b => Natural.less b.name a.name = false

/-- The texts a dump of the table may be, for some order it may list the table in. -/
def Dumps (t : Table) (text : Bytes) : Prop :=
  ∃ o : t.DumpOrder, t.dumpWith o.classes o.listOf = text

end Table

open Table in
/-- Where natural order is a strict total order on the classes and names, every order the sorts
may return gives the one text `Table.dump`. -/
theorem dumps_iff_eq_dump (cs : List Builder.Call) {t : Table}
    (ht : (Builder.run {} cs).1.build = .ok t) (hcls : Natural.Ranks t.classes)
    (hnames : ∀ c ∈ t.classes, Natural.Ranks ((t.symbolsOf c).map Symbol.name)) (text : Bytes) :
    t.Dumps text ↔ text = t.dump := by
  obtain ⟨hperm, -⟩ := (Builder.sound_new.run cs).build_symbols ht
  have hkeys : (t.symbols.map Symbol.key).Nodup :=
    (hperm.map Symbol.key).nodup_iff.2 (Builder.sound_new.run cs).nodup
  have hcls' : Natural.Ranks (t.classes.map fun c => c) := by simpa using hcls
  -- within a class, symbols are told apart by name
  have hinj : ∀ c, ∀ a ∈ t.symbolsOf c, ∀ b ∈ t.symbolsOf c, a.name = b.name → a = b := by
    intro c a ha b hb hname
    obtain ⟨ha, hac⟩ := List.mem_filter.1 ha
    obtain ⟨hb, hbc⟩ := List.mem_filter.1 hb
    refine List.inj_on_of_nodup_map hkeys ha hb ?_
    simp only [beq_iff_eq] at hac hbc
    simp [Symbol.key, hac, hbc, hname]
  -- the orders the model's sorts give are sorted
  let sorted : t.DumpOrder :=
    { classes := naturalSort t.classes
      listOf := fun c => (t.symbolsOf c).mergeSort fun a b => !Natural.less b.name a.name
      classes_perm := List.mergeSort_perm _ _
      classes_sorted := Natural.pairwise_mergeSort (fun c => c) hcls'
      listOf_perm := fun _ _ => List.mergeSort_perm _ _
      listOf_sorted := fun c hc => Natural.pairwise_mergeSort Symbol.name
        (hnames c ((List.mergeSort_perm _ _).mem_iff.1 hc)) }
  constructor
  · rintro ⟨o, rfl⟩
    have hclasses : o.classes = sorted.classes :=
      Natural.eq_of_sorted (fun c => c) (fun _ _ _ _ h => h) hcls' o.classes_perm sorted.classes_perm
        o.classes_sorted sorted.classes_sorted
    rw [dump_eq_dumpWith, ← show sorted.classes = naturalSort t.classes from rfl, ← hclasses]
    refine dumpWith_congr t o.classes fun c hc => ?_
    have hc' : c ∈ t.classes := o.classes_perm.mem_iff.1 hc
    exact Natural.eq_of_sorted Symbol.name (hinj c) (hnames c hc') (o.listOf_perm c hc)
      (List.mergeSort_perm _ _) (o.listOf_sorted c hc)
      (sorted.listOf_sorted c (hclasses ▸ hc))
  · rintro rfl
    exact ⟨sorted, rfl⟩

open Table Utf8 in
/-- A class holding `v9300000000000000000` and `v5`, added in that order: natural order ranks the
two names, so the table has one dump. -/
theorem dumps_iff_eq_dump_large_run :
    (Builder.run {} [.add ⟨.int, [105, 100], [118, 57, 51] ++ List.replicate 17 48, [50]⟩,
        .add ⟨.int, [105, 100], [118, 53], [49]⟩]).1.build =
      .ok ⟨Bytes.ofString "R", [], [⟨.int, [105, 100], [118, 53], [49]⟩,
        ⟨.int, [105, 100], [118, 57, 51] ++ List.replicate 17 48, [50]⟩]⟩ ∧
    (let t : Table := ⟨Bytes.ofString "R", [], [⟨.int, [105, 100], [118, 53], [49]⟩,
        ⟨.int, [105, 100], [118, 57, 51] ++ List.replicate 17 48, [50]⟩]⟩
    Natural.Ranks t.classes ∧ (∀ c ∈ t.classes, Natural.Ranks ((t.symbolsOf c).map Symbol.name)) ∧
      ∀ text, t.Dumps text ↔ text = t.dump) := by
  have ht : (Builder.run {} [.add ⟨.int, [105, 100], [118, 57, 51] ++ List.replicate 17 48, [50]⟩,
      .add ⟨.int, [105, 100], [118, 53], [49]⟩]).1.build =
      .ok ⟨Bytes.ofString "R", [], [⟨.int, [105, 100], [118, 53], [49]⟩,
        ⟨.int, [105, 100], [118, 57, 51] ++ List.replicate 17 48, [50]⟩]⟩ := by
    simp [Builder.run, Builder.call, Builder.add, Symbol.flaw?, Builder.build, isToken,
      Bytes.hasSpace, segments_cons_of_lt, Segment.isSpace, Unicode.isSpace, trimSpace_eq,
      Bytes.contains, Bytes.startsWith, ValueType.isValid, ValueType.int, defaultTableName,
      List.rdropWhile_singleton]
    exact List.mergeSort_of_pairwise (by decide +kernel)
  have hcls : Natural.Ranks [[105, 100]] := ⟨by decide +kernel, by decide +kernel⟩
  have hnames : ∀ c ∈ [[105, 100]], Natural.Ranks
      (((⟨Bytes.ofString "R", [], [⟨.int, [105, 100], [118, 53], [49]⟩,
        ⟨.int, [105, 100], [118, 57, 51] ++ List.replicate 17 48, [50]⟩]⟩ : Table).symbolsOf c).map
        Symbol.name) := by
    intro c hc
    rw [List.mem_singleton.1 hc]
    exact ⟨by decide +kernel, by decide +kernel⟩
  exact ⟨ht, hcls, hnames, dumps_iff_eq_dump _ ht hcls hnames⟩

open Table Utf8 in
/-- Names whose digit runs have the same value are tied in natural order: a class holding `a1x` and
`a01x` may be dumped with either one first, and the table has two dumps. -/
theorem dumps_differ_of_tie :
    (Builder.run {} [.add ⟨.int, [105, 100], [97, 49, 120], [49]⟩,
        .add ⟨.int, [105, 100], [97, 48, 49, 120], [50]⟩]).1.build =
      .ok ⟨Bytes.ofString "R", [], [⟨.int, [105, 100], [97, 48, 49, 120], [50]⟩,
        ⟨.int, [105, 100], [97, 49, 120], [49]⟩]⟩ ∧
    ∃ text₁ text₂, text₁ ≠ text₂ ∧
      (⟨Bytes.ofString "R", [], [⟨.int, [105, 100], [97, 48, 49, 120], [50]⟩,
        ⟨.int, [105, 100], [97, 49, 120], [49]⟩]⟩ : Table).Dumps text₁ ∧
      (⟨Bytes.ofString "R", [], [⟨.int, [105, 100], [97, 48, 49, 120], [50]⟩,
        ⟨.int, [105, 100], [97, 49, 120], [49]⟩]⟩ : Table).Dumps text₂ := by
  have ht : (Builder.run {} [.add ⟨.int, [105, 100], [97, 49, 120], [49]⟩,
      .add ⟨.int, [105, 100], [97, 48, 49, 120], [50]⟩]).1.build =
      .ok ⟨Bytes.ofString "R", [], [⟨.int, [105, 100], [97, 48, 49, 120], [50]⟩,
        ⟨.int, [105, 100], [97, 49, 120], [49]⟩]⟩ := by
    simp [Builder.run, Builder.call, Builder.add, Symbol.flaw?, Builder.build, isToken,
      Bytes.hasSpace, segments_cons_of_lt, Segment.isSpace, Unicode.isSpace, trimSpace_eq,
      Bytes.contains, Bytes.startsWith, ValueType.isValid, ValueType.int, defaultTableName,
      List.rdropWhile_singleton]
    exact List.mergeSort_of_pairwise (by decide +kernel)
  -- either order of the two names is sorted, since neither comes before the other
  let inOrder : DumpOrder ⟨Bytes.ofString "R", [], [⟨.int, [105, 100], [97, 48, 49, 120], [50]⟩,
      ⟨.int, [105, 100], [97, 49, 120], [49]⟩]⟩ :=
    { classes := [[105, 100]]
      listOf := fun _ => [⟨.int, [105, 100], [97, 48, 49, 120], [50]⟩, ⟨.int, [105, 100], [97, 49, 120], [49]⟩]
      classes_perm := by decide +kernel
      classes_sorted := by decide +kernel
      listOf_perm := by decide +kernel
      listOf_sorted := by decide +kernel }
  let swapped : DumpOrder ⟨Bytes.ofString "R", [], [⟨.int, [105, 100], [97, 48, 49, 120], [50]⟩,
      ⟨.int, [105, 100], [97, 49, 120], [49]⟩]⟩ :=
    { classes := [[105, 100]]
      listOf := fun _ => [⟨.int, [105, 100], [97, 49, 120], [49]⟩, ⟨.int, [105, 100], [97, 48, 49, 120], [50]⟩]
      classes_perm := by decide +kernel
      classes_sorted := by decide +kernel
      listOf_perm := by decide +kernel
      listOf_sorted := by decide +kernel }
  exact ⟨ht, _, _, by decide +kernel, ⟨inOrder, rfl⟩, ⟨swapped, rfl⟩⟩

end ResourceSymbols
