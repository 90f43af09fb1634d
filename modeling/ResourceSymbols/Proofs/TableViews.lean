import ResourceSymbols.Proofs.SourceOrder

namespace ResourceSymbols

namespace Table

theorem pairwise_lt_eraseDups {l : List Bytes} (h : l.Pairwise (· ≤ ·)) : l.eraseDups.Pairwise (· < ·) := by
  match l, h with
  | [], _ => simp
  | a :: as, h =>
    rw [List.pairwise_cons] at h
    rw [List.eraseDups_cons, List.pairwise_cons]
    refine ⟨fun b hb => ?_, pairwise_lt_eraseDups (h.2.filter _)⟩
    -- what is left after `a` comes no earlier than `a` and differs from it
    obtain ⟨hb, hba⟩ := List.mem_filter.1 (List.mem_eraseDups.1 hb)
    have hne : b ≠ a := by simpa using hba
    rcases Bytes.lt_trichotomy a b with hab | rfl | hab
    · exact hab
    · exact absurd rfl hne
    · exact absurd hab (h.1 b hb)
termination_by l.length
decreasing_by exact Nat.lt_succ_of_le (List.length_filter_le _ _)

theorem filter_cls_append {c : Bytes} {L : List Symbol} (hs : L.Pairwise fun a b => a.cls ≤ b.cls)
    (hc : ∀ s ∈ L, c ≤ s.cls) : L.filter (·.cls == c) ++ L.filter (·.cls != c) = L := by
  induction L with
  | nil => rfl
  | cons s rest ih =>
    rw [List.pairwise_cons] at hs
    by_cases hsc : s.cls = c
    · have hrest := ih hs.2 fun r hr => hc r (List.mem_cons_of_mem _ hr)
      simp [hsc, hrest]
    · -- `s` starts a later class: nothing after it is of class `c`
      obtain ⟨hnone, hall⟩ := filter_cls_of_head_ne hs.1 (hc s List.mem_cons_self) hsc
      simp [hsc, hnone, hall]

theorem flatMap_filter_cls {L : List Symbol} (hs : L.Pairwise fun a b => a.cls ≤ b.cls) :
    (L.map Symbol.cls).eraseDups.flatMap (fun c => L.filter (·.cls == c)) = L := by
  match L, hs with
  | [], _ => rfl
  | s :: rest, hs =>
    rw [List.pairwise_cons] at hs
    -- after the first class come the symbols of the other classes only
    have hrest := flatMap_filter_cls (hs.2.filter (·.cls != s.cls))
    -- and each of those classes holds the same symbols once the first class is left out
    rw [List.map_cons, List.eraseDups_cons, map_cls_filter, List.flatMap_cons,
      List.flatMap_congr fun c hc => filter_cls_cons_of_mem hc, hrest,
      List.filter_cons_of_pos (by simp), List.cons_append, filter_cls_append hs.2 hs.1]
termination_by L.length
decreasing_by
  have := List.length_filter_le (·.cls != s.cls) rest
  simp only [List.length_cons]
  omega

theorem lookup?_eq_some_iff {t : Table} (hk : (t.symbols.map Symbol.key).Nodup) {c n : Bytes} {s : Symbol} :
    t.lookup? c n = some s ↔ s ∈ t.symbols ∧ s.cls = c ∧ s.name = n := by
  unfold lookup?
  constructor
  · intro h
    have hp := List.find?_some h
    simp only [Bool.and_eq_true, beq_iff_eq] at hp
    exact ⟨List.mem_of_find?_eq_some h, hp⟩
  · rintro ⟨hs, rfl, rfl⟩
    -- something is found, and with the same key as `s` it is `s`
    have hfound : (t.symbols.find? fun x => x.cls == s.cls && x.name == s.name).isSome :=
      List.find?_isSome.2 ⟨s, hs, by simp⟩
    obtain ⟨s', hs'⟩ := Option.isSome_iff_exists.1 hfound
    have hp := List.find?_some hs'
    simp only [Bool.and_eq_true, beq_iff_eq] at hp
    rw [hs', List.inj_on_of_nodup_map hk (List.mem_of_find?_eq_some hs') hs (by simp [Symbol.key, hp])]

/-- The views of a table built from any sequence of calls agree. -/
theorem views_agree (cs : List Builder.Call) {t : Table} (ht : (Builder.run {} cs).1.build = .ok t) :
    (t.symbols.Pairwise (fun a b => a.keyLt b = true) ∧ t.symbols.Perm (Builder.run {} cs).1.accepted ∧
      (∀ s ∈ (Builder.run {} cs).1.accepted, t.symbols.count s = 1) ∧
      t.len = (Builder.run {} cs).1.accepted.length) ∧
    (t.classes.Pairwise (· < ·) ∧ ∀ c, c ∈ t.classes ↔ ∃ s ∈ t.symbols, s.cls = c) ∧
    (∀ c, t.symbolsOf c = t.symbols.filter (·.cls == c) ∧ (c ∉ t.classes → t.symbolsOf c = [])) ∧
    t.classes.flatMap t.symbolsOf = t.symbols ∧
    ∀ c n s, t.lookup? c n = some s ↔ s ∈ t.symbols ∧ s.cls = c ∧ s.name = n := by
  have hsound := Builder.sound_new.run cs
  obtain ⟨hperm, hpair⟩ := hsound.build_symbols ht
  have hkeys : (t.symbols.map Symbol.key).Nodup := (hperm.map Symbol.key).nodup_iff.2 hsound.nodup
  have hcls : t.symbols.Pairwise fun a b => a.cls ≤ b.cls := hpair.imp Symbol.cls_le_of_keyLt
  have hmem : ∀ c, c ∈ t.classes ↔ ∃ s ∈ t.symbols, s.cls = c := fun c => by
    simp [classes, List.mem_eraseDups]
  refine ⟨⟨hpair, hperm, fun s hs => ?_, hperm.length_eq⟩,
    ⟨pairwise_lt_eraseDups (List.pairwise_map.2 hcls), hmem⟩, fun c => ⟨rfl, fun hc => ?_⟩,
    flatMap_filter_cls hcls, fun c n s => lookup?_eq_some_iff hkeys⟩
  · rw [hperm.count_eq]
    exact List.count_eq_one_of_mem (hsound.nodup.of_map _) hs
  · -- no symbol has a class the table lacks
    refine List.filter_eq_nil_iff.2 fun s hs hsc => hc ((hmem c).2 ⟨s, hs, ?_⟩)
    simpa using hsc

open Utf8 in
/-- Two symbols of two classes, added against key order: the table lists the class `a` first, and
its views agree. -/
theorem views_agree_two_classes :
    (Builder.run {} [.add ⟨.int, [105, 100], [98], [49]⟩, .add ⟨.int, [97], [97], [50]⟩]).1.build =
        .ok ⟨Bytes.ofString "R", [], [⟨.int, [97], [97], [50]⟩, ⟨.int, [105, 100], [98], [49]⟩]⟩ ∧
      Table.classes ⟨Bytes.ofString "R", [], [⟨.int, [97], [97], [50]⟩, ⟨.int, [105, 100], [98], [49]⟩]⟩ =
        [[97], [105, 100]] ∧
      Table.lookup? ⟨Bytes.ofString "R", [], [⟨.int, [97], [97], [50]⟩, ⟨.int, [105, 100], [98], [49]⟩]⟩
        [105, 100] [98] = some ⟨.int, [105, 100], [98], [49]⟩ := by
  have ht : (Builder.run {} [.add ⟨.int, [105, 100], [98], [49]⟩, .add ⟨.int, [97], [97], [50]⟩]).1.build =
      .ok ⟨Bytes.ofString "R", [], [⟨.int, [97], [97], [50]⟩, ⟨.int, [105, 100], [98], [49]⟩]⟩ := by
    simp [Builder.run, Builder.call, Builder.add, Symbol.flaw?, Builder.build, isToken,
      Bytes.hasSpace, segments_cons_of_lt, Segment.isSpace, Unicode.isSpace, trimSpace_eq,
      Bytes.contains, Bytes.startsWith, ValueType.isValid, ValueType.int, defaultTableName,
      List.rdropWhile_singleton]
    exact List.mergeSort_of_pairwise (by decide)
  have h := views_agree _ ht
  exact ⟨ht, by decide, (h.2.2.2.2 _ _ _).2 ⟨by simp, rfl, rfl⟩⟩

end Table

end ResourceSymbols
