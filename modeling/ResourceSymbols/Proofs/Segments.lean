import Mathlib.Tactic.IntervalCases
import ResourceSymbols.Unicode.Space

namespace ResourceSymbols.Utf8

@[simp] theorem segments_nil : segments [] = [] := by
  simp [segments]

@[simp] theorem flatMap_raw_segments (b : Bytes) : (segments b).flatMap Segment.raw = b := by
  rw [List.flatMap_def]
  exact flatten_segments b

theorem isTrail_iff (b : UInt8) : isTrail b = true ↔ 128 ≤ b.toNat ∧ b.toNat ≤ 191 := by
  simp [isTrail, UInt8.le_iff_toNat_le]

theorem lead_some_length {p : Bytes} {c n : Nat} (h : lead p = some (c, n)) :
    1 ≤ n ∧ n ≤ p.length := by
  match p with
  | [] => simp [lead] at h
  | [b0] | [b0, b1] | [b0, b1, b2] | b0 :: b1 :: b2 :: b3 :: rest =>
    simp only [lead] at h
    split_ifs at h <;> simp only [Option.some.injEq, Prod.mk.injEq] at h <;>
      simp <;> omega

theorem lead_append_of_some {p : Bytes} {c n : Nat} (h : lead p = some (c, n)) (z : Bytes) :
    lead (p ++ z) = some (c, n) := by
  match p with
  | [] => simp [lead] at h
  | [b0] | [b0, b1] | [b0, b1, b2] =>
    simp only [lead, List.cons_append, List.nil_append] at h ⊢
    split_ifs at h ⊢ <;> simp_all
  | b0 :: b1 :: b2 :: b3 :: rest =>
    simp only [lead, List.cons_append] at h ⊢
    split_ifs at h ⊢ <;> simp_all

theorem lead_take {q : Bytes} {c n : Nat} (h : lead q = some (c, n)) :
    lead (q.take n) = some (c, n) := by
  match q with
  | [] => simp [lead] at h
  | [b0] | [b0, b1] | [b0, b1, b2] | b0 :: b1 :: b2 :: b3 :: rest =>
    simp only [lead] at h
    split_ifs at h <;> simp only [Option.some.injEq, Prod.mk.injEq] at h <;>
      obtain ⟨rfl, rfl⟩ := h <;> simp [lead, *]

theorem lead_trail {q : Bytes} {c n : Nat} (h : lead q = some (c, n)) {k : Nat} (hk : 0 < k)
    (hn : k < n) : isTrail (q.getD k 0) = true := by
  match q with
  | [] => simp [lead] at h
  | [b0] | [b0, b1] | [b0, b1, b2] | b0 :: b1 :: b2 :: b3 :: rest =>
    simp only [lead] at h
    split_ifs at h <;> simp only [Option.some.injEq, Prod.mk.injEq] at h <;>
      obtain ⟨rfl, rfl⟩ := h <;> interval_cases k <;>
      simp_all [isTrail_iff, UInt8.le_iff_toNat_le] <;> omega

theorem lead_append {p z : Bytes} (hp : p ≠ []) (hz : ∀ b ∈ z.head?, isTrail b = false) :
    lead (p ++ z) = lead p := by
  cases hl : lead p with
  | some r => exact lead_append_of_some hl z
  | none =>
    cases hpz : lead (p ++ z) with
    | none => rfl
    | some r =>
      obtain ⟨c, n⟩ := r
      obtain ⟨hn1, hnz⟩ := lead_some_length hpz
      by_cases hn : n ≤ p.length
      · -- the sequence lies inside `p`, which then reads it as well
        have hin := lead_take hpz
        rw [List.take_append_of_le_length hn] at hin
        have hall := lead_append_of_some hin (p.drop n)
        rw [List.take_append_drop, hl] at hall
        cases hall
      · -- the sequence runs on into `z`, whose first byte is then a trail byte
        obtain ⟨b, z, rfl⟩ : ∃ b z', z = b :: z' := by
          cases z with
          | nil => simp at hnz; omega
          | cons b z => exact ⟨b, z, rfl⟩
        have ht : isTrail ((p ++ b :: z).getD p.length 0) = true :=
          lead_trail hpz (List.length_pos_iff.2 hp) (by omega)
        rw [List.getD_eq_getElem?_getD, List.getElem?_append_right (le_refl _)] at ht
        simp [hz b rfl] at ht

theorem segments_append {x y : Bytes} (hy : ∀ b ∈ y.head?, isTrail b = false) :
    segments (x ++ y) = segments x ++ segments y := by
  induction x using segments.induct with
  | case1 => simp
  | case2 b rest c n h ih =>
    have hl := lead_append_of_some h y
    have hlen := (lead_some_length h).2
    simp only [List.length_cons] at hlen
    rw [List.cons_append] at hl ⊢
    rw [segments, hl, segments, h]
    dsimp only
    rw [List.take_append_of_le_length (by omega), List.drop_append_of_le_length (by omega), ih,
      List.cons_append]
  | case3 b rest h ih =>
    have hl : lead (b :: rest ++ y) = lead (b :: rest) := lead_append (List.cons_ne_nil b rest) hy
    rw [List.cons_append] at hl ⊢
    rw [segments, hl, segments]
    split
    · rename_i c n h'
      exact absurd h' (h c n)
    · rw [ih, List.cons_append]

theorem isTrail_of_lt {b : UInt8} (hb : b < 128) : isTrail b = false := by
  have : b.toNat < 128 := by simpa [UInt8.lt_iff_toNat_lt] using hb
  simp [isTrail, UInt8.le_iff_toNat_le]
  omega

theorem segments_cons_of_lt {b : UInt8} (hb : b < 128) (y : Bytes) :
    segments (b :: y) = ⟨b.toNat, [b]⟩ :: segments y := by
  have hl : lead (b :: y) = some (b.toNat, 1) := by simp [lead, hb]
  rw [segments, hl]
  simp [hb]

theorem segments_append_cons {b : UInt8} (hb : b < 128) (x y : Bytes) :
    segments (x ++ b :: y) = segments x ++ ⟨b.toNat, [b]⟩ :: segments y := by
  rw [segments_append (by simp [isTrail_of_lt hb]), segments_cons_of_lt hb]

theorem mem_segments_of_lt {b : UInt8} (hb : b < 128) {x : Bytes} (hx : b ∈ x) :
    (⟨b.toNat, [b]⟩ : Segment) ∈ segments x := by
  obtain ⟨p, q, rfl⟩ := List.append_of_mem hx
  simp [segments_append_cons hb]

theorem segments_eq_cons {l : Bytes} {s : Segment} {t : List Segment} (h : segments l = s :: t) :
    ∃ m, l = s.raw ++ m ∧ segments m = t ∧
      ∀ w, w <+: m → segments (s.raw ++ w) = s :: segments w := by
  match l with
  | [] => simp at h
  | b :: rest =>
    rw [segments] at h
    split at h
    · rename_i c n hl
      simp only [List.cons.injEq] at h
      obtain ⟨rfl, rfl⟩ := h
      have hlen := (lead_some_length hl).2
      simp only [List.length_cons] at hlen
      refine ⟨rest.drop (n + 1), by simp, rfl, fun w hw => ?_⟩
      have hraw : lead (b :: rest.take (n + 1)) = some (c, n + 2) := by
        simpa using lead_take hl
      have hlw := lead_append_of_some hraw w
      rw [List.cons_append] at hlw ⊢
      rw [segments, hlw]
      dsimp only
      rw [List.take_append_of_le_length (by simp; omega),
        List.drop_append_of_le_length (by simp; omega)]
      simp [List.take_take]
    · rename_i hl
      simp only [List.cons.injEq] at h
      obtain ⟨rfl, rfl⟩ := h
      refine ⟨rest, rfl, rfl, fun w hw => ?_⟩
      obtain ⟨r, rfl⟩ := hw
      rw [List.singleton_append, segments]
      split
      · rename_i c n hw'
        have := lead_append_of_some hw' r
        rw [List.cons_append] at this
        exact absurd this (hl c n)
      · rfl

theorem segments_flatMap_of_append {l : Bytes} {A B : List Segment}
    (h : segments l = A ++ B) :
    segments (B.flatMap Segment.raw) = B ∧
      ∀ w, w <+: B.flatMap Segment.raw → segments (A.flatMap Segment.raw ++ w) = A ++ segments w := by
  induction A generalizing l with
  | nil =>
    refine ⟨?_, fun w _ => rfl⟩
    rw [List.nil_append] at h
    have := flatten_segments l
    rw [h, ← List.flatMap_def] at this
    rw [this, h]
  | cons s A ih =>
    obtain ⟨m, rfl, hm, hw⟩ := segments_eq_cons h
    simp only [List.append_eq] at hm
    obtain ⟨hB, hA⟩ := ih hm
    refine ⟨hB, fun w hwB => ?_⟩
    have hm' : m = A.flatMap Segment.raw ++ B.flatMap Segment.raw := by
      have := flatten_segments m
      rw [hm, List.map_append, List.flatten_append, ← List.flatMap_def,
        ← List.flatMap_def] at this
      exact this.symm
    rw [List.flatMap_cons, List.append_assoc, hw _ (by rw [hm']; exact (List.prefix_append_right_inj _).2 hwB), hA w hwB,
      List.cons_append]

theorem segments_flatMap_raw {l : Bytes} {A B : List Segment} (h : segments l = A ++ B) :
    segments (A.flatMap Segment.raw) = A := by
  simpa using (segments_flatMap_of_append h).2 [] (List.nil_prefix)

theorem segments_append_of_all_space {x : Bytes} (hx : ∀ s ∈ segments x, s.isSpace = true)
    (y : Bytes) : segments (x ++ y) = segments x ++ segments y := by
  induction x using segments.induct with
  | case1 => simp
  | case2 b rest c n h ih =>
    have hl := lead_append_of_some h y
    have hlen := (lead_some_length h).2
    simp only [List.length_cons] at hlen
    rw [segments, h] at hx
    simp only [List.mem_cons, forall_eq_or_imp] at hx
    rw [List.cons_append] at hl ⊢
    rw [segments, hl, segments, h]
    dsimp only
    rw [List.take_append_of_le_length (by omega), List.drop_append_of_le_length (by omega),
      ih hx.2, List.cons_append]
  | case3 b rest h ih =>
    rw [segments] at hx
    split at hx
    · rename_i c n h'
      exact absurd h' (h c n)
    · simp only [List.mem_cons, forall_eq_or_imp] at hx
      -- a lone byte read as white space is an ASCII byte
      have hb : b < 128 := by
        by_contra hb
        simp [hb, Segment.isSpace, Unicode.isSpace, replacement] at hx
      rw [List.cons_append, segments_cons_of_lt hb, segments_cons_of_lt hb, ih hx.2,
        List.cons_append]

theorem not_trail_of_space_head {y : Bytes} {s : Segment} (hs : (segments y).head? = some s)
    (hsp : s.isSpace = true) : ∀ b ∈ y.head?, isTrail b = false := by
  intro b hb
  match y, hb with
  | b :: rest, rfl =>
    by_contra ht
    rw [Bool.not_eq_false, isTrail_iff] at ht
    have h194 : b < 194 := by rw [UInt8.lt_iff_toNat_lt]; simp; omega
    have h128 : ¬ b < 128 := by rw [UInt8.lt_iff_toNat_lt]; simp; omega
    have hl : lead (b :: rest) = none := by simp [lead, h194, h128]
    rw [segments, hl] at hs
    simp only [List.head?_cons, Option.some.injEq] at hs
    subst hs
    simp [h128, Segment.isSpace, Unicode.isSpace, replacement] at hsp

end ResourceSymbols.Utf8
