import Mathlib.Data.List.DropRight
import ResourceSymbols.Proofs.Segments
import ResourceSymbols.Table.Text

namespace ResourceSymbols

open Utf8

namespace Bytes

/-- Some white space, at least one code point of it. -/
def Spaces (w : Bytes) : Prop := w ≠ [] ∧ w.isBlank = true

/-- Text that is empty or starts with white space: what may follow a field. -/
def SpaceHead (r : Bytes) : Prop := ∀ s ∈ (segments r).head?, s.isSpace = true

/-- Text that is not empty and has no white space at either end. -/
def Trimmed (v : Bytes) : Prop :=
  v ≠ [] ∧ (∀ s ∈ (segments v).head?, s.isSpace = false) ∧
    ∀ s ∈ (segments v).getLast?, s.isSpace = false

theorem isBlank_iff {w : Bytes} : w.isBlank = true ↔ ∀ s ∈ segments w, s.isSpace = true := by
  simp [isBlank]

theorem hasSpace_eq_false_iff {f : Bytes} :
    f.hasSpace = false ↔ ∀ s ∈ segments f, s.isSpace = false := by
  simp [hasSpace]

theorem isToken_iff {f : Bytes} : isToken f = true ↔ f ≠ [] ∧ f.hasSpace = false := by
  simp [isToken]

@[simp] theorem segments_eq_nil {b : Bytes} : segments b = [] ↔ b = [] := by
  constructor
  · intro h
    have := flatten_segments b
    rw [h] at this
    exact this.symm
  · rintro rfl
    exact segments_nil

theorem SpaceHead.of_isBlank {w : Bytes} (h : w.isBlank = true) : SpaceHead w :=
  fun s hs => isBlank_iff.1 h s (List.mem_of_mem_head? hs)

theorem Spaces.spaceHead_append {w : Bytes} (h : Spaces w) (r : Bytes) : SpaceHead (w ++ r) := by
  obtain ⟨s, t, hst⟩ := List.exists_cons_of_ne_nil (mt segments_eq_nil.1 h.1)
  intro s' hs'
  rw [segments_append_of_all_space (isBlank_iff.1 h.2), hst] at hs'
  simp only [List.cons_append, List.head?_cons, Option.mem_def, Option.some.injEq] at hs'
  subst hs'
  exact isBlank_iff.1 h.2 s (by simp [hst])

theorem Spaces.spaceHead_append_append {w : Bytes} (h : Spaces w) (x y : Bytes) :
    SpaceHead (w ++ x ++ y) := by
  rw [List.append_assoc]
  exact h.spaceHead_append _

theorem segments_append_spaceHead {r : Bytes} (hr : SpaceHead r) (x : Bytes) :
    segments (x ++ r) = segments x ++ segments r := by
  cases h : segments r with
  | nil =>
    rw [segments_eq_nil.1 h]
    simp
  | cons s t =>
    have hs : (segments r).head? = some s := by rw [h]; rfl
    rw [← h]
    exact segments_append (not_trail_of_space_head hs (hr s hs))

theorem segments_blank_append {w f r : Bytes} (hw : w.isBlank = true) (hr : SpaceHead r) :
    segments (w ++ f ++ r) = segments w ++ segments f ++ segments r := by
  rw [segments_append_spaceHead hr, segments_append_of_all_space (isBlank_iff.1 hw)]

end Bytes

theorem segments_nextField (b : Bytes) :
    ∃ W F R, segments b = W ++ (F ++ R) ∧
      nextField b = (F.flatMap Segment.raw, R.flatMap Segment.raw) ∧
      (∀ s ∈ W, s.isSpace = true) ∧ (∀ s ∈ F, s.isSpace = false) ∧
      (∀ s ∈ R.head?, s.isSpace = true) ∧ (F = [] → R = []) ∧
      (∀ s ∈ (segments b).head?, s.isSpace = true → W ≠ []) := by
  -- `T` is the text after the leading white space; it starts with no white space
  let T := (segments b).dropWhile Segment.isSpace
  have hT : ∀ s ∈ T.head?, s.isSpace = false := by
    intro s hs
    have h := List.head?_dropWhile_not Segment.isSpace (segments b)
    rw [Option.mem_def.1 hs] at h
    exact h
  have hR : ∀ s ∈ (T.dropWhile fun s => !s.isSpace).head?, s.isSpace = true := by
    intro s hs
    have h := List.head?_dropWhile_not (fun s => !s.isSpace) T
    rw [Option.mem_def.1 hs] at h
    simpa using h
  refine ⟨(segments b).takeWhile Segment.isSpace, T.takeWhile fun s => !s.isSpace,
    T.dropWhile fun s => !s.isSpace, ?_, rfl, fun s hs => List.mem_takeWhile_imp hs,
    fun s hs => by simpa using List.mem_takeWhile_imp hs, hR, fun hF => ?_, fun s hs hsp => ?_⟩
  · simp only [List.takeWhile_append_dropWhile, T]
  · -- with no field, the rest is all of `T`, which starts both with and without white space
    have hTR : T = T.dropWhile fun s => !s.isSpace := by
      have := @List.takeWhile_append_dropWhile _ (fun s => !s.isSpace) T
      rw [hF, List.nil_append] at this
      exact this.symm
    cases h : T.dropWhile fun s => !s.isSpace with
    | nil => rfl
    | cons s t =>
      have h1 := hR s (by simp [h])
      have h2 := hT s (by rw [hTR, h]; rfl)
      rw [h1] at h2
      cases h2
  · cases h : segments b with
    | nil => simp [h] at hs
    | cons s' t =>
      rw [h] at hs
      simp only [List.head?_cons, Option.mem_def, Option.some.injEq] at hs
      subst hs
      simp [hsp]

theorem nextField_sound (b : Bytes) :
    ∃ w, b = w ++ (nextField b).1 ++ (nextField b).2 ∧ w.isBlank = true ∧
      (nextField b).1.hasSpace = false ∧ Bytes.SpaceHead (nextField b).2 ∧
      ((nextField b).1 = [] → (nextField b).2 = []) ∧ (Bytes.SpaceHead b → b ≠ [] → w ≠ []) := by
  obtain ⟨W, F, R, hb, hnext, hW, hF, hR, hFR, hWne⟩ := segments_nextField b
  have hsegW : segments (W.flatMap Segment.raw) = W := segments_flatMap_raw hb
  have hsegFR := (segments_flatMap_of_append hb).1
  have hsegF : segments (F.flatMap Segment.raw) = F := segments_flatMap_raw hsegFR
  have hsegR : segments (R.flatMap Segment.raw) = R := (segments_flatMap_of_append hsegFR).1
  rw [hnext]
  refine ⟨W.flatMap Segment.raw, ?_, ?_, ?_, ?_, fun h => ?_, fun hsh hne hw => ?_⟩
  · calc b = (segments b).flatMap Segment.raw := (flatMap_raw_segments b).symm
      _ = _ := by simp [hb]
  · rw [Bytes.isBlank_iff, hsegW]
    exact hW
  · rw [Bytes.hasSpace_eq_false_iff, hsegF]
    exact hF
  · rw [Bytes.SpaceHead, hsegR]
    exact hR
  · dsimp only at h
    have hF0 : F = [] := by rw [← hsegF, h, segments_nil]
    simp [hFR hF0]
  · have hW0 : W = [] := by rw [← hsegW, hw, segments_nil]
    obtain ⟨s, t, hst⟩ := List.exists_cons_of_ne_nil (mt Bytes.segments_eq_nil.1 hne)
    exact hWne s (by simp [hst]) (hsh s (by simp [hst])) hW0

theorem nextField_of_segments {b : Bytes} {W F R : List Segment} (h : segments b = W ++ F ++ R)
    (hW : ∀ s ∈ W, s.isSpace = true) (hF : ∀ s ∈ F, s.isSpace = false) (hFR : F ≠ [] ∨ R = [])
    (hR : ∀ s ∈ R.head?, s.isSpace = true) :
    nextField b = (F.flatMap Segment.raw, R.flatMap Segment.raw) := by
  have hdrop : (F ++ R).dropWhile Segment.isSpace = F ++ R := by
    rcases hFR with hF' | rfl
    · obtain ⟨s, F', rfl⟩ := List.exists_cons_of_ne_nil hF'
      simp [hF s (by simp)]
    · cases F with
      | nil => simp
      | cons s F' => simp [hF s (by simp)]
  have htake : (F ++ R).takeWhile (fun s => !s.isSpace) = F := by
    rw [List.takeWhile_append_of_pos (by simpa using hF)]
    cases R with
    | nil => simp
    | cons s R' => simp [hR s (by simp)]
  have hrest : (F ++ R).dropWhile (fun s => !s.isSpace) = R := by
    rw [List.dropWhile_append_of_pos (by simpa using hF)]
    cases R with
    | nil => simp
    | cons s R' => simp [hR s (by simp)]
  simp only [nextField, h, List.append_assoc, List.dropWhile_append_of_pos hW, hdrop, htake,
    hrest]

theorem nextField_complete {w f r : Bytes} (hw : w.isBlank = true) (hf : isToken f = true)
    (hr : Bytes.SpaceHead r) : nextField (w ++ f ++ r) = (f, r) := by
  obtain ⟨hf0, hfs⟩ := Bytes.isToken_iff.1 hf
  rw [nextField_of_segments (Bytes.segments_blank_append hw hr) (Bytes.isBlank_iff.1 hw)
    (Bytes.hasSpace_eq_false_iff.1 hfs) (.inl (mt Bytes.segments_eq_nil.1 hf0)) hr,
    flatMap_raw_segments, flatMap_raw_segments]

theorem trimSpace_eq (b : Bytes) : b.trimSpace =
    (((segments b).dropWhile Segment.isSpace).rdropWhile Segment.isSpace).flatMap Segment.raw :=
  rfl

theorem trimSpace_sound {r : Bytes} (h : r.trimSpace ≠ []) :
    ∃ w w', r = w ++ r.trimSpace ++ w' ∧ w.isBlank = true ∧ w'.isBlank = true ∧
      Bytes.Trimmed r.trimSpace := by
  let D := (segments r).dropWhile Segment.isSpace
  let M := D.rdropWhile Segment.isSpace
  let W := (segments r).takeWhile Segment.isSpace
  let B := D.rtakeWhile Segment.isSpace
  have htrim : r.trimSpace = M.flatMap Segment.raw := rfl
  have hr : segments r = W ++ (M ++ B) := by
    simp only [W, M, B, D, List.rdropWhile_append_rtakeWhile, List.takeWhile_append_dropWhile]
  have hsegW : segments (W.flatMap Segment.raw) = W := segments_flatMap_raw hr
  have hsegMB := (segments_flatMap_of_append hr).1
  have hsegM : segments (M.flatMap Segment.raw) = M := segments_flatMap_raw hsegMB
  have hsegB : segments (B.flatMap Segment.raw) = B := (segments_flatMap_of_append hsegMB).1
  have hM : M ≠ [] := by
    intro hM
    rw [htrim, hM] at h
    exact h rfl
  refine ⟨W.flatMap Segment.raw, B.flatMap Segment.raw, ?_, ?_, ?_, h, ?_, ?_⟩
  · calc r = (segments r).flatMap Segment.raw := (flatMap_raw_segments r).symm
      _ = _ := by simp [hr, htrim]
  · rw [Bytes.isBlank_iff, hsegW]
    exact fun s hs => List.mem_takeWhile_imp hs
  · rw [Bytes.isBlank_iff, hsegB]
    exact fun s hs => List.mem_rtakeWhile_imp hs
  · -- the trimmed code points start where the leading white space ends
    rw [htrim, hsegM]
    intro s hs
    obtain ⟨t, ht⟩ := List.rdropWhile_prefix Segment.isSpace D
    have hD : D.head? = some s := by
      rw [← ht, List.head?_append, Option.mem_def.1 hs]
      rfl
    have h := List.head?_dropWhile_not Segment.isSpace (segments r)
    rw [hD] at h
    exact h
  · rw [htrim, hsegM]
    intro s hs
    rw [List.getLast?_eq_some_getLast hM, Option.mem_def, Option.some.injEq] at hs
    subst hs
    simpa using List.rdropWhile_last_not Segment.isSpace D hM

theorem trimSpace_complete {w v w' : Bytes} (hw : w.isBlank = true) (hv : Bytes.Trimmed v)
    (hw' : w'.isBlank = true) : (w ++ v ++ w').trimSpace = v := by
  obtain ⟨hv0, hhead, hlast⟩ := hv
  obtain ⟨s, t, hst⟩ := List.exists_cons_of_ne_nil (mt Bytes.segments_eq_nil.1 hv0)
  have hseg : segments (w ++ v ++ w') = segments w ++ segments v ++ segments w' :=
    Bytes.segments_blank_append hw (Bytes.SpaceHead.of_isBlank hw')
  have hs : s.isSpace = false := hhead s (by simp [hst])
  have hdrop : (segments (w ++ v ++ w')).dropWhile Segment.isSpace = segments v ++ segments w' := by
    rw [hseg, List.append_assoc, List.dropWhile_append_of_pos (Bytes.isBlank_iff.1 hw), hst,
      List.cons_append, List.dropWhile_cons]
    simp [hs]
  have hrdrop : (segments v ++ segments w').rdropWhile Segment.isSpace = segments v := by
    have hw's : ∀ s ∈ (segments w').reverse, s.isSpace = true := by
      simpa using Bytes.isBlank_iff.1 hw'
    simp only [List.rdropWhile, List.reverse_append, List.dropWhile_append_of_pos hw's]
    refine List.rdropWhile_eq_self_iff.2 fun hne => ?_
    simpa using hlast _ (List.getLast?_eq_some_getLast hne)
  rw [trimSpace_eq, hdrop, hrdrop, flatMap_raw_segments]

/-- A line read as four fields: white space, then three fields each followed by white space, then a
value with no white space at either end, then white space. -/
inductive Fields : Bytes → Bytes → Bytes → Bytes → Bytes → Prop
  | mk {w₀ a w₁ b w₂ c w₃ v w₄ : Bytes} (h₀ : w₀.isBlank = true) (ha : isToken a = true)
      (h₁ : Bytes.Spaces w₁) (hb : isToken b = true) (h₂ : Bytes.Spaces w₂)
      (hc : isToken c = true) (h₃ : Bytes.Spaces w₃) (hv : Bytes.Trimmed v)
      (h₄ : w₄.isBlank = true) :
      Fields (w₀ ++ a ++ (w₁ ++ b ++ (w₂ ++ c ++ (w₃ ++ v ++ w₄)))) a b c v

theorem Fields.nextField {line a b c v : Bytes} (h : Fields line a b c v) :
    ∃ r₁ r₂ r₃, ResourceSymbols.nextField line = (a, r₁) ∧
      ResourceSymbols.nextField r₁ = (b, r₂) ∧ ResourceSymbols.nextField r₂ = (c, r₃) ∧
      r₃.trimSpace = v := by
  obtain ⟨h₀, ha, h₁, hb, h₂, hc, h₃, hv, h₄⟩ := h
  exact ⟨_, _, _, nextField_complete h₀ ha (h₁.spaceHead_append_append _ _),
    nextField_complete h₁.2 hb (h₂.spaceHead_append_append _ _),
    nextField_complete h₂.2 hc (h₃.spaceHead_append_append _ _), trimSpace_complete h₃.2 hv h₄⟩

theorem Fields.value_ne_nil {line a b c v : Bytes} (h : Fields line a b c v) : v ≠ [] := by
  obtain ⟨-, -, -, -, -, -, -, hv, -⟩ := h
  exact hv.1

theorem Fields.isBlank_eq_false {line a b c v : Bytes} (h : Fields line a b c v) :
    line.isBlank = false := by
  obtain ⟨h₀, ha, h₁, -, -, -, -, -, -⟩ := h
  obtain ⟨ha0, has⟩ := Bytes.isToken_iff.1 ha
  obtain ⟨s, t, hst⟩ := List.exists_cons_of_ne_nil (mt Bytes.segments_eq_nil.1 ha0)
  rw [Bool.eq_false_iff, ne_eq, Bytes.isBlank_iff,
    Bytes.segments_blank_append h₀ (h₁.spaceHead_append_append _ _)]
  intro hall
  have h1 := hall s (by simp [hst])
  rw [Bytes.hasSpace_eq_false_iff.1 has s (by simp [hst])] at h1
  cases h1

theorem fields_of_nextField {line a b c r₁ r₂ r₃ : Bytes} (h₁ : nextField line = (a, r₁))
    (h₂ : nextField r₁ = (b, r₂)) (h₃ : nextField r₂ = (c, r₃)) (hv : r₃.trimSpace ≠ []) :
    Fields line a b c r₃.trimSpace := by
  obtain ⟨w₀, e₀, hw₀, ha, hr₁, ha₁, -⟩ := nextField_sound line
  obtain ⟨w₁, e₁, hw₁, hb, hr₂, hb₂, hw₁ne⟩ := nextField_sound r₁
  obtain ⟨w₂, e₂, hw₂, hc, hr₃, hc₃, hw₂ne⟩ := nextField_sound r₂
  obtain ⟨w₃, w₄, e₃, hw₃, hw₄, hvt⟩ := trimSpace_sound hv
  simp only [h₁] at e₀ ha hr₁ ha₁
  simp only [h₂] at e₁ hb hr₂ hb₂
  simp only [h₃] at e₂ hc hr₃ hc₃
  generalize r₃.trimSpace = v at e₃ hvt hv ⊢
  -- the value is not empty, so neither is anything before it
  have hr₃0 : r₃ ≠ [] := by simp [e₃, hv]
  have hc0 : c ≠ [] := fun h => hr₃0 (hc₃ h)
  have hr₂0 : r₂ ≠ [] := by simp [e₂, hc0]
  have hb0 : b ≠ [] := fun h => hr₂0 (hb₂ h)
  have hr₁0 : r₁ ≠ [] := by simp [e₁, hb0]
  have ha0 : a ≠ [] := fun h => hr₁0 (ha₁ h)
  -- the rest after the third field starts with white space, which the value does not
  have hw₃ne : w₃ ≠ [] := by
    rintro rfl
    obtain ⟨s, t, hst⟩ := List.exists_cons_of_ne_nil (mt Bytes.segments_eq_nil.1 hv)
    have hseg : segments r₃ = segments v ++ segments w₄ := by
      rw [e₃, List.nil_append]
      exact Bytes.segments_append_spaceHead (Bytes.SpaceHead.of_isBlank hw₄) v
    have h1 := hr₃ s (by rw [hseg, hst]; rfl)
    rw [hvt.2.1 s (by rw [hst]; rfl)] at h1
    cases h1
  subst e₃ e₂ e₁ e₀
  exact .mk hw₀ (Bytes.isToken_iff.2 ⟨ha0, ha⟩) ⟨hw₁ne hr₁ hr₁0, hw₁⟩
    (Bytes.isToken_iff.2 ⟨hb0, hb⟩) ⟨hw₂ne hr₂ hr₂0, hw₂⟩ (Bytes.isToken_iff.2 ⟨hc0, hc⟩)
    ⟨hw₃ne, hw₃⟩ hvt hw₄

theorem fields_iff_of_nextField {line a b c r₁ r₂ r₃ : Bytes} (h₁ : nextField line = (a, r₁))
    (h₂ : nextField r₁ = (b, r₂)) (h₃ : nextField r₂ = (c, r₃)) {a' b' c' v' : Bytes} :
    Fields line a' b' c' v' ↔ a' = a ∧ b' = b ∧ c' = c ∧ v' = r₃.trimSpace ∧ r₃.trimSpace ≠ [] := by
  constructor
  · intro h
    have hv0 := h.value_ne_nil
    obtain ⟨r₁', r₂', r₃', e₁, e₂, e₃, hv⟩ := h.nextField
    rw [h₁, Prod.mk.injEq] at e₁
    obtain ⟨rfl, rfl⟩ := e₁
    rw [h₂, Prod.mk.injEq] at e₂
    obtain ⟨rfl, rfl⟩ := e₂
    rw [h₃, Prod.mk.injEq] at e₃
    obtain ⟨rfl, rfl⟩ := e₃
    exact ⟨rfl, rfl, rfl, hv.symm, hv ▸ hv0⟩
  · rintro ⟨rfl, rfl, rfl, rfl, hv⟩
    exact fields_of_nextField h₁ h₂ h₃ hv

end ResourceSymbols
