import ResourceSymbols.Proofs.RoundTrip
import ResourceSymbols.Archive.Walk
import ResourceSymbols.Files.Replace

namespace ResourceSymbols

theorem toList_loop (bs : ByteArray) (i : Nat) (r : List UInt8) :
    ByteArray.toList.loop bs i r = r.reverse ++ bs.data.toList.drop i := by
  induction i, r using ByteArray.toList.loop.induct bs with
  | case1 i r hi ih =>
    rw [ByteArray.toList.loop, if_pos hi, ih]
    simp [List.drop_eq_getElem_cons (show i < bs.data.toList.length by simpa using hi)]
    simp [ByteArray.get!, hi]
  | case2 i r hi =>
    rw [ByteArray.toList.loop, if_neg hi]
    simp only [List.drop_eq_nil_of_le (show bs.data.toList.length ≤ i by simpa using hi),
      List.append_nil]

namespace Bytes

theorem mem_ofNat {n : Nat} {b : UInt8} (h : b ∈ ofNat n) : 48 ≤ b.toNat ∧ b.toNat ≤ 57 := by
  simp only [ofNat, ofString, ByteArray.toList, toList_loop, List.reverse_nil, List.drop_zero,
    List.nil_append, String.toUTF8_eq_toByteArray, Nat.toString_eq_repr,
    Nat.repr_eq_ofList_toDigits, String.toByteArray_ofList, List.utf8Encode,
    List.toList_data_toByteArray, List.mem_flatMap] at h
  obtain ⟨c, hc, hb⟩ := h
  have hd := Nat.isDigit_of_mem_toDigits (by decide) (by decide) hc
  have hv : 48 ≤ c.val.toNat ∧ c.val.toNat ≤ 57 := by
    simpa [Char.isDigit, UInt32.le_iff_toNat_le] using hd
  have h1 : c.utf8Size = 1 := by
    rw [Char.utf8Size_eq_one_iff, UInt32.le_iff_toNat_le]
    simp only [UInt32.reduceToNat]
    omega
  rw [String.utf8EncodeChar_eq_singleton h1, List.mem_singleton] at hb
  subst hb
  rw [UInt32.toNat_toUInt8]
  omega

theorem splitOn_of_not_mem {b : Bytes} {sep : UInt8} (h : sep ∉ b) : splitOn b sep = [b] := by
  induction b with
  | nil => rfl
  | cons x b ih =>
    have hx : (x == sep) = false := by
      simpa using fun e : x = sep => h (e ▸ List.mem_cons_self)
    rw [splitOn, ih (fun h' => h (List.mem_cons_of_mem _ h'))]
    simp [hx]

theorem splitOn_append_sep (x y : Bytes) (sep : UInt8) :
    splitOn (x ++ sep :: y) sep = splitOn x sep ++ splitOn y sep := by
  induction x with
  | nil =>
    obtain ⟨f, m, hfm⟩ := List.exists_cons_of_ne_nil (splitOn_ne_nil y sep)
    simp [splitOn, hfm]
  | cons a x ih =>
    obtain ⟨f, m, hfm⟩ := List.exists_cons_of_ne_nil (splitOn_ne_nil x sep)
    have hl : splitOn (a :: (x ++ sep :: y)) sep =
        if a == sep then [] :: f :: (m ++ splitOn y sep) else (a :: f) :: (m ++ splitOn y sep) := by
      rw [splitOn, ih, hfm, List.cons_append]
    have hr : splitOn (a :: x) sep = if a == sep then [] :: f :: m else (a :: f) :: m := by
      rw [splitOn, hfm]
    rw [List.cons_append, hl, hr]
    split <;> simp

theorem subset_of_mem_splitOn {b piece : Bytes} {sep : UInt8} (h : piece ∈ splitOn b sep) :
    sep ∉ piece ∧ ∀ x ∈ piece, x ∈ b := by
  induction b generalizing piece with
  | nil =>
    simp only [splitOn, List.mem_singleton] at h
    simp [h]
  | cons x b ih =>
    obtain ⟨f, m, hfm⟩ := List.exists_cons_of_ne_nil (splitOn_ne_nil b sep)
    have hf := ih (show f ∈ splitOn b sep by rw [hfm]; exact List.mem_cons_self)
    have hm : ∀ p ∈ m, sep ∉ p ∧ ∀ y ∈ p, y ∈ b :=
      fun p hp => ih (by rw [hfm]; exact List.mem_cons_of_mem _ hp)
    rw [splitOn, hfm] at h
    by_cases hx : x = sep
    · simp only [hx, beq_self_eq_true, if_true, List.mem_cons] at h
      rcases h with rfl | rfl | h
      · simp
      · exact ⟨hf.1, fun y hy => List.mem_cons_of_mem _ (hf.2 y hy)⟩
      · exact ⟨(hm _ h).1, fun y hy => List.mem_cons_of_mem _ ((hm _ h).2 y hy)⟩
    · simp only [beq_iff_eq, hx, if_false, List.mem_cons] at h
      rcases h with rfl | h
      · refine ⟨by simp [Ne.symm hx, hf.1], fun y hy => ?_⟩
        rcases List.mem_cons.1 hy with rfl | hy
        · exact List.mem_cons_self
        · exact List.mem_cons_of_mem _ (hf.2 y hy)
      · exact ⟨(hm _ h).1, fun y hy => List.mem_cons_of_mem _ ((hm _ h).2 y hy)⟩

theorem splitOn_append_of_not_mem {l : Bytes} {sep : UInt8} (h : sep ∉ l) (r : Bytes) :
    ∃ first more, splitOn r sep = first :: more ∧ splitOn (l ++ r) sep = (l ++ first) :: more := by
  induction l with
  | nil =>
    obtain ⟨f, m, hfm⟩ := List.exists_cons_of_ne_nil (splitOn_ne_nil r sep)
    exact ⟨f, m, hfm, by simpa using hfm⟩
  | cons x l ih =>
    obtain ⟨f, m, hfm, hl⟩ := ih fun h' => h (List.mem_cons_of_mem _ h')
    have hx : (x == sep) = false := by
      simpa using fun e : x = sep => h (e ▸ List.mem_cons_self)
    refine ⟨f, m, hfm, ?_⟩
    rw [List.cons_append, splitOn, hl]
    simp [hx]

theorem splitOn_flatMap {g : UInt8 → Bytes} {sep : UInt8} (hsep : g sep = [sep])
    (hother : ∀ c, c ≠ sep → sep ∉ g c) (b : Bytes) :
    splitOn (b.flatMap g) sep = (splitOn b sep).map (·.flatMap g) := by
  induction b with
  | nil => rfl
  | cons c b ih =>
    obtain ⟨f, m, hfm⟩ := List.exists_cons_of_ne_nil (splitOn_ne_nil b sep)
    rw [List.flatMap_cons, splitOn, hfm]
    rw [hfm] at ih
    by_cases hc : c = sep
    · subst hc
      rw [hsep, List.singleton_append, splitOn, ih]
      simp
    · obtain ⟨f', m', hfm', hsplit⟩ := splitOn_append_of_not_mem (hother c hc) (b.flatMap g)
      rw [hsplit]
      rw [ih] at hfm'
      simp only [List.map_cons, List.cons.injEq] at hfm'
      obtain ⟨rfl, rfl⟩ := hfm'
      simp [hc]

theorem join_cons_cons (sep x y : Bytes) (rest : List Bytes) :
    join sep (x :: y :: rest) = x ++ sep ++ join sep (y :: rest) := rfl

theorem join_append_single (sep : Bytes) {ks : List Bytes} (hks : ks ≠ []) (k : Bytes) :
    join sep (ks ++ [k]) = join sep ks ++ sep ++ k := by
  induction ks with
  | nil => exact absurd rfl hks
  | cons x ks ih =>
    cases ks with
    | nil => rfl
    | cons y ks =>
      rw [List.cons_append, List.cons_append, join_cons_cons, ← List.cons_append,
        ih (List.cons_ne_nil _ _), join_cons_cons]
      simp

end Bytes

namespace Path

/-! ### Resolving `..` -/

def resolveStep (rooted : Bool) (acc : List Bytes) (e : Bytes) : List Bytes :=
  if e == [46, 46] then
    match acc with
    | top :: below => if top == [46, 46] then e :: acc else below
    | [] => if rooted then [] else [e]
  else e :: acc

theorem resolve_eq_foldl (rooted : Bool) (acc xs : List Bytes) :
    resolve rooted acc xs = xs.foldl (resolveStep rooted) acc := by
  induction xs generalizing acc with
  | nil => rfl
  | cons e xs ih =>
    rw [List.foldl_cons]
    rcases acc with _ | ⟨top, below⟩ <;> by_cases he : e = [46, 46]
    · cases rooted <;> simp [resolve, resolveStep, he, ih]
    · simp [resolve, resolveStep, he, ih]
    · by_cases ht : top = [46, 46] <;> simp [resolve, resolveStep, he, ht, ih]
    · simp [resolve, resolveStep, he, ih]

theorem resolve_of_descends {xs : List Bytes} (h : [46, 46] ∉ xs) (rooted : Bool) (acc : List Bytes) :
    resolve rooted acc xs = xs.reverse ++ acc := by
  induction xs generalizing acc with
  | nil => rfl
  | cons e xs ih =>
    have he : e ≠ [46, 46] := fun he => h (he ▸ List.mem_cons_self)
    rw [resolve_eq_foldl, List.foldl_cons, ← resolve_eq_foldl,
      show resolveStep rooted acc e = e :: acc by simp [resolveStep, he],
      ih (fun h' => h (List.mem_cons_of_mem _ h'))]
    simp

theorem mem_resolveStep {rooted : Bool} {acc : List Bytes} {e k : Bytes}
    (h : k ∈ resolveStep rooted acc e) : k ∈ acc ∨ k = e := by
  unfold resolveStep at h
  split at h
  · split at h
    · split at h
      · exact (List.mem_cons.1 h).symm
      · exact .inl (List.mem_cons_of_mem _ h)
    · split at h
      · simp at h
      · exact .inr (List.mem_singleton.1 h)
  · exact (List.mem_cons.1 h).symm

theorem mem_resolve {rooted : Bool} {acc xs : List Bytes} {k : Bytes}
    (h : k ∈ resolve rooted acc xs) : k ∈ acc ∨ k ∈ xs := by
  induction xs generalizing acc with
  | nil => exact .inl h
  | cons e xs ih =>
    rw [resolve_eq_foldl, List.foldl_cons, ← resolve_eq_foldl] at h
    rcases ih h with h | h
    · rcases mem_resolveStep h with h | rfl
      · exact .inl h
      · exact .inr List.mem_cons_self
    · exact .inr (List.mem_cons_of_mem _ h)

theorem dotdot_not_mem_resolve {acc xs : List Bytes} (h : [46, 46] ∉ acc) :
    [46, 46] ∉ resolve true acc xs := by
  induction xs generalizing acc with
  | nil => exact h
  | cons e xs ih =>
    rw [resolve_eq_foldl, List.foldl_cons, ← resolve_eq_foldl]
    refine ih ?_
    unfold resolveStep
    split
    · rename_i he
      split
      · rename_i top below
        have ht : top ≠ [46, 46] := fun ht => h (ht ▸ List.mem_cons_self)
        simpa [ht] using fun hb => h (List.mem_cons_of_mem _ hb)
      · simp
    · rename_i he
      have he' : e ≠ [46, 46] := by simpa using he
      simp only [List.mem_cons, not_or]
      exact ⟨fun h' => he' h'.symm, h⟩

/-! ### Elements -/

theorem mem_elements {p k : Bytes} (h : k ∈ elements p) : k ≠ [] ∧ slash ∉ k ∧ k ≠ [46] := by
  simp only [elements, List.mem_filter, Bool.and_eq_true, Bool.not_eq_true', List.isEmpty_eq_false_iff,
    bne_iff_ne, ne_eq] at h
  exact ⟨h.2.1, (Bytes.subset_of_mem_splitOn h.1).1, h.2.2⟩

@[simp] theorem elements_nil : elements [] = [] := rfl

theorem elements_append_sep (x y : Bytes) : elements (x ++ slash :: y) = elements x ++ elements y := by
  simp only [elements, Bytes.splitOn_append_sep, List.filter_append]

theorem elements_of_element {k : Bytes} (hk : k ≠ [] ∧ slash ∉ k ∧ k ≠ [46]) : elements k = [k] := by
  simp [elements, Bytes.splitOn_of_not_mem hk.2.1, hk.1, hk.2.2]

theorem elements_join (qs : List Bytes) : elements (Bytes.join [slash] qs) = qs.flatMap elements := by
  induction qs with
  | nil => rfl
  | cons q qs ih =>
    cases qs with
    | nil => simp [Bytes.join]
    | cons q' qs =>
      rw [Bytes.join_cons_cons, List.append_assoc, List.singleton_append, elements_append_sep, ih]
      simp only [List.flatMap_cons]

theorem elements_join_elements {ks : List Bytes} (h : ∀ k ∈ ks, k ≠ [] ∧ slash ∉ k ∧ k ≠ [46]) :
    elements (Bytes.join [slash] ks) = ks := by
  rw [elements_join, List.flatMap_congr (fun k hk => elements_of_element (h k hk))]
  simp

/-! ### Cleaning -/

theorem elements_resolve {p k : Bytes} {rooted : Bool} (h : k ∈ (resolve rooted [] (elements p)).reverse) :
    k ≠ [] ∧ slash ∉ k ∧ k ≠ [46] := by
  rcases mem_resolve (List.mem_reverse.1 h) with h | h
  · simp at h
  · exact mem_elements h

theorem elements_clean (p : Bytes) : elements (clean p) = (resolve (isAbs p) [] (elements p)).reverse := by
  have hks := fun k => @elements_resolve p k (isAbs p)
  have hj := elements_join_elements hks
  unfold clean
  dsimp only
  split
  · rw [← List.nil_append (slash :: _), elements_append_sep, elements_nil, List.nil_append, hj]
  · split
    · rename_i hb
      rw [List.isEmpty_iff.1 hb, elements_nil] at hj
      rw [← hj]
      rfl
    · exact hj

theorem isAbs_clean (p : Bytes) : isAbs (clean p) = isAbs p := by
  have hks := fun k => @elements_resolve p k (isAbs p)
  unfold clean
  dsimp only
  generalize (resolve (isAbs p) [] (elements p)).reverse = ks at hks
  cases isAbs p with
  | true => simp [isAbs]
  | false =>
    simp only [Bool.false_eq_true, if_false]
    split
    · simp [isAbs, slash]
    · rename_i hb
      -- the first element is not empty and holds no slash
      obtain ⟨k, ks, rfl⟩ : ∃ k ks', ks = k :: ks' :=
        List.exists_cons_of_ne_nil (fun h => hb (by simp [h, Bytes.join]))
      obtain ⟨hk0, hks0, -⟩ := hks k List.mem_cons_self
      obtain ⟨x, k, rfl⟩ := List.exists_cons_of_ne_nil hk0
      have hx : x ≠ slash := fun hx => hks0 (hx ▸ List.mem_cons_self)
      cases ks with
      | nil => simp [Bytes.join, isAbs, hx]
      | cons k' ks => simp [Bytes.join_cons_cons, isAbs, hx]

theorem clean_ne_nil (p : Bytes) : clean p ≠ [] := by
  unfold clean
  dsimp only
  split
  · simp
  · split
    · simp
    · rename_i hb
      simpa using hb

/-! ### Cleaning twice -/

/-- What resolving leaves (newest first): names, then the `..` that climbed above the start, none
of them at the root. -/
def Settled (rooted : Bool) (acc : List Bytes) : Prop :=
  ∃ ns k, acc = ns ++ List.replicate k [46, 46] ∧ [46, 46] ∉ ns ∧ (rooted = true → k = 0)

theorem settled_nil (rooted : Bool) : Settled rooted [] := ⟨[], 0, rfl, by simp, fun _ => rfl⟩

theorem Settled.resolveStep {rooted : Bool} {acc : List Bytes} (h : Settled rooted acc) (e : Bytes) :
    Settled rooted (resolveStep rooted acc e) := by
  obtain ⟨ns, k, rfl, hns, hk⟩ := h
  by_cases he : e = [46, 46]
  · subst he
    cases ns with
    | cons top below =>
      have htop : top ≠ [46, 46] := fun ht => hns (ht ▸ List.mem_cons_self)
      refine ⟨below, k, by simp [Path.resolveStep, htop], fun hb => hns (List.mem_cons_of_mem _ hb), hk⟩
    | nil =>
      cases k with
      | zero =>
        cases rooted with
        | true => exact ⟨[], 0, by simp [Path.resolveStep], by simp, fun _ => rfl⟩
        | false => exact ⟨[], 1, by simp [Path.resolveStep], by simp, by simp⟩
      | succ k =>
        -- a `..` on top of `..`: only possible away from the root
        have hr : rooted = false := by cases rooted <;> simp_all
        refine ⟨[], k + 2, ?_, by simp, by simp [hr]⟩
        simp [Path.resolveStep, List.replicate_succ]
  · refine ⟨e :: ns, k, by simp [Path.resolveStep, he], ?_, hk⟩
    simp only [List.mem_cons, not_or]
    exact ⟨fun h' => he h'.symm, hns⟩

theorem settled_resolve (rooted : Bool) (xs : List Bytes) : Settled rooted (resolve rooted [] xs) := by
  rw [resolve_eq_foldl]
  -- the invariant is carried one element at a time
  suffices ∀ acc, Settled rooted acc → Settled rooted (xs.foldl (Path.resolveStep rooted) acc) from
    this [] (settled_nil rooted)
  induction xs with
  | nil => exact fun _ h => h
  | cons e xs ih => exact fun acc h => ih _ (h.resolveStep e)

theorem resolve_replicate_dotdot (j k : Nat) :
    resolve false (List.replicate j [46, 46]) (List.replicate k [46, 46]) = List.replicate (j + k) [46, 46] := by
  induction k generalizing j with
  | zero => rfl
  | succ k ih =>
    rw [List.replicate_succ, resolve_eq_foldl, List.foldl_cons, ← resolve_eq_foldl]
    have hstep : Path.resolveStep false (List.replicate j [46, 46]) [46, 46] = List.replicate (j + 1) [46, 46] := by
      cases j <;> simp [Path.resolveStep, List.replicate_succ]
    rw [hstep, ih]
    congr 1
    omega

theorem Settled.resolve_reverse {rooted : Bool} {acc : List Bytes} (h : Settled rooted acc) :
    resolve rooted [] acc.reverse = acc := by
  obtain ⟨ns, k, rfl, hns, hk⟩ := h
  have hrev : [46, 46] ∉ ns.reverse := by simpa using hns
  rw [List.reverse_append, List.reverse_replicate, resolve_eq_foldl, List.foldl_append,
    ← resolve_eq_foldl, ← resolve_eq_foldl]
  have hdots : resolve rooted [] (List.replicate k [46, 46]) = List.replicate k [46, 46] := by
    cases rooted with
    | true => simp [hk rfl, resolve]
    | false => simpa using resolve_replicate_dotdot 0 k
  rw [hdots, resolve_of_descends hrev, List.reverse_reverse]

theorem clean_eq_clean {p q : Bytes} (habs : isAbs q = isAbs p)
    (hres : resolve (isAbs p) [] (elements q) = resolve (isAbs p) [] (elements p)) : clean q = clean p := by
  unfold clean
  dsimp only
  rw [habs, hres]

theorem clean_clean (p : Bytes) : clean (clean p) = clean p := by
  refine clean_eq_clean (isAbs_clean p) ?_
  rw [elements_clean, (settled_resolve _ _).resolve_reverse]

/-! ### Names and absolute paths -/

/-- A name one step below a directory: not empty, without a slash, and neither `.` nor `..`. -/
def IsName (n : Bytes) : Prop := n ≠ [] ∧ slash ∉ n ∧ n ≠ [46] ∧ n ≠ [46, 46]

theorem isName_of_two_lt {n : Bytes} (hlen : 2 < n.length) (hn : slash ∉ n) : IsName n := by
  refine ⟨?_, hn, ?_, ?_⟩
  all_goals
    rintro rfl
    simp at hlen

theorem IsName.elements_eq {k : Bytes} (h : IsName k) : elements k = [k] :=
  elements_of_element ⟨h.1, h.2.1, h.2.2.1⟩

theorem elements_join_names {ks : List Bytes} (h : ∀ k ∈ ks, IsName k) :
    elements (Bytes.join [slash] ks) = ks :=
  elements_join_elements fun k hk => ⟨(h k hk).1, (h k hk).2.1, (h k hk).2.2.1⟩

def rooted (ks : List Bytes) : Bytes := slash :: Bytes.join [slash] ks

theorem rooted_ne_nil (ks : List Bytes) : rooted ks ≠ [] := List.cons_ne_nil _ _

@[simp] theorem isAbs_rooted (ks : List Bytes) : isAbs (rooted ks) = true := by
  simp [isAbs, rooted]

theorem elements_rooted {ks : List Bytes} (h : ∀ k ∈ ks, IsName k) : elements (rooted ks) = ks := by
  rw [rooted, ← List.nil_append (slash :: _), elements_append_sep, elements_nil, List.nil_append,
    elements_join_names h]

theorem dotdot_not_mem_of_names {ks : List Bytes} (h : ∀ k ∈ ks, IsName k) : [46, 46] ∉ ks :=
  fun hk => (h _ hk).2.2.2 rfl

theorem clean_eq_rooted {p : Bytes} (hp : isAbs p = true) :
    clean p = rooted (elements (clean p)) ∧ ∀ k ∈ elements (clean p), IsName k := by
  refine ⟨?_, fun k hk => ?_⟩
  · rw [elements_clean, hp]
    simp [clean, hp, rooted]
  · have hr := elements_clean p
    rw [hp] at hr
    obtain ⟨h1, h2, h3⟩ := mem_elements hk
    refine ⟨h1, h2, h3, fun hd => ?_⟩
    rw [hr, hd, List.mem_reverse] at hk
    exact dotdot_not_mem_resolve (List.not_mem_nil) hk

theorem rooted_names_of_isAbs {p : Bytes} (hp : isAbs p = true) :
    ∃ ks, (∀ k ∈ ks, IsName k) ∧ clean p = rooted ks :=
  ⟨_, (clean_eq_rooted hp).2, (clean_eq_rooted hp).1⟩

/-- A path that never climbs: none of its elements is `..`. -/
def Descends (q : Bytes) : Prop := [46, 46] ∉ elements q

theorem clean_rooted_append_sep {ks : List Bytes} (hks : ∀ k ∈ ks, IsName k) {q : Bytes}
    (hq : Descends q) : clean (rooted ks ++ slash :: q) = rooted (ks ++ elements q) := by
  have habs : isAbs (rooted ks ++ slash :: q) = true := by simp [isAbs, rooted]
  have hno : [46, 46] ∉ ks ++ elements q := by
    simpa [List.mem_append] using ⟨dotdot_not_mem_of_names hks, hq⟩
  rw [(clean_eq_rooted habs).1, elements_clean, habs, elements_append_sep, elements_rooted hks,
    resolve_of_descends hno, List.append_nil, List.reverse_reverse]

theorem clean_rooted {ks : List Bytes} (hks : ∀ k ∈ ks, IsName k) : clean (rooted ks) = rooted ks := by
  rw [(clean_eq_rooted (isAbs_rooted ks)).1, elements_clean, isAbs_rooted, elements_rooted hks,
    resolve_of_descends (dotdot_not_mem_of_names hks), List.append_nil, List.reverse_reverse]

theorem join_pair {p q : Bytes} (hp : p ≠ []) (hq : q ≠ []) : join [p, q] = clean (p ++ slash :: q) := by
  simp [join, hp, hq, Bytes.join]

theorem join_pair_nil {p : Bytes} (hp : p ≠ []) : join [p, []] = clean p := by
  simp [join, hp, Bytes.join]

theorem join_rooted {ks : List Bytes} (hks : ∀ k ∈ ks, IsName k) {q : Bytes} (hq : Descends q) :
    join [rooted ks, q] = rooted (ks ++ elements q) := by
  by_cases hq0 : q = []
  · subst hq0
    rw [join_pair_nil (rooted_ne_nil ks), clean_rooted hks, elements_nil, List.append_nil]
  · rw [join_pair (rooted_ne_nil ks) hq0, clean_rooted_append_sep hks hq]

/-! ### Paths that never climb -/

theorem descends_nil : Descends [] := by simp [Descends]

theorem Descends.elements_clean {q : Bytes} (h : Descends q) : elements (clean q) = elements q := by
  rw [Path.elements_clean, resolve_of_descends h, List.append_nil, List.reverse_reverse]

theorem Descends.clean {q : Bytes} (h : Descends q) : Descends (clean q) := by
  unfold Descends
  rw [h.elements_clean]
  exact h

theorem isName_of_mem_elements {q k : Bytes} (hq : Descends q) (hk : k ∈ elements q) : IsName k :=
  ⟨(mem_elements hk).1, (mem_elements hk).2.1, (mem_elements hk).2.2, fun h => hq (h ▸ hk)⟩

theorem flatMap_elements_filter (qs : List Bytes) :
    (qs.filter fun e => !e.isEmpty).flatMap elements = qs.flatMap elements := by
  induction qs with
  | nil => rfl
  | cons q qs ih =>
    rcases eq_or_ne q [] with rfl | hq
    · simp [ih]
    · simp [hq, ih]

theorem elements_join_of_descends {qs : List Bytes} (h : ∀ q ∈ qs, Descends q) :
    elements (join qs) = qs.flatMap elements := by
  have hdrop := flatMap_elements_filter qs
  have hd : Descends (Bytes.join [slash] (qs.filter fun e => !e.isEmpty)) := by
    unfold Descends
    rw [elements_join, List.mem_flatMap]
    rintro ⟨q, hq, hd⟩
    exact h q (List.mem_filter.1 hq).1 hd
  unfold Path.join
  dsimp only
  split
  · rename_i he
    rw [elements_nil, ← hdrop, List.isEmpty_iff.1 he]
    rfl
  · rw [hd.elements_clean, elements_join, hdrop]

theorem Descends.join {qs : List Bytes} (h : ∀ q ∈ qs, Descends q) : Descends (join qs) := by
  unfold Descends
  rw [elements_join_of_descends h, List.mem_flatMap]
  rintro ⟨q, hq, hd⟩
  exact h q hq hd

theorem descends_of_not_mem {n : Bytes} (h : slash ∉ n) (hn : n ≠ [46, 46]) : Descends n := by
  unfold Descends elements
  rw [Bytes.splitOn_of_not_mem h]
  simp [Ne.symm hn]

theorem IsName.descends {n : Bytes} (h : IsName n) : Descends n := descends_of_not_mem h.2.1 h.2.2.2

theorem descends_of_isSafePath {n : Bytes} (h : Archive.isSafePath n = true) : Descends n := by
  simp only [Archive.isSafePath, Bool.and_eq_true, Bool.not_eq_true', List.any_eq_false,
    beq_iff_eq] at h
  intro hd
  exact h.2 _ (List.mem_filter.1 hd).1 rfl

theorem Descends.dropPrefix_slash {p : Bytes} (h : Descends p) : Descends (Bytes.dropPrefix p [slash]) := by
  unfold Bytes.dropPrefix
  split
  · rename_i hs
    obtain ⟨t, rfl⟩ : ∃ t, p = slash :: t := by
      rcases p with _ | ⟨x, t⟩
      · simp [Bytes.startsWith] at hs
      · simp only [Bytes.startsWith, List.length_singleton, List.take_succ_cons, List.take_zero,
          beq_iff_eq, List.cons.injEq, and_true] at hs
        exact ⟨t, by rw [hs]⟩
    unfold Descends at h ⊢
    rw [← List.nil_append (slash :: t), elements_append_sep, elements_nil, List.nil_append] at h
    simpa using h
  · exact h

/-! ### The directory and the last element -/

theorem split_spec (p : Bytes) :
    (split p).1 ++ (split p).2 = p ∧ slash ∉ (split p).2 ∧
      ((split p).1 = [] ∨ ∃ a, (split p).1 = a ++ [slash]) := by
  have hsum : List.takeWhile (· != slash) p.reverse ++ List.dropWhile (· != slash) p.reverse =
      p.reverse := List.takeWhile_append_dropWhile
  generalize hf : List.takeWhile (· != slash) p.reverse = f at hsum
  generalize hr : List.dropWhile (· != slash) p.reverse = r at hsum
  have hp : p = r.reverse ++ f.reverse := by
    rw [← List.reverse_append, hsum, List.reverse_reverse]
  have hfirst : p.take (p.length - f.length) = r.reverse := by
    rw [hp]
    simp
  refine ⟨?_, ?_, ?_⟩
  · simp only [split, hf, hfirst]
    exact hp.symm
  · simp only [split, hf, List.mem_reverse]
    intro hm
    rw [← hf] at hm
    simpa using List.mem_takeWhile_imp hm
  · simp only [split, hf, hfirst]
    rcases r with _ | ⟨y, r⟩
    · exact .inl rfl
    · have hy := @List.head_dropWhile_not _ (· != slash) p.reverse (by rw [hr]; simp)
      simp only [hr, List.head_cons, bne_eq_false_iff_eq] at hy
      exact .inr ⟨r.reverse, by rw [List.reverse_cons, hy]⟩

theorem split_append_sep {x k : Bytes} (hk : slash ∉ k) : split (x ++ slash :: k) = (x ++ [slash], k) := by
  have hall : k.reverse.takeWhile (· != slash) = k.reverse :=
    List.takeWhile_eq_self_iff.2 fun b hb => by
      simpa using fun e : b = slash => hk (List.mem_reverse.1 (e ▸ hb))
  have htw : List.takeWhile (· != slash) (x ++ slash :: k).reverse = k.reverse := by
    rw [List.reverse_append, List.reverse_cons, List.append_assoc, List.singleton_append,
      List.takeWhile_append, hall, if_pos rfl, List.takeWhile_cons_of_neg (by simp), List.append_nil]
  simp only [split, htw, List.reverse_reverse, Prod.mk.injEq, and_true]
  rw [List.length_reverse, show (x ++ slash :: k).length - k.length = (x ++ [slash]).length by simp; omega,
    show x ++ slash :: k = (x ++ [slash]) ++ k by simp, List.take_left]

theorem Descends.dir {q : Bytes} (h : Descends q) : Descends (dir q) := by
  obtain ⟨happ, -, hcase⟩ := split_spec q
  refine Descends.clean ?_
  rcases hcase with h1 | ⟨a, h1⟩
  · rw [h1]
    exact descends_nil
  · -- `q` is `a`, a slash and the rest, so the first part has the elements of `a`
    have hq : q = a ++ slash :: (split q).2 := by
      rw [← List.singleton_append, ← List.append_assoc, ← h1, happ]
    have ha : elements (a ++ [slash]) = elements a := by
      rw [elements_append_sep, elements_nil, List.append_nil]
    unfold Descends at h ⊢
    rw [h1, ha]
    rw [hq, elements_append_sep] at h
    exact fun hm => h (List.mem_append_left _ hm)

theorem rooted_append_single {ks : List Bytes} (hks : ks ≠ []) (k : Bytes) :
    rooted (ks ++ [k]) = rooted ks ++ slash :: k := by
  simp [rooted, Bytes.join_append_single _ hks]

theorem dir_rooted_append {ks : List Bytes} (hks : ∀ k ∈ ks, IsName k) {k : Bytes} (hk : IsName k) :
    dir (rooted (ks ++ [k])) = rooted ks := by
  rcases eq_or_ne ks [] with rfl | hne
  · rw [dir, show rooted ([] ++ [k]) = [] ++ slash :: k from rfl, split_append_sep hk.2.1]
    exact @clean_rooted [] (by simp)
  · rw [dir, rooted_append_single hne, split_append_sep hk.2.1,
      clean_rooted_append_sep hks descends_nil, elements_nil, List.append_nil]

theorem base_append_sep {x k : Bytes} (hk : IsName k) : base (x ++ slash :: k) = k := by
  obtain ⟨y, k', hk'⟩ := List.exists_cons_of_ne_nil (List.reverse_ne_nil_iff.2 hk.1)
  have hy : y ≠ slash := fun e => hk.2.1 (List.mem_reverse.1 (by rw [hk', e]; exact List.mem_cons_self))
  have hrev : (x ++ slash :: k).reverse = y :: (k' ++ slash :: x.reverse) := by
    rw [List.reverse_append, List.reverse_cons, hk']
    simp
  have htrim : ((x ++ slash :: k).reverse.dropWhile (· == slash)).reverse = x ++ slash :: k := by
    rw [hrev, List.dropWhile_cons_of_neg (by simpa using hy), ← hrev, List.reverse_reverse]
  simp only [base, List.isEmpty_iff, List.append_eq_nil_iff, reduceCtorEq, and_false, if_false, htrim,
    split_append_sep hk.2.1]

theorem base_rooted_append (ks : List Bytes) {k : Bytes} (hk : IsName k) :
    base (rooted (ks ++ [k])) = k := by
  rcases eq_or_ne ks [] with rfl | hne
  · exact @base_append_sep [] k hk
  · rw [rooted_append_single hne]
    exact base_append_sep hk

/-! ### Within a directory -/

/-- `p` is `root` or lies below it once both are cleaned: the elements of the cleaned `p` are those
of the cleaned `root` and then more, none of them `..`. -/
def Within (root p : Bytes) : Prop :=
  isAbs p = isAbs root ∧ ∃ rest, [46, 46] ∉ rest ∧ elements (clean p) = elements (clean root) ++ rest

theorem within_rooted {ks ms : List Bytes} (hks : ∀ k ∈ ks, IsName k) (hms : ∀ m ∈ ms, IsName m) :
    Within (rooted ks) (rooted (ks ++ ms)) := by
  have hkms : ∀ k ∈ ks ++ ms, IsName k := List.forall_mem_append.2 ⟨hks, hms⟩
  refine ⟨by simp, ms, dotdot_not_mem_of_names hms, ?_⟩
  rw [clean_rooted hkms, clean_rooted hks, elements_rooted hkms, elements_rooted hks]

theorem abs_rooted {cwd : Bytes} (hcwd : isAbs cwd = true) (p : Bytes) :
    ∃ ks, (∀ k ∈ ks, IsName k) ∧ abs cwd p = rooted ks := by
  have hne : cwd ≠ [] := by
    rintro rfl
    simp [isAbs] at hcwd
  unfold abs
  split
  · exact rooted_names_of_isAbs ‹_›
  · rcases eq_or_ne p [] with rfl | hp
    · rw [join_pair_nil hne]
      exact rooted_names_of_isAbs hcwd
    · rw [join_pair hne hp]
      refine rooted_names_of_isAbs ?_
      obtain ⟨x, c, rfl⟩ := List.exists_cons_of_ne_nil hne
      simpa [isAbs] using hcwd

/-! ### Prefixes of a rooted path -/

theorem rooted_append_single_cases (ks : List Bytes) (k : Bytes) :
    ∃ x, (x = [] ∨ x = rooted ks) ∧ rooted (ks ++ [k]) = x ++ slash :: k ∧
      x ++ [slash] = (if ks = [] then [slash] else rooted ks ++ [slash]) := by
  rcases eq_or_ne ks [] with rfl | hne
  · exact ⟨[], .inl rfl, rfl, rfl⟩
  · exact ⟨rooted ks, .inr rfl, rooted_append_single hne k, by simp [hne]⟩

theorem dropSuffix_append_slash (x : Bytes) : Bytes.dropSuffix (x ++ [slash]) [slash] = x := by
  have he : Bytes.endsWith (x ++ [slash]) [slash] = true := by
    rw [Bytes.endsWith_singleton, List.getLast?_concat]
  simp [Bytes.dropSuffix, he]

theorem getLast?_append_sep {x k : Bytes} (hk : IsName k) : (x ++ slash :: k).getLast? ≠ some slash := by
  rcases List.eq_nil_or_concat' k with hk0 | ⟨k0, y, rfl⟩
  · exact absurd hk0 hk.1
  · rw [← List.cons_append, ← List.append_assoc, List.getLast?_concat]
    intro h
    cases h
    exact hk.2.1 (by simp)

theorem dropSuffix_rooted {ks : List Bytes} (hks : ∀ k ∈ ks, IsName k) :
    Bytes.dropSuffix (rooted ks) [slash] = if ks = [] then [] else rooted ks := by
  rcases List.eq_nil_or_concat' ks with rfl | ⟨ks', k, rfl⟩
  · exact dropSuffix_append_slash []
  · obtain ⟨x, -, hx, -⟩ := rooted_append_single_cases ks' k
    rw [if_neg (by simp), Bytes.dropSuffix_of_getLast?_ne (hx ▸ getLast?_append_sep (hks k (by simp)))]

theorem split_rooted {ks : List Bytes} (hks : ∀ k ∈ ks, IsName k) :
    ∃ ks', (∀ k ∈ ks', IsName k) ∧ ((split (rooted ks)).1 = rooted ks' ∨ (split (rooted ks)).1 = rooted ks' ++ [slash]) := by
  rcases List.eq_nil_or_concat' ks with rfl | ⟨ks', k, rfl⟩
  · exact ⟨[], by simp, .inl (by rw [show rooted [] = [] ++ slash :: [] from rfl, split_append_sep (by simp)])⟩
  · obtain ⟨x, -, hx, hxs⟩ := rooted_append_single_cases ks' k
    have hks' : ∀ k' ∈ ks', IsName k' := fun k' hk' => hks k' (by simp [hk'])
    rw [hx, split_append_sep (hks k (by simp)).2.1, hxs]
    split
    · exact ⟨[], by simp, .inl rfl⟩
    · exact ⟨ks', hks', .inr rfl⟩

theorem descends_base_rooted {ks : List Bytes} (hks : ∀ k ∈ ks, IsName k) : Descends (base (rooted ks)) := by
  rcases List.eq_nil_or_concat' ks with rfl | ⟨ks', k, rfl⟩
  · unfold Descends
    decide
  · rw [base_rooted_append ks' (hks k (by simp))]
    exact (hks k (by simp)).descends

theorem descends_base_nil : Descends (base []) := by
  unfold Descends
  decide

theorem dropPrefix_append (a t : Bytes) : Bytes.dropPrefix (a ++ t) a = t := by
  simp [Bytes.dropPrefix, Bytes.startsWith]

theorem dropPrefix_slash_of_head {t : Bytes} (h : t.head? ≠ some slash) : Bytes.dropPrefix t [slash] = t := by
  have hs : Bytes.startsWith t [slash] = false := by
    simpa [← Bool.not_eq_true, Bytes.startsWith_singleton] using h
  simp [Bytes.dropPrefix, hs]

theorem head?_join_names {ms : List Bytes} (hms : ∀ m ∈ ms, IsName m) :
    (Bytes.join [slash] ms).head? ≠ some slash := by
  rcases ms with _ | ⟨m, ms⟩
  · simp [Bytes.join]
  · obtain ⟨hm0, hms0, -⟩ := hms m List.mem_cons_self
    obtain ⟨b, m', rfl⟩ := List.exists_cons_of_ne_nil hm0
    have hb : b ≠ slash := fun e => hms0 (e ▸ List.mem_cons_self)
    cases ms with
    | nil => simpa [Bytes.join] using hb
    | cons m'' ms => simpa [Bytes.join_cons_cons] using hb

theorem flatMap_slash {ms : List Bytes} (hms : ms ≠ []) :
    ms.flatMap (slash :: ·) = slash :: Bytes.join [slash] ms := by
  induction ms with
  | nil => exact absurd rfl hms
  | cons m ms ih =>
    cases ms with
    | nil => simp [Bytes.join]
    | cons m' ms =>
      rw [List.flatMap_cons, ih (List.cons_ne_nil _ _), Bytes.join_cons_cons]
      simp

theorem rooted_append {ks : List Bytes} (hks : ks ≠ []) (ms : List Bytes) :
    rooted (ks ++ ms) = rooted ks ++ ms.flatMap (slash :: ·) := by
  induction ms generalizing ks with
  | nil => simp
  | cons m ms ih =>
    rw [← List.singleton_append, ← List.append_assoc, ih (by simp), rooted_append_single hks]
    simp

theorem dropPrefix_rooted {ks ms : List Bytes} (hms : ∀ m ∈ ms, IsName m) :
    Bytes.dropPrefix (Bytes.dropPrefix (rooted (ks ++ ms)) (rooted ks)) [slash] = Bytes.join [slash] ms := by
  rcases eq_or_ne ks [] with rfl | hks
  · rw [List.nil_append, show rooted [] = [slash] from rfl, rooted, show slash :: Bytes.join [slash] ms =
      [slash] ++ Bytes.join [slash] ms from rfl, dropPrefix_append, dropPrefix_slash_of_head (head?_join_names hms)]
  · rw [rooted_append hks, dropPrefix_append]
    rcases eq_or_ne ms [] with rfl | hne
    · rfl
    · rw [flatMap_slash hne, show slash :: Bytes.join [slash] ms = [slash] ++ Bytes.join [slash] ms from rfl,
        dropPrefix_append]

theorem descends_join_names {ms : List Bytes} (hms : ∀ m ∈ ms, IsName m) : Descends (Bytes.join [slash] ms) := by
  unfold Descends
  rw [elements_join_names hms]
  exact dotdot_not_mem_of_names hms

end Path

end ResourceSymbols
