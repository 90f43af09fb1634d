import ResourceSymbols.Proofs.ArchiveSource

namespace ResourceSymbols.Path

/-! ### Relative paths -/

theorem clean_of_relative {q : Bytes} (hrel : isAbs q = false) (hq : Descends q) :
    clean q = if elements q = [] then [46] else Bytes.join [slash] (elements q) := by
  have hjoin := elements_join_elements fun k (hk : k ∈ elements q) => mem_elements hk
  unfold clean
  simp only [hrel, resolve_of_descends hq, List.append_nil, List.reverse_reverse, Bool.false_eq_true,
    if_false]
  by_cases he : elements q = []
  · rw [if_pos he, he]
    rfl
  · -- the elements are not empty, so neither is their join
    have hne : Bytes.join [slash] (elements q) ≠ [] := fun h => he (by rw [← hjoin, h]; rfl)
    rw [if_neg he, if_neg (by simpa using hne)]

theorem isAbs_join_names {ks : List Bytes} (hks : ∀ k ∈ ks, IsName k) :
    isAbs (Bytes.join [slash] ks) = false := by
  simpa [isAbs] using head?_join_names hks

theorem base_of_isName {k : Bytes} (hk : IsName k) : base k = k := by
  obtain ⟨happ, -, hcase⟩ := split_spec k
  -- without a slash there is nothing before the last element
  have h1 : (split k).1 = [] := by
    rcases hcase with h | ⟨a, h⟩
    · exact h
    · exact absurd (happ ▸ List.mem_append_left _ (h ▸ List.mem_append_right a List.mem_cons_self)) hk.2.1
  have htrim : (k.reverse.dropWhile (· == slash)).reverse = k := by
    obtain ⟨y, k', hk'⟩ := List.exists_cons_of_ne_nil (List.reverse_ne_nil_iff.2 hk.1)
    have hy : y ≠ slash := fun e => hk.2.1 (List.mem_reverse.1 (by rw [hk', e]; exact List.mem_cons_self))
    rw [hk', List.dropWhile_cons_of_neg (by simpa using hy), ← hk', List.reverse_reverse]
  rw [h1, List.nil_append] at happ
  simp only [base, List.isEmpty_iff, hk.1, if_false, htrim, happ]

theorem base_join_names (ks : List Bytes) {k : Bytes} (hk : IsName k) :
    base (Bytes.join [slash] (ks ++ [k])) = k := by
  rcases eq_or_ne ks [] with rfl | hne
  · exact base_of_isName hk
  · rw [Bytes.join_append_single _ hne, List.append_assoc, List.singleton_append]
    exact base_append_sep hk

theorem dir_join_names {ks : List Bytes} (hks : ∀ x ∈ ks, IsName x) {k : Bytes} (hk : IsName k) :
    dir (Bytes.join [slash] (ks ++ [k])) = if ks = [] then [46] else Bytes.join [slash] ks := by
  rcases eq_or_ne ks [] with rfl | hne
  · -- a name alone lies in `.`
    rw [if_pos rfl, dir, show Bytes.join [slash] ([] ++ [k]) = [] ++ k from rfl]
    obtain ⟨happ, -, hcase⟩ := split_spec k
    rcases hcase with h | ⟨a, h⟩
    · rw [List.nil_append, h]
      rfl
    · exact absurd (happ ▸ List.mem_append_left _ (h ▸ List.mem_append_right a List.mem_cons_self)) hk.2.1
  · rw [if_neg hne, dir, Bytes.join_append_single _ hne, List.append_assoc, List.singleton_append,
      split_append_sep hk.2.1]
    dsimp only
    have hrel : isAbs (Bytes.join [slash] ks ++ [slash]) = false := by
      have hj := isAbs_join_names hks
      have hjne : Bytes.join [slash] ks ≠ [] := fun h => hne (by rw [← elements_join_names hks, h]; rfl)
      obtain ⟨b, t, hbt⟩ := List.exists_cons_of_ne_nil hjne
      rw [hbt] at hj ⊢
      simpa [isAbs] using hj
    have hel : elements (Bytes.join [slash] ks ++ [slash]) = ks := by
      rw [elements_append_sep, elements_nil, List.append_nil, elements_join_names hks]
    have hdesc : Descends (Bytes.join [slash] ks ++ [slash]) := by
      unfold Descends
      rw [hel]
      exact dotdot_not_mem_of_names hks
    rw [clean_of_relative hrel hdesc, hel, if_neg hne]

theorem elements_dirForm {ks : List Bytes} (hks : ∀ k ∈ ks, IsName k) :
    elements (if ks = [] then [46] else Bytes.join [slash] ks) = ks := by
  split
  · rename_i h
    rw [h]
    rfl
  · exact elements_join_names hks

end ResourceSymbols.Path

namespace ResourceSymbols.Archive

open Zip

section Visits

variable {m : Type → Type} [Monad m]

def visitUntil (visit : Member → Index → m (Option Failure)) (ix : Index) :
    List Member → m (Option Failure)
  | [] => pure none
  | mem :: rest => do
    match ← visit mem ix with
    | some f => pure (some f)
    | none => visitUntil visit ix rest

def visitStep (visit : Member → Index → m (Option Failure)) (ix : Index) (acc : Option Failure)
    (mem : Member) : m (Option Failure) :=
  match acc with
  | some f => pure (some f)
  | none => visit mem ix

variable {visit : Member → Index → m (Option Failure)} {archive : ByteArray} {ms : List Member}
  {pfx : Bytes} {accept : Option (Bytes → Bool)}

theorem walk_of_select_ok {visited : List Member} {ix : Index}
    (h : select archive ms pfx accept = .ok (visited, ix)) :
    walk archive ms pfx accept visit = visited.foldlM (visitStep visit ix) none := by
  unfold walk
  rw [h]
  rfl

theorem walk_of_select_error {f : Failure} (h : select archive ms pfx accept = .error f) :
    walk archive ms pfx accept visit = pure (some f) := by
  unfold walk
  rw [h]

variable [LawfulMonad m]

theorem foldlM_visitStep_some (ix : Index) (f : Failure) (xs : List Member) :
    xs.foldlM (visitStep visit ix) (some f) = pure (some f) := by
  induction xs with
  | nil => rfl
  | cons x xs ih => rw [List.foldlM_cons, visitStep, pure_bind, ih]

theorem foldlM_visitStep (ix : Index) (xs : List Member) :
    xs.foldlM (visitStep visit ix) none = visitUntil visit ix xs := by
  induction xs with
  | nil => rfl
  | cons x xs ih =>
    rw [List.foldlM_cons, visitStep, visitUntil]
    refine bind_congr fun r => ?_
    cases r with
    | none => exact ih
    | some f => exact foldlM_visitStep_some ix f xs

end Visits

theorem select_refuses_escaping {archive : ByteArray} {pfx : Bytes} {accept : Option (Bytes → Bool)}
    {pre post : List Member} {bad : Member} (hpre : ∀ e ∈ pre, isSafePath e.name = true)
    (hbad : isSafePath bad.name = false) :
    select archive (pre ++ bad :: post) pfx accept = .error (unsafePath bad.name) := by
  have hfind : (pre ++ bad :: post).find? (fun e => !isSafePath e.name) = some bad := by
    rw [List.find?_append, List.find?_eq_none.2 fun e he => by simp [hpre e he],
      List.find?_cons_of_pos (by simp [hbad])]
    rfl
  rw [select, hfind]

def selected (pfx : Bytes) (accept : Option (Bytes → Bool)) (e : Member) : Bool :=
  !e.isDir && decide (pfx <+: e.name) && accept.all (· e.name)

theorem select_of_safe {archive : ByteArray} {ms : List Member} {pfx : Bytes}
    {accept : Option (Bytes → Bool)} (hsafe : ∀ e ∈ ms, isSafePath e.name = true) :
    select archive ms pfx accept = .ok (ms.filter (selected pfx accept), ⟨archive, ms.filter (!·.isDir)⟩) := by
  have hnone : ms.find? (fun e => !isSafePath e.name) = none :=
    List.find?_eq_none.2 fun e he => by simp [hsafe e he]
  rw [select, hnone]
  simp only [Except.ok.injEq, Prod.mk.injEq, and_true]
  refine List.filter_congr fun e _ => ?_
  have hpfx : Bytes.startsWith e.name pfx = decide (pfx <+: e.name) := by
    rw [Bool.eq_iff_iff, Bytes.startsWith_iff, decide_eq_true_iff]
  cases accept <;> simp [selected, hpfx]

theorem find?_index (archive : ByteArray) (ms : List Member) (n : Bytes) :
    Index.find? ⟨archive, ms.filter (!·.isDir)⟩ n = (ms.filter fun e => !e.isDir && e.name == n).getLast? := by
  have hf : (ms.filter fun e => !e.isDir && e.name == n) = (ms.filter (!·.isDir)).filter (·.name == n) := by
    rw [List.filter_filter]
    exact List.filter_congr fun e _ => Bool.and_comm _ _
  rw [hf, Index.find?, ← List.head?_reverse, ← List.filter_reverse (p := fun e : Member => e.name == n),
    List.head?_filter]

/-- A walk refuses an archive with a name that could escape for the first such member, before any
visit. -/
theorem walk_spec {m : Type → Type} [Monad m] [LawfulMonad m] (archive : ByteArray) (ms : List Member)
    (pfx : Bytes) (accept : Option (Bytes → Bool)) (visit : Member → Index → m (Option Failure)) :
    (∀ pre bad post, ms = pre ++ bad :: post → (∀ e ∈ pre, isSafePath e.name = true) →
      isSafePath bad.name = false → walk archive ms pfx accept visit = pure (some (unsafePath bad.name))) ∧
    ((∀ e ∈ ms, isSafePath e.name = true) → ∃ ix : Index, ix.archive = archive ∧
      (∀ n, ix.find? n = (ms.filter fun e => !e.isDir && e.name == n).getLast?) ∧
      walk archive ms pfx accept visit = visitUntil visit ix (ms.filter (selected pfx accept))) := by
  constructor
  · rintro pre bad post rfl hpre hbad
    exact walk_of_select_error (select_refuses_escaping hpre hbad)
  · intro hsafe
    refine ⟨⟨archive, ms.filter (!·.isDir)⟩, rfl, find?_index archive ms, ?_⟩
    rw [walk_of_select_ok (select_of_safe hsafe), foldlM_visitStep]

/-- An archive holding `a/R.txt` and then `../a` is refused for `../a`; without it, the walk of the
archive visits `a/R.txt`. -/
theorem walk_spec_escaping_second :
    let ok : Member := ⟨[97, 47, 82], [], 0, 0, 0, 0, 0, 0, 0, 0, false⟩
    let bad : Member := ⟨[46, 46, 47, 97], [], 0, 0, 0, 0, 0, 0, 0, 0, false⟩
    let visit : Member → Index → Id (Option Failure) := fun _ _ => pure none
    isSafePath ok.name = true ∧ isSafePath bad.name = false ∧
      walk ByteArray.empty [ok, bad] [] none visit = pure (some (unsafePath bad.name)) ∧
      ∃ ix : Index, walk ByteArray.empty [ok] [] none visit = visitUntil visit ix [ok] := by
  intro ok bad visit
  have hok : isSafePath ok.name = true := by decide
  have hbad : isSafePath bad.name = false := by decide
  obtain ⟨hrefuse, hwalk⟩ := walk_spec ByteArray.empty [ok, bad] [] none visit
  obtain ⟨-, hwalk1⟩ := walk_spec ByteArray.empty [ok] [] none visit
  obtain ⟨ix, -, -, hix⟩ := hwalk1 (by simpa using hok)
  have hsel : selected [] none ok = true := by decide
  refine ⟨hok, hbad, hrefuse [ok] bad [] rfl (by simpa using hok) hbad, ix, ?_⟩
  rw [hix, List.filter_cons_of_pos hsel, List.filter_nil]

theorem isAbs_of_safe {n : Bytes} (h : isSafePath n = true) : Path.isAbs n = false := by
  simp only [isSafePath, Bool.and_eq_true, bne_iff_ne, ne_eq] at h
  simpa [Path.isAbs, Path.slash] using h.1.1

theorem isAbs_dir_of_safe {n : Bytes} (h : isSafePath n = true) : Path.isAbs (Path.dir n) = false := by
  have hn := isAbs_of_safe h
  obtain ⟨happ, -, -⟩ := Path.split_spec n
  rw [Path.dir, Path.isAbs_clean]
  -- the part before the last element starts where the name starts
  cases hs : (Path.split n).1 with
  | nil => rfl
  | cons b t =>
    rw [hs] at happ
    rw [← happ] at hn
    simpa [Path.isAbs] using hn

theorem dir_eq_of_safe {n : Bytes} (h : isSafePath n = true) :
    Path.dir n = if Path.elements (Path.dir n) = [] then [46] else Bytes.join [Path.slash] (Path.elements (Path.dir n)) := by
  have hdesc : Path.Descends (Path.dir n) := (Path.descends_of_isSafePath h).dir
  rw [← Path.clean_of_relative (isAbs_dir_of_safe h) hdesc, Path.dir, Path.clean_clean]

theorem eq_join_of_clean {g n : Bytes} (hgs : isSafePath g = true) (hclean : Path.clean g = g)
    (hn : Path.IsName n) (hbase : Path.base g = n) :
    g = Bytes.join [Path.slash] (Path.elements (Path.dir g) ++ [n]) := by
  have hgdesc := Path.descends_of_isSafePath hgs
  -- a clean safe name is its elements joined by slashes
  have hg := Path.clean_of_relative (isAbs_of_safe hgs) hgdesc
  rw [hclean] at hg
  have hgnames := fun x (hx : x ∈ Path.elements g) => Path.isName_of_mem_elements hgdesc hx
  rcases List.eq_nil_or_concat' (Path.elements g) with he | ⟨gs, k, hgk⟩
  · -- `.` has no name as its base
    rw [if_pos he] at hg
    rw [hg] at hbase
    exact absurd (hbase.symm.trans (by decide)) hn.2.2.1
  rw [if_neg (by simp [hgk]), hgk] at hg
  rw [hgk] at hgnames
  have hgs' : ∀ x ∈ gs, Path.IsName x := fun x hx => hgnames x (by simp [hx])
  have hk : Path.IsName k := hgnames k (by simp)
  have hkn : k = n := by rwa [hg, Path.base_join_names _ hk] at hbase
  -- its directory is the elements before the last one
  have hel : Path.elements (Path.dir g) = gs := by
    rw [hg, Path.dir_join_names hgs' hk, Path.elements_dirForm hgs']
  rw [hel, ← hkn]
  exact hg

theorem sibling?_eq_find? (ix : Index) {f : Member} (hf : isSafePath f.name = true) {n : Bytes}
    (hn : Path.IsName n) :
    ix.sibling? f n = ix.find? (Bytes.join [Path.slash] (Path.elements (Path.dir f.name) ++ [n])) := by
  have hes := fun x (hx : x ∈ Path.elements (Path.dir f.name)) =>
    Path.isName_of_mem_elements (Path.descends_of_isSafePath hf).dir hx
  have hd := dir_eq_of_safe hf
  unfold Index.sibling?
  dsimp only
  generalize Path.elements (Path.dir f.name) = es at hd hes ⊢
  rw [hd]
  by_cases he : es = []
  · subst he
    rfl
  · -- below a directory the lookup joins its path and the name, which cleaning keeps
    have hjne : Bytes.join [Path.slash] es ≠ [] := fun h => he (by rw [← Path.elements_join_names hes, h]; rfl)
    have hdot : (Bytes.join [Path.slash] es == [46]) = false := by
      rw [beq_eq_false_iff_ne]
      intro h
      exact he (by rw [← Path.elements_join_names hes, h]; rfl)
    have hall : ∀ x ∈ es ++ [n], Path.IsName x := List.forall_mem_append.2 ⟨hes, by simpa using hn⟩
    have hdesc : Path.Descends (Bytes.join [Path.slash] (es ++ [n])) := by
      unfold Path.Descends
      rw [Path.elements_join_names hall]
      exact Path.dotdot_not_mem_of_names hall
    have hkey : Bytes.join [Path.slash] es ++ Path.slash :: n = Bytes.join [Path.slash] (es ++ [n]) := by
      rw [Bytes.join_append_single _ he]
      simp
    rw [if_neg he, hdot, if_neg Bool.false_ne_true, Path.join_pair hjne hn.1, hkey,
      Path.clean_of_relative (Path.isAbs_join_names hall) hdesc, Path.elements_join_names hall,
      if_neg (by simp)]

theorem select_ok {archive : ByteArray} {ms : List Member} {pfx : Bytes} {accept : Option (Bytes → Bool)}
    {visited : List Member} {ix : Index} (h : select archive ms pfx accept = .ok (visited, ix)) :
    (∀ e ∈ ms, isSafePath e.name = true) ∧ ix = ⟨archive, ms.filter (!·.isDir)⟩ := by
  have hsafe : ∀ e ∈ ms, isSafePath e.name = true := by
    intro e he
    cases hf : ms.find? (fun e => !isSafePath e.name) with
    | some bad =>
      rw [select, hf] at h
      cases h
    | none => simpa using List.find?_eq_none.1 hf e he
  rw [select_of_safe hsafe] at h
  cases h
  exact ⟨hsafe, rfl⟩

/-- What the index finds next to a member is a member of the same directory with that base name,
and one is found whenever a member with a clean name lies there. -/
theorem sibling?_spec {archive : ByteArray} {ms : List Member} {pfx : Bytes} {accept : Option (Bytes → Bool)}
    {visited : List Member} {ix : Index} (hsel : select archive ms pfx accept = .ok (visited, ix))
    {f : Member} (hf : f ∈ ms) {n : Bytes} (hn : Path.IsName n) :
    (∀ g, ix.sibling? f n = some g →
      g ∈ ms ∧ g.isDir = false ∧ Path.dir g.name = Path.dir f.name ∧ Path.base g.name = n) ∧
    ((∃ g ∈ ms, g.isDir = false ∧ Path.clean g.name = g.name ∧ Path.dir g.name = Path.dir f.name ∧
      Path.base g.name = n) → ix.sibling? f n ≠ none) := by
  obtain ⟨hsafe, rfl⟩ := select_ok hsel
  have hfs := hsafe f hf
  have hes := fun x (hx : x ∈ Path.elements (Path.dir f.name)) =>
    Path.isName_of_mem_elements (Path.descends_of_isSafePath hfs).dir hx
  rw [sibling?_eq_find? _ hfs hn, find?_index]
  constructor
  · intro g hg
    obtain ⟨hgm, hgd, hgn⟩ : g ∈ ms ∧ g.isDir = false ∧
        g.name = Bytes.join [Path.slash] (Path.elements (Path.dir f.name) ++ [n]) := by
      simpa using List.mem_of_getLast? hg
    refine ⟨hgm, hgd, ?_, by rw [hgn, Path.base_join_names _ hn]⟩
    rw [hgn, Path.dir_join_names hes hn]
    exact (dir_eq_of_safe hfs).symm
  · rintro ⟨g, hgm, hgd, hclean, hdir, hbase⟩ hnone
    have hg := eq_join_of_clean (hsafe g hgm) hclean hn hbase
    rw [hdir] at hg
    rw [List.getLast?_eq_none_iff, List.filter_eq_nil_iff] at hnone
    exact hnone g hgm (by simp [hgd, ← hg])

/-- In an archive holding `d/R` and `d/M`, the index finds a member next to `d/R` for the name `M`. -/
theorem sibling?_spec_same_dir :
    let sym : Member := ⟨[100, 47, 82], [], 0, 0, 0, 0, 0, 0, 0, 0, false⟩
    let man : Member := ⟨[100, 47, 77], [], 0, 0, 0, 0, 0, 0, 0, 0, false⟩
    let ix : Index := ⟨ByteArray.empty, [sym, man]⟩
    select ByteArray.empty [sym, man] [] none = .ok ([sym, man], ix) ∧ Path.IsName [77] ∧
      ix.sibling? sym [77] ≠ none := by
  intro sym man ix
  have hsafe : ∀ e ∈ [sym, man], isSafePath e.name = true := by
    simp only [List.mem_cons, List.not_mem_nil, or_false, forall_eq_or_imp, forall_eq]
    exact ⟨by decide, by decide⟩
  have hsel : select ByteArray.empty [sym, man] [] none = .ok ([sym, man], ix) := by
    rw [select_of_safe hsafe, List.filter_cons_of_pos (by decide), List.filter_cons_of_pos (by decide),
      List.filter_nil, List.filter_cons_of_pos (by decide), List.filter_cons_of_pos (by decide), List.filter_nil]
  have hn : Path.IsName [77] := by
    simp only [Path.IsName]
    decide
  refine ⟨hsel, hn, (sibling?_spec hsel (by simp) hn).2 ⟨man, by simp, by decide, by decide, by decide, by decide⟩⟩

/-- The index looks names up as they are kept: next to `./R`, for the name `M`, it finds nothing,
although `./M` lies in the same directory `.` and has `M` as its base. -/
theorem sibling?_misses_unclean :
    let sym : Member := ⟨[46, 47, 82], [], 0, 0, 0, 0, 0, 0, 0, 0, false⟩
    let man : Member := ⟨[46, 47, 77], [], 0, 0, 0, 0, 0, 0, 0, 0, false⟩
    let ix : Index := ⟨ByteArray.empty, [sym, man]⟩
    select ByteArray.empty [sym, man] [] none = .ok ([sym, man], ix) ∧ man.isDir = false ∧
      Path.dir man.name = Path.dir sym.name ∧ Path.base man.name = [77] ∧ (ix.sibling? sym [77]).isNone = true := by
  intro sym man ix
  have hsafe : ∀ e ∈ [sym, man], isSafePath e.name = true := by
    simp only [List.mem_cons, List.not_mem_nil, or_false, forall_eq_or_imp, forall_eq]
    exact ⟨by decide, by decide⟩
  refine ⟨?_, by decide, by decide, by decide, by decide⟩
  rw [select_of_safe hsafe, List.filter_cons_of_pos (by decide), List.filter_cons_of_pos (by decide),
    List.filter_nil, List.filter_cons_of_pos (by decide), List.filter_cons_of_pos (by decide), List.filter_nil]

end ResourceSymbols.Archive
