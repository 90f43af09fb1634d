import Mathlib
import ResourceSymbols.Proofs.ArchiveWalk

namespace ResourceSymbols

namespace Bytes

theorem splitOn_eq_splitOn (b : Bytes) (sep : UInt8) : splitOn b sep = List.splitOn sep b := by
  induction b with
  | nil => rfl
  | cons x rest ih =>
    obtain ⟨f, m, hfm⟩ := List.exists_cons_of_ne_nil (splitOn_ne_nil rest sep)
    rw [List.splitOn, List.splitOnP_cons_eq_if_modifyHead, ← List.splitOn, ← ih, splitOn, hfm]
    by_cases hx : x = sep <;> simp [hx]

theorem join_eq_intercalate (sep : UInt8) (xs : List Bytes) : join [sep] xs = [sep].intercalate xs := by
  induction xs with
  | nil => rfl
  | cons x xs ih =>
    cases xs with
    | nil => simp [join]
    | cons y ys => rw [join_cons_cons, ih, List.intercalate_cons_cons]

theorem join_cons_head (sep : Bytes) (x : UInt8) (f : Bytes) (m : List Bytes) :
    join sep ((x :: f) :: m) = x :: join sep (f :: m) := by
  cases m <;> rfl

theorem join_splitOn (b : Bytes) (sep sep' : UInt8) :
    join [sep'] (splitOn b sep) = b.map fun c => if c = sep then sep' else c := by
  induction b with
  | nil => rfl
  | cons x rest ih =>
    obtain ⟨f, m, hfm⟩ := List.exists_cons_of_ne_nil (splitOn_ne_nil rest sep)
    rw [hfm] at ih
    by_cases hx : x = sep
    · simp [splitOn, hfm, hx, join_cons_cons, ih]
    · simp [splitOn, hfm, hx, join_cons_head, ih]

theorem join_splitOn_self (b : Bytes) (sep : UInt8) : join [sep] (splitOn b sep) = b := by
  rw [join_eq_intercalate, splitOn_eq_splitOn]
  exact List.intercalate_splitOn sep

theorem splitOn_join {xs : List Bytes} {sep : UInt8} (hne : xs ≠ []) (h : ∀ x ∈ xs, sep ∉ x) :
    splitOn (join [sep] xs) sep = xs := by
  rw [join_eq_intercalate, splitOn_eq_splitOn]
  exact List.splitOn_intercalate sep h hne

end Bytes

namespace Path

theorem isName_of_isIdentifier {n : Bytes} (h : Java.isIdentifier n = true) : IsName n := by
  have hne : n ≠ [] := by
    rintro rfl
    simp [Java.isIdentifier] at h
  have hdot := dot_not_mem_of_isIdentifier h
  exact ⟨hne, slash_not_mem_of_isIdentifier h, fun e => hdot (by simp [e]), fun e => hdot (by simp [e])⟩

theorem join_names {ks : List Bytes} (hks : ∀ k ∈ ks, IsName k) (hne : ks ≠ []) :
    join ks = Bytes.join [slash] ks := by
  have hall : (ks.filter fun e => !e.isEmpty) = ks :=
    List.filter_eq_self.2 fun k hk => by simpa using (hks k hk).1
  have hclean := clean_of_relative (isAbs_join_names hks) (descends_join_names hks)
  rw [elements_join_names hks, if_neg hne] at hclean
  simp only [join, hall, List.isEmpty_iff, hne, if_false, hclean]

end Path

open ResourceSymbols.Path

namespace Table

def packageDirs (t : Table) : List Bytes := if t.pkg.isEmpty then [] else Bytes.splitOn t.pkg 46

theorem join_packageDirs (t : Table) : Bytes.join [46] t.packageDirs = t.pkg := by
  unfold packageDirs
  split
  · rename_i he
    rw [List.isEmpty_iff.1 he]
    rfl
  · exact Bytes.join_splitOn_self t.pkg 46

theorem isIdentifier_of_mem_packageDirs {t : Table} (hpkg : Java.isPackage t.pkg = true) {d : Bytes}
    (hd : d ∈ t.packageDirs) : Java.isIdentifier d = true := by
  unfold packageDirs at hd
  split at hd
  · cases hd
  · rename_i he
    simp only [Java.isPackage, Bool.or_eq_true, he, Bool.false_eq_true, false_or, List.all_eq_true] at hpkg
    exact hpkg d hd

theorem javaPath_eq_join {t : Table} (hname : Java.isIdentifier t.name = true)
    (hpkg : Java.isPackage t.pkg = true) :
    t.javaPath = Bytes.join [slash] (t.packageDirs ++ [t.name ++ Bytes.ofString ".java"]) := by
  have hnames : ∀ k ∈ t.packageDirs ++ [t.name ++ Bytes.ofString ".java"], IsName k := by
    intro k hk
    rcases List.mem_append.1 hk with hk | hk
    · exact isName_of_isIdentifier (isIdentifier_of_mem_packageDirs hpkg hk)
    · exact List.mem_singleton.1 hk ▸ isName_javaFile hname
  have hjoin := join_names hnames (by simp)
  unfold javaPath
  dsimp only
  unfold packageDirs at hjoin ⊢
  by_cases he : t.pkg.isEmpty = true
  · simp only [he, if_true, List.nil_append]
    rfl
  · simp only [he, Bool.false_eq_true, if_false] at hjoin ⊢
    exact hjoin

/-- The source of a table with a Java name and package lies at the package with every dot made a
slash, then a slash unless the package is the default one, then the name and `.java`. -/
theorem javaPath_layout (t : Table) (hname : Java.isIdentifier t.name = true)
    (hpkg : Java.isPackage t.pkg = true) :
    t.javaPath = t.pkg.map (fun c => if c = 46 then slash else c) ++
        (if t.pkg.isEmpty then [] else [slash]) ++ t.name ++ Bytes.ofString ".java" ∧
      isAbs t.javaPath = false ∧ (∀ e ∈ Bytes.splitOn t.javaPath slash, IsName e) ∧
      ∀ t' : Table, Java.isIdentifier t'.name = true → Java.isPackage t'.pkg = true →
        t'.javaPath = t.javaPath → t'.pkg = t.pkg ∧ t'.name = t.name := by
  -- the path is the package's directories and the file, each a name; cutting it at its slashes
  -- gives them back, so the path fixes both
  have hnames : ∀ (u : Table), Java.isIdentifier u.name = true → Java.isPackage u.pkg = true →
      ∀ k ∈ u.packageDirs ++ [u.name ++ Bytes.ofString ".java"], IsName k := by
    intro u hn hp k hk
    rcases List.mem_append.1 hk with hk | hk
    · exact isName_of_isIdentifier (isIdentifier_of_mem_packageDirs hp hk)
    · exact List.mem_singleton.1 hk ▸ isName_javaFile hn
  have hparts : ∀ (u : Table), Java.isIdentifier u.name = true → Java.isPackage u.pkg = true →
      Bytes.splitOn u.javaPath slash = u.packageDirs ++ [u.name ++ Bytes.ofString ".java"] := by
    intro u hn hp
    rw [javaPath_eq_join hn hp]
    exact Bytes.splitOn_join (by simp) fun k hk => (hnames u hn hp k hk).2.1
  refine ⟨?_, ?_, fun e he => hnames t hname hpkg e (hparts t hname hpkg ▸ he), ?_⟩
  · rw [javaPath_eq_join hname hpkg]
    unfold packageDirs
    split
    · rename_i he
      simp [List.isEmpty_iff.1 he, Bytes.join]
    · rename_i he
      have hne : Bytes.splitOn t.pkg 46 ≠ [] := Bytes.splitOn_ne_nil t.pkg 46
      rw [Bytes.join_append_single _ hne, Bytes.join_splitOn]
      simp
  · rw [javaPath_eq_join hname hpkg]
    exact isAbs_join_names (hnames t hname hpkg)
  · intro t' hname' hpkg' hpath
    have hsame := hparts t' hname' hpkg'
    rw [hpath, hparts t hname hpkg] at hsame
    obtain ⟨hdirs, hfile⟩ := List.append_inj' hsame.symm rfl
    refine ⟨?_, List.append_cancel_right (List.singleton_inj.1 hfile)⟩
    rw [← join_packageDirs t', ← join_packageDirs t, hdirs]

/-- The source of table `R` of package `com.example` lies at `com/example/R.java`. -/
theorem javaPath_layout_com_example :
    Java.isIdentifier [82] = true ∧ Java.isPackage (Bytes.ofString "com.example") = true ∧
      Table.javaPath ⟨[82], Bytes.ofString "com.example", []⟩ = Bytes.ofString "com/example/R.java" := by
  have hname : Java.isIdentifier [82] = true := by cbv
  have hpkg : Java.isPackage (Bytes.ofString "com.example") = true := by cbv
  refine ⟨hname, hpkg, ?_⟩
  rw [(javaPath_layout ⟨[82], Bytes.ofString "com.example", []⟩ hname hpkg).1]
  cbv

end Table

namespace Path

def dirPrefix (d : Bytes) : Bytes := if d.getLast? = some slash then d else d ++ [slash]

theorem below_rooted {ks : List Bytes} (hks : ∀ k ∈ ks, IsName k) (ms : List Bytes) :
    rooted (ks ++ ms) = rooted ks ∨ dirPrefix (rooted ks) <+: rooted (ks ++ ms) := by
  rcases eq_or_ne ms [] with rfl | hms
  · exact .inl (by rw [List.append_nil])
  right
  rcases eq_or_ne ks [] with rfl | hne
  · -- the root ends in its slash already
    have hroot : dirPrefix (rooted []) = [slash] := by decide
    exact ⟨Bytes.join [slash] ms, by rw [hroot]; rfl⟩
  · obtain ⟨ks', k, rfl⟩ := (List.eq_nil_or_concat' ks).resolve_left hne
    obtain ⟨x, -, hx, -⟩ := rooted_append_single_cases ks' k
    have hlast : (rooted (ks' ++ [k])).getLast? ≠ some slash := hx ▸ getLast?_append_sep (hks k (by simp))
    refine ⟨Bytes.join [slash] ms, ?_⟩
    rw [dirPrefix, if_neg hlast, rooted_append hne, flatMap_slash hms]
    simp

theorem join_below {b q : Bytes} (hb : clean b = b) (habs : isAbs b = true) (hq : Descends q) :
    join [b, q] = b ∨ dirPrefix b <+: join [b, q] := by
  obtain ⟨hroot, hks⟩ := clean_eq_rooted habs
  rw [hb] at hroot hks
  rw [hroot, join_rooted hks hq]
  exact below_rooted hks _

/-- A member name the archive walk accepts, joined to a clean absolute directory, stays at or below
it, and so does the directory its source is written to. -/
theorem safe_names_stay_below (b n r : Bytes) (hb : clean b = b) (habs : isAbs b = true)
    (hn : Archive.isSafePath n = true) (hr : Descends r) :
    (join [b, n] = b ∨ dirPrefix b <+: join [b, n]) ∧
      ∀ s : Compile.Settings, Compile.outputDir s (join [r, n]) b = b ∨
        dirPrefix b <+: Compile.outputDir s (join [r, n]) b := by
  refine ⟨join_below hb habs (descends_of_isSafePath hn), fun s => ?_⟩
  unfold Compile.outputDir
  split
  · exact .inl rfl
  · -- the directory of a path that never climbs never climbs either
    have hsrc : Descends (join [r, n]) := Descends.join (by simpa using ⟨hr, descends_of_isSafePath hn⟩)
    exact join_below hb habs hsrc.dir

/-- The member `res/R.txt` of an archive found in `lib` is compiled into `/out/lib/res`. -/
theorem safe_names_stay_below_out :
    Compile.outputDir ⟨Config.defaults, [], [], true, false, none⟩ (join [[108, 105, 98], [114, 101, 115, 47, 82]])
        [47, 111, 117, 116] = [47, 111, 117, 116, 47, 108, 105, 98, 47, 114, 101, 115] ∧
      dirPrefix [47, 111, 117, 116] <+: [47, 111, 117, 116, 47, 108, 105, 98, 47, 114, 101, 115] := by
  have hr : Descends [108, 105, 98] := by
    unfold Descends
    decide
  have h := (safe_names_stay_below [47, 111, 117, 116] [114, 101, 115, 47, 82] [108, 105, 98]
    (by decide) (by decide) (by decide) hr).2 ⟨Config.defaults, [], [], true, false, none⟩
  have hdir : Compile.outputDir ⟨Config.defaults, [], [], true, false, none⟩
      (join [[108, 105, 98], [114, 101, 115, 47, 82]]) [47, 111, 117, 116] =
        [47, 111, 117, 116, 47, 108, 105, 98, 47, 114, 101, 115] := by decide
  rw [hdir] at h
  exact ⟨hdir, h.resolve_left (by decide)⟩

end Path

end ResourceSymbols
