import ResourceSymbols.Proofs.Paths
import ResourceSymbols.Proofs.RunLogic
import ResourceSymbols.Compile.Command

namespace ResourceSymbols

open ResourceSymbols.Path Watch

/-- Every path a change touches is `root` or lies below it. -/
def Change.Below (root : Bytes) (c : Change) : Prop := ∀ p ∈ c.paths, Within root p

/-! ### Names the program makes -/

theorem ofString_tmp : Bytes.ofString ".tmp" = [46, 116, 109, 112] := by decide +kernel

theorem ofString_java : Bytes.ofString ".java" = [46, 106, 97, 118, 97] := by decide +kernel

theorem slash_not_mem_nineDigits (r : Nat) : slash ∉ Files.nineDigits r := fun h => by
  have hd := Bytes.mem_ofNat (List.mem_of_mem_drop h)
  have h47 : slash.toNat = 47 := rfl
  omega

theorem isName_tmp {f : Bytes} (hf : IsName f) (r : Nat) :
    IsName ([46] ++ f ++ [46] ++ Files.nineDigits r ++ Bytes.ofString ".tmp") := by
  refine isName_of_two_lt ?_ ?_
  · simp [ofString_tmp]
    omega
  simp only [List.mem_append, List.mem_singleton, not_or, ofString_tmp]
  exact ⟨⟨⟨⟨by decide, hf.2.1⟩, by decide⟩, slash_not_mem_nineDigits r⟩, by decide⟩

theorem identCode_of_mem {first : Bool} {cs : List Nat} (h : Java.identCodes first cs = true) {c : Nat}
    (hc : c ∈ cs) : Java.identCode false c = true := by
  induction cs generalizing first with
  | nil => cases hc
  | cons c' cs ih =>
    simp only [Java.identCodes, Bool.and_eq_true] at h
    rcases List.mem_cons.1 hc with rfl | hc
    · cases first <;> simp_all [Java.identCode]
    · exact ih h.2 hc

theorem not_mem_of_isIdentifier {b : Bytes} (h : Java.isIdentifier b = true) {x : UInt8} (hx : x < 128)
    (hcode : Java.identCode false x.toNat = false) : x ∉ b := by
  intro hb
  simp only [Java.isIdentifier, Bool.and_eq_true] at h
  have hc : x.toNat ∈ Utf8.codes b := List.mem_map.2 ⟨_, Utf8.mem_segments_of_lt hx hb, rfl⟩
  rw [identCode_of_mem h.2 hc] at hcode
  cases hcode

theorem slash_not_mem_of_isIdentifier {b : Bytes} (h : Java.isIdentifier b = true) : slash ∉ b :=
  not_mem_of_isIdentifier h (by decide) (by decide)

theorem dot_not_mem_of_isIdentifier {b : Bytes} (h : Java.isIdentifier b = true) : (46 : UInt8) ∉ b :=
  not_mem_of_isIdentifier h (by decide) (by decide)

theorem isName_javaFile {n : Bytes} (h : Java.isIdentifier n = true) : IsName (n ++ Bytes.ofString ".java") := by
  refine isName_of_two_lt ?_ ?_
  · simp [ofString_java]
  simp only [List.mem_append, not_or, ofString_java]
  exact ⟨slash_not_mem_of_isIdentifier h, by decide⟩

theorem javaPath_elements {t : Table} (h : Java.isIdentifier t.name = true) :
    Descends t.javaPath ∧ ∃ J, elements t.javaPath = J ++ [t.name ++ Bytes.ofString ".java"] := by
  have hfile := isName_javaFile h
  -- a piece of the package holds no dot, so none of its elements is `..`
  have hpiece : ∀ q ∈ Bytes.splitOn t.pkg 46, Descends q := fun q hq hd =>
    (Bytes.subset_of_mem_splitOn hq).1 ((Bytes.subset_of_mem_splitOn (List.mem_filter.1 hd).1).2 46 (by simp))
  have hall : ∀ q ∈ Bytes.splitOn t.pkg 46 ++ [t.name ++ Bytes.ofString ".java"], Descends q := by
    intro q hq
    rcases List.mem_append.1 hq with hq | hq
    · exact hpiece q hq
    · rw [List.mem_singleton.1 hq]
      exact hfile.descends
  have hfe := hfile.elements_eq
  unfold Table.javaPath
  dsimp only
  split
  · exact ⟨hfile.descends, [], by rw [hfe]; rfl⟩
  · refine ⟨Descends.join hall, (Bytes.splitOn t.pkg 46).flatMap elements, ?_⟩
    rw [elements_join_of_descends hall, List.flatMap_append, List.flatMap_singleton, hfe]

theorem javaTarget_rooted {D : List Bytes} (hD : ∀ k ∈ D, IsName k) {t : Table}
    (h : Java.isIdentifier t.name = true) : ∃ J, (∀ k ∈ J, IsName k) ∧
      IsName (t.name ++ Bytes.ofString ".java") ∧
      Path.join [rooted D, t.javaPath] = rooted (D ++ J ++ [t.name ++ Bytes.ofString ".java"]) := by
  obtain ⟨hjd, J, hJ⟩ := javaPath_elements h
  refine ⟨J, fun k hk => isName_of_mem_elements hjd (hJ ▸ List.mem_append_left _ hk),
    isName_of_mem_elements hjd (by rw [hJ]; simp), ?_⟩
  rw [join_rooted hD hjd, hJ, List.append_assoc]

/-! ### Reading keeps the name asked for -/

theorem feedLines_name {b b' : Builder} {n : Nat} {ls : List Bytes} (h : feedLines b n ls = .ok b') :
    b'.name = b.name := by
  induction ls generalizing b n with
  | nil =>
    simp only [feedLines, Except.ok.injEq] at h
    rw [h]
  | cons raw rest ih =>
    rw [feedLines] at h
    dsimp only at h
    split_ifs at h
    · exact ih h
    · split at h
      · cases h
      · split at h
        · cases h
        · rename_i s _ b'' _ heq
          rw [ih h, ← Builder.add_name b s, heq]

theorem read_name {opts : ReadOptions} {text : Bytes} {stop : Option Failure} {t : Table}
    (h : Table.read opts text stop = .ok t) :
    t.name = if opts.name.isEmpty then defaultTableName else opts.name := by
  unfold Table.read at h
  simp only [bind, Except.bind] at h
  split at h
  · cases h
  · rename_i b hb
    split at h
    · cases h
    · split at h
      · rename_i t' hbuild
        cases h
        unfold Builder.build at hbuild
        split at hbuild
        · cases hbuild
        · cases hbuild
          simp [feedLines_name hb, Builder.setName, Builder.setPackage]
      · cases h

theorem read_isIdentifier {name pkg : Bytes} (hn : Java.isIdentifier name = true) {text : Bytes}
    {stop : Option Failure} {t : Table} (h : Table.read { name, pkg } text stop = .ok t) :
    Java.isIdentifier t.name = true := by
  have hne : name.isEmpty = false := by
    cases he : name.isEmpty
    · rfl
    · simp [Java.isIdentifier, he] at hn
  rw [read_name h]
  simp only [hne, Bool.false_eq_true, if_false]
  exact hn

/-! ### Writing a table -/

section Writing

variable {m : Type → Type} [Monad m] [MonadFinally m] [Host m] {L : RunLogic m} {P : Change → Prop}
  (hA : L.Allows P)
include hA

theorem createFresh_triple (dir head tail : Bytes) (tries : Nat)
    (hP : ∀ r, P (.createNew (join [dir, head ++ Files.nineDigits r ++ tail]))) :
    L.holds (Files.createFresh dir head tail tries)
      fun res => ∀ t, res = .ok t → ∃ r, t = join [dir, head ++ Files.nineDigits r ++ tail] := by
  induction tries with
  | zero => exact L.pure (by simp)
  | succ n ih =>
    rw [Files.createFresh]
    refine L.bind L.random fun r _ => ?_
    refine L.bind (hA.createNew _ (hP r)) fun res _ => ?_
    cases res with
    | ok u => exact L.pure fun t ht => ⟨r, by cases ht; rfl⟩
    | error e =>
      dsimp only
      split
      · exact ih
      · exact L.pure (by simp)

theorem replaceFile_keeps (path data : Bytes)
    (hP : ∀ t, (∃ r, t = join [Path.dir path,
        [46] ++ Path.base path ++ [46] ++ Files.nineDigits r ++ Bytes.ofString ".tmp"]) →
      P (.createNew t) ∧ P (.append t) ∧ P (.chmod t) ∧ P (.rename t path) ∧ P (.remove t)) :
    L.holds (Files.replaceFile path data) fun _ => True := by
  unfold Files.replaceFile
  refine L.bind (createFresh_triple hA _ _ _ _ fun r => (hP _ ⟨r, rfl⟩).1) fun res hres => ?_
  cases res with
  | error e => exact L.pure trivial
  | ok t =>
    obtain ⟨-, happ, hch, hren, hrem⟩ := hP t (hres t rfl)
    refine L.pure_bind ?_
    -- a failed step removes the temporary file
    have hfail : ∀ e : FsError,
        L.holds (do let _ ← (Host.remove t : m _); pure (Except.error e) : m (Except FsError Unit))
          fun _ => True :=
      fun e => L.bind (hA.remove _ hrem) fun _ _ => L.pure trivial
    refine L.bind (hA.append _ _ happ) fun a _ => ?_
    cases a with
    | error e => exact hfail e
    | ok u =>
      refine L.bind (hA.chmod _ hch) fun b _ => ?_
      cases b with
      | error e => exact hfail e
      | ok u =>
        refine L.bind (hA.rename _ _ hren) fun c _ => ?_
        cases c with
        | error e => exact hfail e
        | ok u => exact L.pure trivial

end Writing

section Below

variable {m : Type → Type} [Monad m] [MonadFinally m] [Host m] {L : RunLogic m} {D : List Bytes}
  (hA : L.Allows (Change.Below (rooted D))) (hD : ∀ k ∈ D, IsName k)
include hA hD

theorem replaceFile_below {R : List Bytes} (hR : ∀ k ∈ R, IsName k) {f : Bytes} (hf : IsName f)
    (data : Bytes) : L.holds (Files.replaceFile (rooted (D ++ R ++ [f])) data) fun _ => True := by
  have hDR : ∀ k ∈ D ++ R, IsName k := List.forall_mem_append.2 ⟨hD, hR⟩
  have htarget : Within (rooted D) (rooted (D ++ (R ++ [f]))) :=
    within_rooted hD (List.forall_mem_append.2 ⟨hR, by simpa using hf⟩)
  refine replaceFile_keeps hA _ _ fun t ⟨r, ht⟩ => ?_
  have hn := isName_tmp hf r
  rw [dir_rooted_append hDR hf, base_rooted_append _ hf, join_rooted hDR hn.descends,
    hn.elements_eq, List.append_assoc] at ht
  have htmp : Within (rooted D) t := by
    rw [ht]
    exact within_rooted hD (List.forall_mem_append.2 ⟨hR, by simpa using hn⟩)
  simp [Change.Below, Change.paths, htmp, htarget]

theorem exportJava_below {t : Table} (ht : Java.isIdentifier t.name = true)
    {R : List Bytes} (hR : ∀ k ∈ R, IsName k) (finalIds : Bool) :
    L.holds (Compile.exportJava t (rooted (D ++ R)) finalIds) fun _ => True := by
  obtain ⟨J, hJn, hf, htarget⟩ := javaTarget_rooted (List.forall_mem_append.2 ⟨hD, hR⟩) ht
  have hRJ : ∀ k ∈ R ++ J, IsName k := List.forall_mem_append.2 ⟨hR, hJn⟩
  rw [List.append_assoc D R] at htarget
  unfold Compile.exportJava
  dsimp only
  rw [htarget]
  refine L.bind (hA.makeDirs _ ?_) fun r _ => ?_
  · rw [dir_rooted_append (List.forall_mem_append.2 ⟨hD, hRJ⟩) hf]
    simpa [Change.Below, Change.paths] using within_rooted hD hRJ
  · cases r with
    | error e => exact L.pure trivial
    | ok u =>
      refine L.bind (replaceFile_below hA hD hRJ hf _) fun r _ => ?_
      cases r <;> exact L.pure trivial

omit hA in
theorem outputDir_rooted (s : Compile.Settings) {src : Bytes} (hsrc : Descends src) :
    ∃ R, (∀ k ∈ R, IsName k) ∧ Compile.outputDir s src (rooted D) = rooted (D ++ R) := by
  unfold Compile.outputDir
  split
  · exact ⟨[], by simp, by simp⟩
  · exact ⟨_, fun k hk => isName_of_mem_elements hsrc.dir hk, join_rooted hD hsrc.dir⟩

variable {s : Compile.Settings} {j : Journal m}

theorem compileTable_below (hs : Java.isIdentifier s.tableName = true) (hj : L.Quiet j) (input : Delivery)
    {src : Bytes} (hsrc : Descends src) (pkg : Bytes) :
    L.holds (Compile.compileTable s j input src pkg (rooted D)) fun _ => True := by
  obtain ⟨R, hR, hout⟩ := outputDir_rooted hD s hsrc
  unfold Compile.compileTable
  refine L.bind (hj.say _ _ _ _ _) fun _ _ => L.bind L.now fun start _ => ?_
  extract_lets completed
  -- the end is logged on every branch, and logging asks for no change
  have hdone : ∀ written, L.holds (completed written) fun _ => True := fun _ =>
    L.bind L.now fun _ _ => hj.say _ _ _ _ _
  split
  · exact L.bind (hdone _) fun _ _ => L.pure trivial
  · rename_i t hread
    -- the table keeps the name asked for, an identifier
    have ht : Java.isIdentifier t.name = true := read_isIdentifier hs hread
    refine L.bind (hj.say _ _ _ _ _) fun _ _ => L.bind (hj.keepData _ _) fun _ _ => ?_
    rw [hout]
    refine L.bind (exportJava_below hA hD ht hR _) fun r _ => ?_
    cases r with
    | error e => exact L.bind (hdone _) fun _ _ => L.pure trivial
    | ok target =>
      dsimp only
      exact L.bind (L.tryFinally (hj.keepFile _ _) (hdone _)) fun _ _ => L.pure trivial

end Below

/-! ### Members of an archive -/

/-- A decoding turns a name that passes the archive walk's check into one that passes it too. -/
def Charset.Decoding.KeepsSafe (d : Charset.Decoding) : Prop :=
  ∀ n n', Archive.isSafePath n = true → d.decode n = .ok n' → Archive.isSafePath n' = true

theorem utf16_not_keepsSafe : ¬ (Charset.Decoding.utf16 true false).KeepsSafe := by
  intro h
  have hsafe : Archive.isSafePath [0, 46, 0, 46, 0, 47, 0, 82] = true := by decide +kernel
  have hdecode : (Charset.Decoding.utf16 true false).decode [0, 46, 0, 46, 0, 47, 0, 82] =
      .ok [46, 46, 47, 82] := by decide +kernel
  have hclimbs : Archive.isSafePath [46, 46, 47, 82] = false := by decide +kernel
  simpa [hclimbs] using h _ _ hsafe hdecode

theorem Utf8.encode_high {n : Nat} (hn : 0x80 ≤ n) :
    Utf8.encode n ≠ [] ∧ ∀ y ∈ Utf8.encode n, 0x80 ≤ y.toNat := by
  unfold Utf8.encode
  rw [if_neg (by omega)]
  split
  · refine ⟨by simp, ?_⟩
    simp only [List.mem_cons, List.not_mem_nil, or_false]
    rintro y (rfl | rfl) <;> simp [Nat.toUInt8, UInt8.toNat_ofNat] <;> omega
  split
  · refine ⟨by simp, ?_⟩
    simp only [List.mem_cons, List.not_mem_nil, or_false]
    rintro y (rfl | rfl | rfl) <;> decide
  rename_i hcode
  -- past the surrogates and below the last code, so the lead byte stays a byte
  have hlt : n < 0x110000 := by
    simp only [Bool.or_eq_true, Bool.and_eq_true, decide_eq_true_eq, not_or] at hcode
    omega
  split
  · refine ⟨by simp, ?_⟩
    simp only [List.mem_cons, List.not_mem_nil, or_false]
    rintro y (rfl | rfl | rfl) <;> simp [Nat.toUInt8, UInt8.toNat_ofNat] <;> omega
  · refine ⟨by simp, ?_⟩
    simp only [List.mem_cons, List.not_mem_nil, or_false]
    rintro y (rfl | rfl | rfl | rfl) <;> simp [Nat.toUInt8, UInt8.toNat_ofNat] <;> omega

/-- A map of bytes that writes each ASCII byte as itself and every other byte as bytes past ASCII,
at least one. -/
structure AsciiKeeping (g : UInt8 → Bytes) : Prop where
  low : ∀ c : UInt8, c.toNat < 0x80 → g c = [c]
  nonempty : ∀ c : UInt8, 0x80 ≤ c.toNat → g c ≠ []
  high : ∀ c : UInt8, 0x80 ≤ c.toNat → ∀ y ∈ g c, 0x80 ≤ y.toNat

namespace AsciiKeeping

variable {g : UInt8 → Bytes} (hg : AsciiKeeping g)
include hg

theorem flatMap_ascii {q : Bytes} (hq : ∀ c ∈ q, c.toNat < 0x80) : q.flatMap g = q := by
  induction q with
  | nil => rfl
  | cons c rest ih =>
    rw [List.flatMap_cons, hg.low c (hq c List.mem_cons_self), ih fun x hx => hq x (List.mem_cons_of_mem _ hx)]
    rfl

theorem eq_of_flatMap_ascii {q r : Bytes} (h : q.flatMap g = r) (hr : ∀ y ∈ r, y.toNat < 0x80) : q = r := by
  have hq : ∀ c ∈ q, c.toNat < 0x80 := by
    intro c hc
    by_contra hge
    obtain ⟨y, hy⟩ := List.exists_mem_of_ne_nil _ (hg.nonempty c (by omega))
    have := hr y (h ▸ List.mem_flatMap.2 ⟨c, hc, hy⟩)
    have := hg.high c (by omega) y hy
    omega
  rw [← h, hg.flatMap_ascii hq]

theorem head?_ascii {n : Bytes} {x : UInt8} (hx : x.toNat < 0x80) (h : (n.flatMap g).head? = some x) :
    n.head? = some x := by
  cases n with
  | nil => simp at h
  | cons c rest =>
    rw [List.flatMap_cons] at h
    by_cases hlt : c.toNat < 0x80
    · rw [hg.low c hlt] at h
      simpa using h
    · obtain ⟨y, ys, hys⟩ := List.exists_cons_of_ne_nil (hg.nonempty c (by omega))
      rw [hys, List.cons_append, List.head?_cons, Option.some.injEq] at h
      subst h
      have := hg.high c (by omega) y (hys ▸ List.mem_cons_self)
      omega

theorem isSafePath {n : Bytes} (hsafe : Archive.isSafePath n = true) : Archive.isSafePath (n.flatMap g) = true := by
  have hsplit := Bytes.splitOn_flatMap (hg.low 47 (by decide))
    (fun c hc hmem => by
      by_cases hlt : c.toNat < 0x80
      · rw [hg.low c hlt, List.mem_singleton] at hmem
        exact hc hmem.symm
      · have := hg.high c (by omega) _ hmem
        simp at this) n
  unfold Archive.isSafePath at hsafe ⊢
  simp only [Bool.and_eq_true, bne_iff_ne, ne_eq, Bool.not_eq_eq_eq_not, Bool.not_true,
    List.any_eq_false, beq_iff_eq] at hsafe ⊢
  obtain ⟨⟨h47, h92⟩, hdots⟩ := hsafe
  refine ⟨⟨fun h => h47 (hg.head?_ascii (by decide) h), fun h => h92 (hg.head?_ascii (by decide) h)⟩, ?_⟩
  rw [hsplit]
  intro piece hmem heq
  obtain ⟨p, hp, rfl⟩ := List.mem_map.1 hmem
  exact hdots p hp (hg.eq_of_flatMap_ascii heq (by simp))

end AsciiKeeping

def Charset.Decoding.keepsAscii : Charset.Decoding → Bool
  | .singleByte first chars => first == 0x80 && chars.all fun c => 0x80 ≤ c.toNat
  | _ => false

theorem Charset.Decoding.keepsSafe_of_keepsAscii {d : Charset.Decoding} (hd : d.keepsAscii = true) :
    d.KeepsSafe := by
  cases d with
  | singleByte first chars =>
    simp only [Charset.Decoding.keepsAscii, Bool.and_eq_true, beq_iff_eq, Array.all_eq_true',
      decide_eq_true_eq] at hd
    obtain ⟨rfl, hchars⟩ := hd
    intro n n' hsafe hdec
    simp only [Charset.Decoding.decode, Except.ok.injEq] at hdec
    subst hdec
    -- the code read for a byte of the upper half is past ASCII
    have hcode : ∀ c : UInt8, 0x80 ≤ (chars[c.toNat - 0x80]?.map Char.toNat).getD Utf8.replacement := by
      intro c
      cases hch : chars[c.toNat - 0x80]? with
      | none => simp [Utf8.replacement]
      | some ch => simpa using hchars ch (Array.mem_of_getElem? hch)
    refine AsciiKeeping.isSafePath ⟨fun c hc => by simp [hc], fun c hc => ?_, fun c hc => ?_⟩ hsafe
    · simpa [if_neg (Nat.not_lt.2 hc)] using (Utf8.encode_high (hcode c)).1
    · simpa [if_neg (Nat.not_lt.2 hc)] using (Utf8.encode_high (hcode c)).2
  | _ => simp [Charset.Decoding.keepsAscii] at hd

/-- The forced character set, if any, keeps checked names checked. -/
def Compile.Settings.KeepsSafe (s : Compile.Settings) : Prop :=
  ∀ cs d, s.charset = some cs → cs.decoding = some d → d.KeepsSafe

end ResourceSymbols
