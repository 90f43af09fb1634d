import ResourceSymbols.Proofs.Outputs
import ResourceSymbols.Files.Memory

namespace ResourceSymbols

open ResourceSymbols.Path Watch
open RunLogic (HoldsT)

abbrev namedMemory : Host InMemory :=
  { (inferInstance : Host InMemory) with
    readDir := fun p (w : Memory) =>
      ((w.list p).map (List.filter fun n => decide (slash ∉ n ∧ n ≠ [46, 46])), w) }

theorem namedMemory_listsNames : namedMemory.ListsNames := by
  intro w p names h n hn
  change Except.map _ (w.list p) = .ok names at h
  cases hl : w.list p with
  | error e =>
    rw [hl] at h
    cases h
  | ok ns =>
    rw [hl] at h
    cases h
    simpa using (List.mem_filter.1 hn).2

theorem Archive.select_safe {archive : ByteArray} {ms : List Zip.Member} {pfx : Bytes}
    {accept : Option (Bytes → Bool)} {visited : List Zip.Member} {ix : Archive.Index}
    (h : Archive.select archive ms pfx accept = .ok (visited, ix)) :
    ∀ m ∈ visited, Archive.isSafePath m.name = true := by
  unfold Archive.select at h
  split at h
  · cases h
  · rename_i hfind
    cases h
    intro m hm
    have hm' : m ∈ ms := (List.mem_filter.1 hm).1
    simpa using List.find?_eq_none.1 hfind m hm'

/-- The empty path or a clean absolute one: what the search for a source looks at. -/
def Path.Anchored (p : Bytes) : Prop := p = [] ∨ ∃ ks, (∀ k ∈ ks, IsName k) ∧ p = rooted ks

theorem Path.Anchored.descends_base {p : Bytes} (h : Anchored p) : Descends (base p) := by
  rcases h with rfl | ⟨ks, hks, rfl⟩
  · exact descends_base_nil
  · exact descends_base_rooted hks

/-- A prefix of a clean absolute source that the search tries: an anchored path, possibly with a
slash after it. -/
def Path.Tried (head : Bytes) : Prop :=
  head = [] ∨ ∃ ks, (∀ k ∈ ks, IsName k) ∧ (head = rooted ks ∨ head = rooted ks ++ [slash])

theorem Path.Tried.dropSuffix {head : Bytes} (h : Tried head) :
    Anchored (Bytes.dropSuffix head [slash]) := by
  rcases h with rfl | ⟨ks, hks, rfl | rfl⟩
  · exact .inl (by decide)
  · rw [dropSuffix_rooted hks]
    split_ifs
    · exact .inl rfl
    · exact .inr ⟨ks, hks, rfl⟩
  · rw [dropSuffix_append_slash]
    exact .inr ⟨ks, hks, rfl⟩

theorem Path.Anchored.tried_split {p : Bytes} (h : Anchored p) : Tried (Path.split p).1 := by
  rcases h with rfl | ⟨ks, hks, rfl⟩
  · exact .inl rfl
  · obtain ⟨ks', hks', h'⟩ := split_rooted hks
    exact .inr ⟨ks', hks', h'⟩

theorem Path.Anchored.walk_invariant {dir : Bytes} (hdir : Anchored dir) :
    ∃ V : Bytes → Prop, V dir ∧ (∀ p n, V p → slash ∉ n → n ≠ [46, 46] → V (join [p, n])) ∧
      ∀ p, V p → Descends (Bytes.dropPrefix (Bytes.dropPrefix p dir) [slash]) := by
  rcases hdir with rfl | ⟨ks, hks, rfl⟩
  · -- below the empty path the walk visits the paths that never climb
    refine ⟨Descends, descends_nil, fun p n hp hn hn' => ?_, fun p hp => ?_⟩
    · refine Descends.join fun q hq => ?_
      rcases List.mem_pair.1 hq with rfl | rfl
      exacts [hp, descends_of_not_mem hn hn']
    · have hp' : Bytes.dropPrefix p [] = p := by simp [Bytes.dropPrefix, Bytes.startsWith]
      rw [hp']
      exact hp.dropPrefix_slash
  · -- below a clean absolute path it visits that path followed by names
    refine ⟨fun p => ∃ ms, (∀ m ∈ ms, IsName m) ∧ p = rooted (ks ++ ms), ⟨[], by simp, by simp⟩,
      ?_, ?_⟩
    · rintro p n ⟨ms, hms, rfl⟩ hn hn'
      have hq : Descends n := descends_of_not_mem hn hn'
      refine ⟨ms ++ elements n,
        List.forall_mem_append.2 ⟨hms, fun k hk => isName_of_mem_elements hq hk⟩, ?_⟩
      rw [join_rooted (List.forall_mem_append.2 ⟨hks, hms⟩) hq, List.append_assoc]
    · rintro p ⟨ms, hms, rfl⟩
      rw [dropPrefix_rooted hms]
      exact descends_join_names hms

section Members

variable {m : Type → Type} [Monad m] [MonadFinally m] [Host m] {L : RunLogic m}

theorem memberName_holds {s : Compile.Settings} {j : Journal m} (hj : L.Steady j)
    (hcs : s.KeepsSafe) {mem : Zip.Member} (hsafe : Archive.isSafePath mem.name = true) :
    L.holds (Compile.memberName s j mem) Descends := by
  unfold Compile.memberName
  split
  · rename_i cs hcs'
    split
    · rename_i d hd
      split
      · exact L.pure (descends_of_isSafePath hsafe)
      · split
        · rename_i n hn
          exact L.pure (descends_of_isSafePath (hcs cs d hcs' hd _ _ hsafe hn))
        · exact L.bind (hj.say _ _ _ _ _) fun _ _ => L.pure (descends_of_isSafePath hsafe)
    · exact L.pure (descends_of_isSafePath hsafe)
  · exact L.pure (descends_of_isSafePath hsafe)

theorem compileMember_holds {s : Compile.Settings} {j : Journal m} {dst : Bytes}
    (htable : ∀ input src pkg, Descends src →
      L.holds (Compile.compileTable s j input src pkg dst) fun _ => True)
    (ix : Archive.Index) (mem : Zip.Member) {src : Bytes} (hsrc : Descends src) :
    L.holds (Compile.compileMember s j ix mem src dst) fun _ => True := by
  unfold Compile.compileMember
  extract_lets jp
  have hjp : ∀ pkg, L.holds (jp pkg) fun _ => True := by
    intro pkg
    simp only [jp]
    split
    · exact L.pure trivial
    · exact htable _ src pkg hsrc
  -- reading the manifest of a member asks nothing of the host
  split
  · exact L.pure_bind (hjp _)
  · split
    · exact L.pure_bind (hjp _)
    · split
      · exact L.pure trivial
      · split
        · exact L.pure_bind (hjp _)
        · exact L.pure trivial

end Members

section Walks

variable {m : Type → Type} [Monad m] [MonadFinally m] [Host m] {L : RunLogic m}

theorem walkFile_holds {S : Type} (path pfx : Bytes) (accept : Option (Bytes → Bool))
    {visit : Zip.Member → Archive.Index → StateT S m (Option Failure)}
    (hv : ∀ mem ix, Archive.isSafePath mem.name = true → L.HoldsT (visit mem ix)) :
    L.HoldsT (Archive.walkFile path pfx accept visit) := by
  unfold Archive.walkFile Archive.walk
  refine HoldsT.bind (HoldsT.lift (L.readFile path)) fun r => ?_
  split
  · exact HoldsT.pure
  · exact HoldsT.pure
  · extract_lets archive
    split
    · exact HoldsT.pure
    · split
      · exact HoldsT.pure
      · rename_i visited ix hsel
        refine HoldsT.foldlM fun acc mem hmem => ?_
        cases acc with
        | some f => exact HoldsT.pure
        | none => exact hv mem ix (Archive.select_safe hsel mem hmem)

theorem isArchive_holds (exts : List Bytes) (path : Bytes) :
    L.holds (Compile.isArchive exts path) fun _ => True := by
  unfold Compile.isArchive
  dsimp only
  split
  · exact L.pure trivial
  · refine L.bind (L.readFile path) fun r _ => ?_
    cases r with
    | error e => exact L.pure trivial
    | ok d =>
      dsimp only
      split
      · split
        · exact L.pure trivial
        · split <;> exact L.pure trivial
      · split <;> exact L.pure trivial

theorem packageNextTo_holds (path name : Bytes) :
    L.holds (Manifest.packageNextTo path name) fun _ => True := by
  unfold Manifest.packageNextTo
  refine L.bind (L.readFile _) fun r _ => ?_
  cases r <;> exact L.pure trivial

theorem walkTree_holds {visit : Bytes → Except FsError Kind → StateT Compile.Tally m Unit}
    (V : Bytes → Prop) (hstep : ∀ p n, V p → slash ∉ n → n ≠ [46, 46] → V (join [p, n]))
    (hvisit : ∀ p k, V p → L.HoldsT (visit p k)) :
    ∀ depth path kind, V path → L.HoldsT (Compile.walkTree visit path kind depth) := by
  intro depth
  induction depth with
  | zero =>
    intro path kind _
    exact HoldsT.pure
  | succ depth ih =>
    intro path kind hpath
    rw [Compile.walkTree]
    refine HoldsT.bind (hvisit path _ hpath) fun _ => ?_
    split
    · exact HoldsT.pure
    · refine HoldsT.lift_holds (L.readDir path) fun r hr => ?_
      cases r with
      | error e =>
        dsimp only
        split
        · exact hvisit path _ hpath
        · exact HoldsT.pure
      | ok names =>
        dsimp only
        refine HoldsT.bind (HoldsT.forIn fun name hname _ => ?_) fun _ => HoldsT.pure
        have hchild : V (join [path, name]) :=
          hstep path name hpath (hr names rfl name hname).1 (hr names rfl name hname).2
        refine HoldsT.bind (HoldsT.lift (L.lstat _)) fun r => ?_
        cases r with
        | error e => exact HoldsT.bind (hvisit _ _ hchild) fun _ => HoldsT.pure
        | ok k => exact HoldsT.bind (ih _ _ hchild) fun _ => HoldsT.pure

variable {s : Compile.Settings} {j : Journal m} {dst : Bytes}
  (htable : ∀ input src pkg, Descends src →
    L.holds (Compile.compileTable s j input src pkg dst) fun _ => True)
include htable

theorem compileFile_holds (path : Bytes) {src : Bytes} (hsrc : Descends src) :
    L.holds (Compile.compileFile s j path src dst) fun _ => True := by
  unfold Compile.compileFile
  extract_lets jp
  have hjp : ∀ pkg, L.holds (jp pkg) fun _ => True := fun pkg =>
    L.bind (L.readFile _) fun r _ => by
      cases r with
      | error e => exact L.pure trivial
      | ok d => exact htable d src pkg hsrc
  split
  · exact L.pure_bind (hjp _)
  · refine L.bind (packageNextTo_holds _ _) fun r _ => ?_
    cases r with
    | ok p => exact L.pure_bind (hjp _)
    | error e => exact L.pure trivial

variable (hj : L.Steady j) (hcs : s.KeepsSafe)
include hj hcs

theorem compileArchive_holds (path pathIn : Bytes) {pathOut : Bytes} (hout : Descends pathOut) :
    L.holds (Compile.compileArchive s j path pathIn pathOut dst) fun _ => True := by
  unfold Compile.compileArchive
  extract_lets finish visit
  -- a visit compiles a checked member under a name that never climbs
  have hvisit : ∀ mem ix, Archive.isSafePath mem.name = true → L.HoldsT (visit mem ix) := by
    intro mem ix hsafe
    simp only [visit]
    refine HoldsT.bind HoldsT.modify fun _ => ?_
    refine HoldsT.lift_holds (memberName_holds hj hcs hsafe) fun name hname => ?_
    have hsrc : Descends (Path.join [pathOut, name]) := by
      refine Descends.join fun q hq => ?_
      rcases List.mem_pair.1 hq with rfl | rfl
      exacts [hout, hname]
    refine HoldsT.bind (HoldsT.lift (compileMember_holds htable ix mem hsrc)) fun r => ?_
    cases r with
    | none => exact HoldsT.pure
    | some e =>
      exact HoldsT.bind (HoldsT.lift (hj.say _ _ _ _ _)) fun _ =>
        HoldsT.bind HoldsT.modify fun _ => HoldsT.pure
  refine L.bind (walkFile_holds _ _ _ hvisit _) fun r _ => ?_
  obtain ⟨walked, count, errs⟩ := r
  dsimp only
  split
  · exact L.pure trivial
  · split
    · exact L.bind (hj.say _ _ _ _ _) fun _ _ => L.pure trivial
    · exact L.pure trivial

theorem visitPath_holds (dir path : Bytes) (kind : Except FsError Kind)
    (hrel : Descends (Bytes.dropPrefix (Bytes.dropPrefix path dir) [slash])) :
    L.HoldsT (Compile.visitPath s j dir dst path kind) := by
  unfold Compile.visitPath
  split
  · exact HoldsT.lift (hj.say _ _ _ _ _)
  · split
    · exact HoldsT.pure
    · refine HoldsT.bind (HoldsT.lift (isArchive_holds _ path)) fun r => ?_
      split
      · exact HoldsT.lift (hj.say _ _ _ _ _)
      · refine HoldsT.bind HoldsT.modify fun _ => ?_
        refine HoldsT.bind (HoldsT.lift (compileArchive_holds htable hj hcs path [] hrel.dir)) fun r => ?_
        cases r with
        | none => exact HoldsT.pure
        | some e => exact HoldsT.bind (HoldsT.lift (hj.say _ _ _ _ _)) fun _ => HoldsT.modify
      · split
        · exact HoldsT.lift (hj.say _ _ _ _ _)
        · refine HoldsT.bind HoldsT.modify fun _ => ?_
          refine HoldsT.bind (HoldsT.lift (compileFile_holds htable path hrel)) fun r => ?_
          cases r with
          | none => exact HoldsT.pure
          | some e => exact HoldsT.bind (HoldsT.lift (hj.say _ _ _ _ _)) fun _ => HoldsT.modify

theorem compileDir_holds {dir : Bytes} (hdir : Anchored dir) :
    L.holds (Compile.compileDir s j dir dst) fun _ => True := by
  obtain ⟨V, hV, hstep, hrel⟩ := hdir.walk_invariant
  unfold Compile.compileDir
  extract_lets visit
  refine L.bind (HoldsT.bind (HoldsT.lift (L.lstat dir)) (fun r => ?_) _) fun r _ => ?_
  · cases r with
    | error e => exact visitPath_holds htable hj hcs dir dir _ (hrel dir hV)
    | ok k =>
      exact walkTree_holds V hstep (fun p k hp => visitPath_holds htable hj hcs dir p k (hrel p hp)) Compile.walkLevels dir k hV
  · obtain ⟨⟨⟩, tally⟩ := r
    dsimp only
    split
    · exact L.bind (hj.say _ _ _ _ _) fun _ _ => L.pure trivial
    · exact L.pure trivial

theorem locate_holds (src : Bytes) :
    ∀ fuel head tail, Tried head → L.holds (Compile.locate s j src dst head tail fuel) fun _ => True := by
  intro fuel
  induction fuel with
  | zero =>
    intro head tail _
    rw [Compile.locate]
    exact L.pure trivial
  | succ fuel ih =>
    intro head tail hhead
    rw [Compile.locate]
    split
    · exact L.pure trivial
    · -- the path looked at is the prefix without its trailing slash
      have hcur := hhead.dropSuffix
      dsimp only
      refine L.bind (L.stat _) fun r _ => ?_
      split
      · exact ih _ _ hcur.tried_split
      · split
        · exact L.pure trivial
        · refine L.bind (compileDir_holds htable hj hcs hcur) fun r _ => ?_
          cases r <;> exact L.pure trivial
      · refine L.bind (isArchive_holds _ _) fun r _ => ?_
        split
        · exact L.pure trivial
        · refine L.bind (compileArchive_holds htable hj hcs _ _ descends_nil) fun r _ => ?_
          cases r <;> exact L.pure trivial
        · split
          · exact L.pure trivial
          · exact compileFile_holds htable _ hcur.descends_base
      · exact L.pure trivial

theorem compileSource_holds {ks : List Bytes} (hks : ∀ k ∈ ks, IsName k) :
    L.holds (Compile.compileSource s j (rooted ks) dst) fun _ => True :=
  locate_holds htable hj hcs _ _ _ _ (.inr ⟨ks, hks, .inl rfl⟩)

end Walks

/-! ### The command -/

def Charset.forced (name : Bytes) : Option Charset.Entry :=
  if name.isEmpty then none
  else match Charset.lookup name with
    | .ok e => e
    | .error _ => none

section Command

variable {m : Type → Type} [Monad m] [MonadFinally m] [Host m] {L : RunLogic m} {j : Journal m}

theorem forcedCharset_holds (hj : L.Steady j) (name : Bytes) :
    L.holds (Compile.forcedCharset j name) (· = Charset.forced name) := by
  unfold Compile.forcedCharset
  split
  · rename_i hname
    exact L.pure (by simp [Charset.forced, hname])
  · rename_i hname
    have hforced : Charset.forced name =
        match Charset.lookup name with
        | .ok e => e
        | .error _ => none := by
      simp [Charset.forced, hname]
    split
    all_goals
      rename_i hl
      exact L.bind (hj.say _ _ _ _ _) fun _ _ => L.pure (by rw [hforced, hl])

theorem warnExtra_holds (hj : L.Steady j) (logger : List String) (args : List Bytes) :
    L.holds (Compile.warnExtra j logger args) fun _ => True := by
  unfold Compile.warnExtra
  split
  · exact hj.say _ _ _ _ _
  · exact L.pure trivial

/-- A compile run from an absolute working directory keeps the invariant of any logic its journal
keeps, once the compilation of every table below the destination does. -/
theorem compileFrom_holds (cfg : Config) (r : Compile.Request) (hj : L.Steady j)
    (hcs : ∀ e d, Charset.forced r.charset = some e → e.decoding = some d → d.KeepsSafe)
    (src : Bytes) {cwd : Bytes} (hwd : isAbs cwd = true)
    (htable : ∀ s : Compile.Settings, Java.isIdentifier s.tableName = true → s.noDirs = r.noDirs →
      ∀ input src pkg, Descends src →
        L.holds (Compile.compileTable s j input src pkg (r.destination cwd)) fun _ => True) :
    L.holds (Compile.compileFrom cfg j r src cwd) fun _ => True := by
  obtain ⟨ks, hks, hsrc⟩ := abs_rooted hwd src
  unfold Compile.compileFrom
  dsimp only
  rw [hsrc]
  generalize (if r.name.isEmpty = true then cfg.generator.tableName else r.name) = tableName
  refine L.bind (warnExtra_holds hj _ _) fun _ _ => ?_
  split
  · exact L.pure trivial
  · split
    · exact L.pure trivial
    · rename_i hid _
      refine L.bind (forcedCharset_holds hj r.charset) fun cs hforced => ?_
      refine L.bind (hj.say _ _ _ _ _) fun _ _ => L.bind L.now fun _ _ => ?_
      refine L.tryFinally (compileSource_holds (htable _ (by simpa using hid) rfl) hj ?_ hks) ?_
      · intro cs' d h hd
        exact hcs cs' d (hforced ▸ h) hd
      · exact L.bind L.now fun _ _ => hj.say _ _ _ _ _

variable {σ : Type} {H : Host (StateM σ)} {I : σ × List Change → Prop}

theorem compile_holds {j : Journal (Watch H)} (cfg : Config) (r : Compile.Request) (hq : Asks H I)
    (hnames : H.ListsNames) (hj : (Watch.logic I hq hnames).Steady j)
    (hcs : ∀ e d, Charset.forced r.charset = some e → e.decoding = some d → d.KeepsSafe)
    (st₀ : σ × List Change) (hwd : isAbs (H.workDir.run st₀.1).1 = true)
    (htable : ∀ s : Compile.Settings, Java.isIdentifier s.tableName = true → s.noDirs = r.noDirs →
      ∀ input src pkg, Descends src →
        Holds I (Compile.compileTable s j input src pkg (r.destination (H.workDir.run st₀.1).1))
          fun _ => True)
    (h₀ : I st₀) : I ((Compile.compile cfg j r : Watch H _).run st₀).2 := by
  unfold Compile.compile
  split
  · rename_i src _
    split
    · exact h₀
    · -- the working directory is asked once, before anything else
      have hcwd : (Host.workDir : Watch H Bytes).run st₀ =
          ((H.workDir.run st₀.1).1, ((H.workDir.run st₀.1).2, st₀.2)) := rfl
      rw [run_bind, hcwd]
      exact (compileFrom_holds (L := Watch.logic I hq hnames) cfg r hj hcs src hwd htable _
        (hq.workDir st₀ h₀)).1
  · exact h₀

end Command

end ResourceSymbols
