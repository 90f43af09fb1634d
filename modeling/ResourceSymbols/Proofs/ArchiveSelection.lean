import ResourceSymbols.Proofs.ArchiveWalk
import ResourceSymbols.Proofs.SourceSearch

namespace ResourceSymbols

open ResourceSymbols.Path Memory

namespace Compile

section Step

variable {m : Type → Type} [Monad m] [MonadFinally m] [Host m]

/-- Compile one member of an archive and add its failure, behind the member's name, to those
collected so far. -/
def collectMember (s : Settings) (j : Journal m) (path pathOut dst : Bytes) (ix : Archive.Index)
    (errs : Option Failure) (mem : Zip.Member) : m (Option Failure) := do
  let name ← memberName s j mem
  match ← compileMember s j ix mem (Path.join [pathOut, name]) dst with
  | none => pure errs
  | some e =>
    j.say logger "Compile.compileArchive" .error "Unable to process file in archive"
      [⟨"archive", .text path⟩, ⟨"file", .text mem.name⟩, ⟨"error", .failure e⟩]
    pure (Failure.append errs (some (.within (mem.name ++ Bytes.ofString ": ") e)))

end Step

variable {σ : Type} [Host (StateM σ)]

section Lifted

variable {S β : Type} (t : S) (y : σ)

theorem readFile_bind_run (p : Bytes) (f : Except FsError Delivery → StateT S (StateM σ) β) :
    (Host.readFile p >>= f).run t y =
      (f (Host.readFile (m := StateM σ) p y).1).run t (Host.readFile (m := StateM σ) p y).2 := rfl

omit [Host (StateM σ)] in
theorem modify_bind_run (g : S → S) (f : PUnit → StateT S (StateM σ) β) :
    (modify g >>= f).run t y = (f ⟨⟩).run (g t) y := rfl

omit [Host (StateM σ)] in
theorem liftM_bind_run {α : Type} (a : StateM σ α) (f : α → StateT S (StateM σ) β) :
    (liftM a >>= f).run t y = (f (a y).1).run t (a y).2 := rfl

end Lifted

section Walk

variable {S : Type} {V : Zip.Member → Archive.Index → StateT S (StateM σ) (Option Failure)}
  {path pfx bytes : Bytes} {accept : Option (Bytes → Bool)} {ms : List Zip.Member} {x : σ}
  (hread : Host.readFile (m := StateM σ) path x = (.ok ⟨bytes, none⟩, x))
  (hms : Zip.members ⟨bytes.toArray⟩ = .ok ms)
include hread hms

theorem walkFile_run_selected {sel : List Zip.Member} {ix : Archive.Index}
    (hsel : Archive.select ⟨bytes.toArray⟩ ms pfx accept = .ok (sel, ix)) (t : S) :
    (Archive.walkFile path pfx accept V).run t x = (Archive.visitUntil V ix sel).run t x := by
  unfold Archive.walkFile
  rw [readFile_bind_run, hread]
  dsimp only
  rw [hms]
  dsimp only
  rw [Archive.walk_of_select_ok hsel, Archive.foldlM_visitStep]

theorem walkFile_run_refused {f : Failure} (hsel : Archive.select ⟨bytes.toArray⟩ ms pfx accept = .error f)
    (t : S) : (Archive.walkFile path pfx accept V).run t x = ((some f, t), x) := by
  unfold Archive.walkFile
  rw [readFile_bind_run, hread]
  dsimp only
  rw [hms]
  dsimp only
  rw [Archive.walk_of_select_error hsel]
  rfl

end Walk

section Collect

variable {ix : Archive.Index}
  {V : Zip.Member → Archive.Index → StateT (Nat × Option Failure) (StateM σ) (Option Failure)}

omit [Host (StateM σ)] in
/-- A visit that counts its member and collects as `c` does makes the walk over `sel` the fold of
`c` over `sel`, counting every member. -/
theorem visitUntil_run_fold (c : Option Failure → Zip.Member → StateM σ (Option Failure))
    (hV : ∀ mem n errs y, (V mem ix).run (n, errs) y = ((none, (n + 1, (c errs mem y).1)), (c errs mem y).2))
    (sel : List Zip.Member) (n : Nat) (errs : Option Failure) (y : σ) :
    (Archive.visitUntil V ix sel).run (n, errs) y =
      ((none, (n + sel.length, (sel.foldlM c errs y).1)), (sel.foldlM c errs y).2) := by
  induction sel generalizing n errs y with
  | nil => rfl
  | cons mem rest ih =>
    rw [Archive.visitUntil, StateT.run_bind, StateM.bind_apply, hV, List.foldlM_cons, StateM.bind_apply]
    dsimp only
    rw [ih, List.length_cons, Nat.add_right_comm, Nat.add_assoc]

variable {s : Settings} {j : Journal (StateM σ)} {path pathOut dst : Bytes}

theorem collectMember_collected {errs : Option Failure} (h : Collected errs) (mem : Zip.Member) (y : σ) :
    Collected (collectMember s j path pathOut dst ix errs mem y).1 := by
  rcases hname : memberName s j mem y with ⟨name, y₁⟩
  rcases hc : compileMember s j ix mem (join [pathOut, name]) dst y₁ with ⟨_ | e, y₂⟩
  all_goals
    rw [collectMember, StateM.bind_apply, hname]
    dsimp only
    rw [StateM.bind_apply, hc]
  · exact h
  · exact h.append _ e

theorem foldlM_collectMember_collected (sel : List Zip.Member) {errs : Option Failure} (h : Collected errs)
    (y : σ) : Collected (sel.foldlM (collectMember s j path pathOut dst ix) errs y).1 := by
  induction sel generalizing errs y with
  | nil => exact h
  | cons mem rest ih =>
    rw [List.foldlM_cons, StateM.bind_apply]
    exact ih (collectMember_collected h mem y) _

end Collect

section Archive

variable {s : Settings} {j : Journal (StateM σ)} {path pathIn pathOut dst bytes : Bytes} {ms : List Zip.Member}
  {x : σ} (hread : Host.readFile (m := StateM σ) path x = (.ok ⟨bytes, none⟩, x))
  (hms : Zip.members ⟨bytes.toArray⟩ = .ok ms)
include hread hms

/-- An archive whose names are all safe is compiled as the fold of `collectMember` over the
members selected, or fails for having none. -/
theorem compileArchive_run_selected (hin : pathIn ≠ []) {sel : List Zip.Member} {ix : Archive.Index}
    (hsel : Archive.select ⟨bytes.toArray⟩ ms pathIn
      (some (Archive.baseNameIs s.config.input.symbolFileName)) = .ok (sel, ix)) :
    compileArchive s j path pathIn pathOut dst x =
      (if sel = [] then pure (some (noneFound pathIn))
        else sel.foldlM (collectMember s j path pathOut dst ix) none) x := by
  unfold compileArchive
  rw [StateM.bind_apply, walkFile_run_selected hread hms hsel,
    visitUntil_run_fold (collectMember s j path pathOut dst ix) ?_]
  · dsimp only
    by_cases hs : sel = []
    · subst hs
      rw [if_pos (by simpa using hin)]
      rfl
    · -- the walk counted its members, so neither the note nor the debug line is given
      have hlen : sel.length ≠ 0 := by simpa using hs
      rw [if_neg (by simp [hlen]), if_neg (by simp [hlen]), if_neg hs]
      rfl
  · intro mem n errs y
    rcases hname : memberName s j mem y with ⟨name, y₁⟩
    rcases hc : compileMember s j ix mem (join [pathOut, name]) dst y₁ with ⟨_ | e, y₂⟩
    all_goals
      rw [modify_bind_run, liftM_bind_run, hname, liftM_bind_run, hc, collectMember, StateM.bind_apply, hname]
      dsimp only
      rw [StateM.bind_apply, hc]
    · rfl
    · rfl

theorem compileArchive_run_refused {f : Failure}
    (hsel : Archive.select ⟨bytes.toArray⟩ ms pathIn
      (some (Archive.baseNameIs s.config.input.symbolFileName)) = .error f) :
    compileArchive s j path pathIn pathOut dst x = (some f, x) := by
  unfold compileArchive
  rw [StateM.bind_apply, walkFile_run_refused hread hms hsel]
  rfl

end Archive

section Source

variable (hkeep : ∀ p (y : σ), (Host.stat (m := StateM σ) p y).2 = y) {s : Settings} {j : Journal (StateM σ)}
  {dst : Bytes} {ks qs : List Bytes} (hks : ∀ k ∈ ks, IsName k) (hne : ks ≠ []) (hqs : ∀ k ∈ qs, IsName k)
  {x : σ} (hkind : (Host.stat (m := StateM σ) (rooted ks) x).1 = .ok .regular)
  (hlonger : ∀ i, ks.length < i → i ≤ ks.length + qs.length →
    ∃ e, (Host.stat (m := StateM σ) (prefixAt (ks ++ qs) i) x).1 = .error e)
  (harc : isArchive (m := StateM σ) s.config.extensions (rooted ks) x = (.ok true, x))
include hkeep hks hne hqs hkind hlonger harc

/-- A source below an archive that the host reads, with nothing held below the archive, is the
archive compiled below the rest of the source. -/
theorem compileSource_run_archive :
    compileSource s j (rooted (ks ++ qs)) dst x =
      (Option.map (.within (Bytes.ofString "unable to process archive: ")) <$>
        compileArchive s j (rooted ks) (Bytes.join [slash] qs) [] dst) x := by
  have hnames : ∀ k ∈ ks ++ qs, IsName k := List.forall_mem_append.2 ⟨hks, hqs⟩
  have hat : prefixAt (ks ++ qs) ks.length = rooted ks := by simp [prefixAt, hne]
  have hfuel : (ks ++ qs).length < (rooted (ks ++ qs)).length + 2 := by
    have := length_le_rooted (ks ++ qs)
    omega
  unfold compileSource
  rw [locate_found_run hkeep hnames (hat ▸ hkind) (ks ++ qs).length (by simp) le_rfl
    (fun i h1 h2 => hlonger i h1 (by simpa using h2)) _ _ _ hfuel (rooted_ne_nil _)
    (dropSuffix_rooted_eq_prefixAt hnames) (iff_of_true rfl rfl), hat, dispatch, StateM.bind_apply, harc]
  dsimp only
  rw [dropPrefix_rooted hqs, StateM.bind_apply, StateM.map_apply]
  cases (compileArchive s j (rooted ks) (Bytes.join [slash] qs) [] dst x).1 <;> rfl

variable {bytes : Bytes} {ms : List Zip.Member}
  (hread : Host.readFile (m := StateM σ) (rooted ks) x = (.ok ⟨bytes, none⟩, x))
  (hms : Zip.members ⟨bytes.toArray⟩ = .ok ms)
include hread hms

theorem compileSource_archive_refused {m : Zip.Member}
    (hm : ms.find? (fun m => !Archive.isSafePath m.name) = some m) :
    compileSource s j (rooted (ks ++ qs)) dst x =
      (some (.within (Bytes.ofString "unable to process archive: ") (Archive.unsafePath m.name)), x) := by
  have hsel : Archive.select ⟨bytes.toArray⟩ ms (Bytes.join [slash] qs)
      (some (Archive.baseNameIs s.config.input.symbolFileName)) = .error (Archive.unsafePath m.name) := by
    rw [Archive.select, hm]
  rw [compileSource_run_archive hkeep hks hne hqs hkind hlonger harc, StateM.map_apply,
    compileArchive_run_refused hread hms hsel]
  rfl

theorem compileSource_archive_selected (hqne : qs ≠ []) (hsafe : ∀ m ∈ ms, Archive.isSafePath m.name = true)
    (hsep : ∀ m ∈ ms, Bytes.startsWith m.name (Bytes.join [slash] qs) = true →
      Archive.atOrBelow (Bytes.join [slash] qs) m.name = true) :
    compileSource s j (rooted (ks ++ qs)) dst x =
      (Option.map (.within (Bytes.ofString "unable to process archive: ")) <$>
        if Archive.namedBy s.config.input.symbolFileName (Bytes.join [slash] qs) ms = [] then
          pure (some (noneFound (Bytes.join [slash] qs)))
        else (Archive.namedBy s.config.input.symbolFileName (Bytes.join [slash] qs) ms).foldlM
          (collectMember s j (rooted ks) [] dst ⟨⟨bytes.toArray⟩, ms.filter fun m => !m.isDir⟩) none) x ∧
    ((compileSource s j (rooted (ks ++ qs)) dst x).1 = some (.within (Bytes.ofString "unable to process archive: ")
        (noneFound (Bytes.join [slash] qs))) ↔
      Archive.namedBy s.config.input.symbolFileName (Bytes.join [slash] qs) ms = []) := by
  -- the in-archive path is not empty, as its first name is not
  have hin : Bytes.join [slash] qs ≠ [] := by
    obtain ⟨q, qs', rfl⟩ := List.exists_cons_of_ne_nil hqne
    have hq : q ≠ [] := (hqs q List.mem_cons_self).1
    cases qs' <;> simp [Bytes.join, hq]
  rw [compileSource_run_archive hkeep hks hne hqs hkind hlonger harc]
  simp only [StateM.map_apply]
  rw [compileArchive_run_selected hread hms hin (Archive.select_namedBy hsafe hsep)]
  refine ⟨rfl, ?_⟩
  split
  · exact iff_of_true rfl ‹_›
  · -- the failures collected behind member names are no note
    refine iff_of_false (fun hr => ?_) ‹_›
    obtain ⟨f, hf, hwf⟩ := Option.map_eq_some_iff.1 hr
    cases Failure.within.inj hwf |>.2
    exact foldlM_collectMember_collected _ Collected.none x _ hf

end Source

section InMemory

variable {w : Memory}

theorem stat_run (p : Bytes) : (Host.stat (m := StateM Memory) p w).1 = w.stat p := rfl

theorem readFile_run (p : Bytes) : Host.readFile (m := StateM Memory) p w = (w.read p, w) := rfl

theorem isArchive_run (exts : List Bytes) (path : Bytes) :
    isArchive (m := StateM Memory) exts path w = (w.answer (isArchive exts path), w) :=
  Prod.ext rfl (triple_isArchive w w rfl).2

theorem missing_below_leaf {ks qs : List Bytes} (hks : ∀ k ∈ ks, IsName k) (hleaf : w.Leaf ks)
    (hqs : ∀ k ∈ qs, IsName k) (hqne : qs ≠ []) :
    ∀ i, ks.length < i → i ≤ ks.length + qs.length →
      ∃ e, (Host.stat (m := StateM Memory) (prefixAt (ks ++ qs) i) w).1 = .error e := by
  intro i h1 h2
  have hat : prefixAt (ks ++ qs) i = rooted (ks ++ qs.take (i - ks.length)) := by
    rw [prefixAt, if_neg (by omega), List.take_append, List.take_of_length_le (by omega)]
  rw [hat]
  exact stat_below_leaf hks hleaf (fun k hk => hqs k (List.mem_of_mem_take hk)) (by simp [hqne]; omega)

end InMemory

end Compile

open Compile in
/-- A source `rooted (ks ++ qs)` below an archive `rooted ks`, on any host that reads the archive and
holds nothing below it, and in a sound memory that accepts changes: a name that could escape refuses
the archive; otherwise the members named at or below `qs` are compiled in archive order. -/
theorem compileSource_in_archive {s : Settings} {ks qs : List Bytes} (hks : ∀ k ∈ ks, IsName k) (hne : ks ≠ [])
    (hqs : ∀ k ∈ qs, IsName k) (hqne : qs ≠ []) {bytes : Bytes} {ms : List Zip.Member}
    (hms : Zip.members ⟨bytes.toArray⟩ = .ok ms) :
    (∀ {σ : Type} [Host (StateM σ)] (j : Journal (StateM σ)) (dst : Bytes) (x : σ),
      (∀ p (y : σ), (Host.stat (m := StateM σ) p y).2 = y) →
      (Host.stat (m := StateM σ) (rooted ks) x).1 = .ok .regular →
      (∀ i, ks.length < i → i ≤ ks.length + qs.length →
        ∃ e, (Host.stat (m := StateM σ) (prefixAt (ks ++ qs) i) x).1 = .error e) →
      isArchive (m := StateM σ) s.config.extensions (rooted ks) x = (.ok true, x) →
      Host.readFile (m := StateM σ) (rooted ks) x = (.ok ⟨bytes, none⟩, x) →
      (∀ m, ms.find? (fun m => !Archive.isSafePath m.name) = some m →
        compileSource s j (rooted (ks ++ qs)) dst x =
          (some (.within (Bytes.ofString "unable to process archive: ") (Archive.unsafePath m.name)), x)) ∧
      ((∀ m ∈ ms, Archive.isSafePath m.name = true) →
        (∀ m ∈ ms, Bytes.startsWith m.name (Bytes.join [slash] qs) = true →
          Archive.atOrBelow (Bytes.join [slash] qs) m.name = true) →
        compileSource s j (rooted (ks ++ qs)) dst x =
          (Option.map (.within (Bytes.ofString "unable to process archive: ")) <$>
            if Archive.namedBy s.config.input.symbolFileName (Bytes.join [slash] qs) ms = [] then
              pure (some (noneFound (Bytes.join [slash] qs)))
            else (Archive.namedBy s.config.input.symbolFileName (Bytes.join [slash] qs) ms).foldlM
              (collectMember s j (rooted ks) [] dst ⟨⟨bytes.toArray⟩, ms.filter fun m => !m.isDir⟩) none) x ∧
        ((compileSource s j (rooted (ks ++ qs)) dst x).1 = some (.within (Bytes.ofString "unable to process archive: ")
            (noneFound (Bytes.join [slash] qs))) ↔
          Archive.namedBy s.config.input.symbolFileName (Bytes.join [slash] qs) ms = []))) ∧
    (∀ {j : Journal InMemory}, j.Inert → Java.isIdentifier s.tableName = true → ∀ {ds : List Bytes},
      (∀ k ∈ ds, IsName k) → ∀ {w₀ : Memory}, w₀.Sound → w₀.readOnly = false →
      w₀.stat (rooted ks) = .ok .regular → w₀.Leaf ks →
      w₀.answer (isArchive s.config.extensions (rooted ks)) = .ok true →
      w₀.read (rooted ks) = .ok ⟨bytes, none⟩ →
      (∀ m, ms.find? (fun m => !Archive.isSafePath m.name) = some m →
        plan s w₀ (rooted (ks ++ qs)) = [] ∧
        Triple (· = w₀) (compileSource s j (rooted (ks ++ qs)) (rooted ds)) fun r w =>
          r = some (.within (Bytes.ofString "unable to process archive: ") (Archive.unsafePath m.name)) ∧
            w = w₀) ∧
      ((∀ m ∈ ms, Archive.isSafePath m.name = true) →
        (∀ m ∈ ms, Bytes.startsWith m.name (Bytes.join [slash] qs) = true →
          Archive.atOrBelow (Bytes.join [slash] qs) m.name = true) →
        plan s w₀ (rooted (ks ++ qs)) =
            (Archive.namedBy s.config.input.symbolFileName (Bytes.join [slash] qs) ms).map
              (memberInput s ⟨⟨bytes.toArray⟩, ms.filter fun m => !m.isDir⟩ []) ∧
          Triple (· = w₀) (compileSource s j (rooted (ks ++ qs)) (rooted ds)) fun r w =>
            Exports s (rooted ds) (ToldUnwritten r) (plan s w₀ (rooted (ks ++ qs))) w₀ w ∧
            (r = some (.within (Bytes.ofString "unable to process archive: ")
                (noneFound (Bytes.join [slash] qs))) ↔
              Archive.namedBy s.config.input.symbolFileName (Bytes.join [slash] qs) ms = []))) := by
  refine ⟨fun j dst x hkeep hkind hlonger harc hread =>
    ⟨fun _ hm => compileSource_archive_refused hkeep hks hne hqs hkind hlonger harc hread hms hm,
      compileSource_archive_selected hkeep hks hne hqs hkind hlonger harc hread hms hqne⟩, ?_⟩
  intro j hj hs ds hds w₀ hw hwr hkind hleaf harc hread
  -- the memory keeps its state on a stat, reads the archive and holds nothing below it
  have hlonger := missing_below_leaf hks hleaf hqs hqne
  have harc' : isArchive (m := StateM Memory) s.config.extensions (rooted ks) w₀ = (.ok true, w₀) := by
    rw [isArchive_run, harc]
  have hread' : Host.readFile (m := StateM Memory) (rooted ks) w₀ = (.ok ⟨bytes, none⟩, w₀) := by
    rw [readFile_run, hread]
  have hplan := plan_below_archive hks hne hleaf harc hkind hqs
  constructor
  · intro m hm
    have hsel : Archive.select ⟨bytes.toArray⟩ ms (Bytes.join [slash] qs)
        (some (Archive.baseNameIs s.config.input.symbolFileName)) = .error (Archive.unsafePath m.name) := by
      rw [Archive.select, hm]
    refine ⟨hplan.trans (archivePlan_refused hread hms hsel), ?_⟩
    rintro _ rfl
    rw [StateT.run, compileSource_archive_refused (fun _ _ => rfl) hks hne hqs hkind hlonger harc' hread' hms hm]
    exact ⟨rfl, rfl⟩
  · intro hsafe hsep
    obtain ⟨e, he⟩ := stat_below_leaf hks hleaf hqs hqne
    have hexports := compileSource_run hj hs hds hw hwr (List.forall_mem_append.2 ⟨hks, hqs⟩) (by simp [hne])
      fun h => by
        rw [he] at h
        cases h
    refine ⟨hplan.trans (archivePlan_selected hread hms (Archive.select_namedBy hsafe hsep)),
      hexports.and fun _ hw => ?_⟩
    subst hw
    exact (compileSource_archive_selected (fun _ _ => rfl) hks hne hqs hkind hlonger harc' hread' hms hqne hsafe
      hsep).2

def firstlyArchive : Bytes :=
  [80, 75, 3, 4, 20, 0, 0, 0, 0, 0, 210, 80, 109, 93, 191, 119, 35, 163, 13, 0, 0, 0, 13, 0, 0, 0,
    13, 0, 0, 0, 102, 105, 114, 115, 116, 108, 121, 47, 82, 46, 116, 120, 116, 105, 110, 116, 32,
    105, 100, 32, 97, 32, 48, 120, 49, 10, 80, 75, 1, 2, 20, 3, 20, 0, 0, 0, 0, 0, 210, 80, 109,
    93, 191, 119, 35, 163, 13, 0, 0, 0, 13, 0, 0, 0, 13, 0, 0, 0, 0, 0, 0, 0, 0, 0, 0, 0, 128, 1,
    0, 0, 0, 0, 102, 105, 114, 115, 116, 108, 121, 47, 82, 46, 116, 120, 116, 80, 75, 5, 6, 0, 0,
    0, 0, 1, 0, 1, 0, 59, 0, 0, 0, 56, 0, 0, 0, 0, 0]

open Compile Utf8 in
/-- The archive `/in/a.zip` holding `firstly/R.txt` alone, with the source `/in/a.zip/firstly`: its
names are safe and lie at or below `firstly`, and the run compiles that member. -/
theorem compileSource_in_archive_firstly :
    let s : Settings :=
      { config := Config.defaults, tableName := [82], package := [120], finalIds := false, noDirs := false,
        charset := none }
    let ks : List Bytes := [[105, 110], [97, 46, 122, 105, 112]]
    let qs : List Bytes := [[102, 105, 114, 115, 116, 108, 121]]
    let w₀ : Memory := ({} : Memory).place (rooted ks) (.file firstlyArchive)
    let ms : List Zip.Member := (Zip.members ⟨firstlyArchive.toArray⟩).toOption.getD []
    (Archive.namedBy s.config.input.symbolFileName (Bytes.join [slash] qs) ms).map Zip.Member.name =
        [[102, 105, 114, 115, 116, 108, 121, 47, 82, 46, 116, 120, 116]] ∧
      compileSource (m := InMemory) s Journal.silent (rooted (ks ++ qs)) (rooted [[111, 117, 116]]) w₀ =
        (Option.map (Failure.within (Bytes.ofString "unable to process archive: ")) <$>
          (Archive.namedBy s.config.input.symbolFileName (Bytes.join [slash] qs) ms).foldlM
            (collectMember s Journal.silent (rooted ks) [] (rooted [[111, 117, 116]])
              ⟨⟨firstlyArchive.toArray⟩, ms.filter fun m => !m.isDir⟩) none : InMemory _) w₀ ∧
      (plan s w₀ (rooted (ks ++ qs))).map Input.src = [[102, 105, 114, 115, 116, 108, 121, 47, 82, 46, 116, 120, 116]] ∧
      Triple (· = w₀) (compileSource s Journal.silent (rooted (ks ++ qs)) (rooted [[111, 117, 116]])) fun r _ =>
        r ≠ some (.within (Bytes.ofString "unable to process archive: ") (noneFound (Bytes.join [slash] qs))) := by
  intro s ks qs w₀ ms
  have hks : ∀ k ∈ ks, IsName k := by simp only [IsName]; decide +kernel
  have hqs : ∀ k ∈ qs, IsName k := by simp only [IsName]; decide +kernel
  have hkind : w₀.stat (rooted ks) = .ok .regular := by
    have h : (w₀.stat (rooted ks)).toOption = some .regular := by decide +kernel
    revert h
    cases w₀.stat (rooted ks) <;> simp [Except.toOption]
  have hleaf : w₀.Leaf ks := by
    unfold Leaf
    decide +kernel
  have harc : w₀.answer (isArchive s.config.extensions (rooted ks)) = .ok true := by
    have h : (w₀.answer (isArchive s.config.extensions (rooted ks))).toOption = some true := by decide +kernel
    revert h
    cases w₀.answer (isArchive s.config.extensions (rooted ks)) <;> simp [Except.toOption]
  have hread : w₀.read (rooted ks) = .ok ⟨firstlyArchive, none⟩ := by
    have h : (w₀.find (rooted ks)).toOption = some (.file firstlyArchive) := by decide +kernel
    unfold Memory.read
    revert h
    cases w₀.find (rooted ks) with
    | error e => simp [Except.toOption]
    | ok n =>
      intro h
      simp only [Except.toOption, Option.some.injEq] at h
      subst h
      rfl
  have hms : Zip.members ⟨firstlyArchive.toArray⟩ = .ok ms := by
    have h : (Zip.members ⟨firstlyArchive.toArray⟩).toOption.isSome = true := by decide +kernel
    revert h
    simp only [ms]
    cases Zip.members ⟨firstlyArchive.toArray⟩ <;> simp [Except.toOption]
  have hid : Java.isIdentifier s.tableName = true := by decide +kernel
  have hds : ∀ k ∈ ([[111, 117, 116]] : List Bytes), IsName k := by simp only [IsName]; decide +kernel
  have hw : w₀.Sound := sound_place sound_default hks _
  have hwr : w₀.readOnly = false := by decide +kernel
  have hne : ks ≠ [] := List.cons_ne_nil _ _
  have hqne : qs ≠ [] := List.cons_ne_nil _ _
  have h1 : ∀ m ∈ ms, Archive.isSafePath m.name = true := by
    simp only [ms]
    decide +kernel
  have h2 : ∀ m ∈ ms, Bytes.startsWith m.name (Bytes.join [slash] qs) = true →
      Archive.atOrBelow (Bytes.join [slash] qs) m.name = true := by
    simp only [ms]
    decide +kernel
  have h3 : ((Archive.namedBy s.config.input.symbolFileName (Bytes.join [slash] qs) ms).map
      (memberInput s ⟨⟨firstlyArchive.toArray⟩, ms.filter fun m => !m.isDir⟩ [])).map Input.src =
      [[102, 105, 114, 115, 116, 108, 121, 47, 82, 46, 116, 120, 116]] := by
    simp only [ms]
    decide +kernel
  have h4 : (Archive.namedBy s.config.input.symbolFileName (Bytes.join [slash] qs) ms).map Zip.Member.name =
      [[102, 105, 114, 115, 116, 108, 121, 47, 82, 46, 116, 120, 116]] := by
    simp only [ms]
    decide +kernel
  have hsome : Archive.namedBy s.config.input.symbolFileName (Bytes.join [slash] qs) ms ≠ [] := fun h => by
    simp [h] at h4
  obtain ⟨hhost, hmemory⟩ := compileSource_in_archive hks hne hqs hqne hms
  -- the memory as a host: it keeps its state on a stat and holds nothing below the archive
  obtain ⟨-, hsel⟩ := hhost Journal.silent (rooted [[111, 117, 116]]) w₀ (fun _ _ => rfl)
    ((stat_run _).trans hkind) (missing_below_leaf hks hleaf hqs hqne) ((isArchive_run _ _).trans (by rw [harc]))
    ((readFile_run _).trans (by rw [hread]))
  obtain ⟨-, hsafe⟩ := hmemory Journal.silent_inert hid hds hw hwr hkind hleaf harc hread
  obtain ⟨hplan, hrun⟩ := hsafe h1 h2
  refine ⟨h4, (hsel h1 h2).1.trans (by rw [if_neg hsome]), (congrArg (List.map Input.src) hplan).trans h3, ?_⟩
  exact hrun.conseq fun r w h => fun hr => hsome (h.2.1 hr)

def escapingArchive : Bytes :=
  [80, 75, 3, 4, 20, 0, 0, 0, 0, 0, 0, 80, 109, 93, 191, 119, 35, 163, 13, 0, 0, 0, 13, 0, 0, 0, 13,
    0, 0, 0, 102, 105, 114, 115, 116, 108, 121, 47, 82, 46, 116, 120, 116, 105, 110, 116, 32, 105,
    100, 32, 97, 32, 48, 120, 49, 10, 80, 75, 3, 4, 20, 0, 0, 0, 0, 0, 0, 80, 109, 93, 210, 86, 154,
    14, 13, 0, 0, 0, 13, 0, 0, 0, 8, 0, 0, 0, 46, 46, 47, 82, 46, 116, 120, 116, 105, 110, 116, 32,
    105, 100, 32, 98, 32, 48, 120, 50, 10, 80, 75, 1, 2, 20, 3, 20, 0, 0, 0, 0, 0, 0, 80, 109, 93,
    191, 119, 35, 163, 13, 0, 0, 0, 13, 0, 0, 0, 13, 0, 0, 0, 0, 0, 0, 0, 0, 0, 0, 0, 164, 129, 0,
    0, 0, 0, 102, 105, 114, 115, 116, 108, 121, 47, 82, 46, 116, 120, 116, 80, 75, 1, 2, 20, 3, 20,
    0, 0, 0, 0, 0, 0, 80, 109, 93, 210, 86, 154, 14, 13, 0, 0, 0, 13, 0, 0, 0, 8, 0, 0, 0, 0, 0, 0,
    0, 0, 0, 0, 0, 164, 129, 56, 0, 0, 0, 46, 46, 47, 82, 46, 116, 120, 116, 80, 75, 5, 6, 0, 0, 0,
    0, 2, 0, 2, 0, 113, 0, 0, 0, 107, 0, 0, 0, 0, 0]

open Compile in
/-- An archive with a member name that could escape is refused as a whole: below `firstly` one
member is named, and yet the run plans none. -/
theorem compileSource_in_archive_refuses_escaping :
    let s : Settings :=
      { config := Config.defaults, tableName := [82], package := [120], finalIds := false, noDirs := false,
        charset := none }
    let ks : List Bytes := [[105, 110], [97, 46, 122, 105, 112]]
    let w₀ : Memory := ({} : Memory).place (rooted ks) (.file escapingArchive)
    Archive.namedBy s.config.input.symbolFileName [102, 105, 114, 115, 116, 108, 121]
        ((Zip.members ⟨escapingArchive.toArray⟩).toOption.getD []) ≠ [] ∧
      (plan s w₀ (rooted (ks ++ [[102, 105, 114, 115, 116, 108, 121]]))).isEmpty = true := by
  intro s ks w₀
  exact ⟨by decide +kernel, by decide +kernel⟩

end ResourceSymbols
