import ResourceSymbols.Proofs.Views

namespace ResourceSymbols

open ResourceSymbols.Path Memory

namespace Compile

section Run

variable {j : Journal InMemory} (hj : j.Inert) {s : Settings}

include hj in
theorem memberName_run (mem : Zip.Member) {P : Memory → Prop} :
    Triple P (memberName s j mem) fun a w => a = memberText s mem ∧ P w := by
  unfold memberName
  rcases hc : s.charset with _ | cs
  · exact Triple.pure fun w hw => ⟨by simp [memberText, hc], hw⟩
  dsimp only
  rcases hd : cs.decoding with _ | d
  · exact Triple.pure fun w hw => ⟨by simp [memberText, hc, hd], hw⟩
  dsimp only
  by_cases hu : (!mem.nonUtf8) = true
  · rw [if_pos hu]
    exact Triple.pure fun w hw => ⟨by simp [memberText, hc, hd, hu], hw⟩
  rw [if_neg hu]
  rcases hn : d.decode mem.name with e | n
  · exact Triple.bind (hj.triple_say _ _ _ _ _) fun _ =>
      Triple.pure fun w hw => ⟨by simp [memberText, hc, hd, hu, hn, Except.toOption], hw⟩
  · exact Triple.pure fun w hw => ⟨by simp [memberText, hc, hd, hu, hn, Except.toOption], hw⟩

end Run

section Skip

variable {s : Settings} {dst : Bytes} {inp : Input} (h : inp.table = none)
include h

theorem Exports.skip {Told : Bytes → Prop} (w : Memory) : Exports s dst Told [inp] w w :=
  Exports.single (by simp only [Exported, h])

theorem skip_pure (w₀ : Memory) (r : Option Failure) :
    Triple (· = w₀) (pure r) fun r w => Exports s dst (ToldUnwritten r) [inp] w₀ w :=
  Triple.pure fun w hw => by
    subst hw
    exact Exports.skip h _

end Skip

theorem triple_readFile (w : Memory) (p : Bytes) :
    Triple (· = w) (Host.readFile p : InMemory _) fun a w' => a = w.read p ∧ w' = w := by
  rintro _ rfl
  exact ⟨rfl, rfl⟩

theorem triple_stat (w : Memory) (p : Bytes) :
    Triple (· = w) (Host.stat p : InMemory _) fun a w' => a = w.stat p ∧ w' = w := by
  rintro _ rfl
  exact ⟨rfl, rfl⟩

section Collect

variable {s : Settings} {dst : Bytes} {pre ins : List Input} {w₀ w₁ w : Memory} {errs : Option Failure}
  (hpre : Exports s dst (ToldUnwritten errs) pre w₀ w₁)
include hpre

theorem Exports.then_ok (h : Exports s dst (ToldUnwritten none) ins w₁ w) :
    Exports s dst (ToldUnwritten errs) (pre ++ ins) w₀ w :=
  hpre.append (h.mono fun _ ⟨_, _, h, _⟩ => by cases h)

theorem Exports.then_failed {e : Failure} (lead : Bytes) (h : Exports s dst (ToldUnwritten (some e)) ins w₁ w) :
    Exports s dst (ToldUnwritten (Failure.append errs (some (.within lead e)))) (pre ++ ins) w₀ w :=
  (hpre.mono fun _ h => h.append_left _).append (h.mono fun _ h => (h.within lead).append_right errs)

end Collect

section Archive

variable {s : Settings} {S : Type} {visit : Zip.Member → Archive.Index → StateT S InMemory (Option Failure)}
  {pathOut : Bytes} (I : List Input → S → Memory → Prop)
  (hvisit : ∀ ix pre mem, TripleT (I pre) (visit mem ix) fun a t w =>
    a = none ∧ I (pre ++ [memberInput s ix pathOut mem]) t w)
include hvisit

theorem walkFile_plan (path pfx : Bytes) (w₀ : Memory) :
    TripleT (fun t w => I [] t w ∧ w = w₀)
      (Archive.walkFile path pfx (some (Archive.baseNameIs s.config.input.symbolFileName)) visit)
      fun _ t w => I (archivePlan s w₀ path pfx pathOut) t w := by
  unfold Archive.walkFile archivePlan
  refine TripleT.ask_bind (Memory.read · path) (fun _ _ => rfl) fun t₀ w₁ h => ?_
  obtain ⟨h0, hw⟩ := h
  subst w₁
  -- a walk that stops before any visit keeps the invariant of no input
  have hstop : ∀ a : Option Failure, TripleT (fun t w => t = t₀ ∧ w = w₀) (pure a) fun _ t w => I [] t w :=
    fun _ => TripleT.pure fun t w ⟨ht, hw⟩ => ht ▸ hw ▸ h0
  rcases w₀.read path with e | ⟨bytes, _ | f⟩
  · exact hstop _
  · dsimp only
    rcases hm : Zip.members { data := bytes.toArray } with f | ms
    · exact hstop _
    unfold Archive.walk
    dsimp only
    rcases hsel : Archive.select { data := bytes.toArray } ms pfx
      (some (Archive.baseNameIs s.config.input.symbolFileName)) with f | ⟨visited, ix⟩
    · exact hstop _
    dsimp only
    -- every visit goes on, so the fold visits each selected member
    refine (TripleT.foldlM (fun pre acc t w => acc = none ∧ I (pre.map (memberInput s ix pathOut)) t w)
      fun pre mem _ acc _ => TripleT.of_prop fun hacc => ?_).weaken (fun t w ⟨ht, hw⟩ => ⟨rfl, ht ▸ hw ▸ h0⟩)
      |>.conseq fun _ _ _ h => h.2
    subst hacc
    refine (hvisit ix _ mem).conseq fun a t w ⟨ha, hI⟩ => ⟨ha, ?_⟩
    rwa [List.map_append, List.map_singleton]
  · exact hstop _

end Archive

section Member

variable {j : Journal InMemory} (hj : j.Inert) {s : Settings} (hs : Java.isIdentifier s.tableName = true)
  {ds : List Bytes} (hds : ∀ k ∈ ds, IsName k) {w₀ : Memory} (hw : w₀.Sound) (hwr : w₀.readOnly = false)
include hj hs hds hw hwr

theorem compileTable_exports (input : Delivery) (src pkg : Bytes) {tab : Option Table}
    (htab : tableOf s pkg input = tab) :
    Triple (· = w₀) (compileTable s j input src pkg (rooted ds)) fun r w =>
      Exports s (rooted ds) (ToldUnwritten r) [⟨src, tab⟩] w₀ w :=
  (compileTable_run hj hs hds hw hwr input src pkg).conseq fun _ _ h => Exports.single (htab ▸ h)

theorem compileMember_run (ix : Archive.Index) (mem : Zip.Member) (src : Bytes) :
    Triple (· = w₀) (compileMember s j ix mem src (rooted ds)) fun r w =>
      Exports s (rooted ds) (ToldUnwritten r) [⟨src, memberTable s ix mem⟩] w₀ w := by
  unfold compileMember
  extract_lets jp
  have hjp : ∀ pkg, memberPackage s ix mem = some pkg → Triple (· = w₀) (jp pkg) fun r w =>
      Exports s (rooted ds) (ToldUnwritten r) [⟨src, memberTable s ix mem⟩] w₀ w := by
    intro pkg hpkg
    simp only [jp]
    split
    · rename_i e hread
      exact skip_pure (by simp [memberTable, hpkg, hread, Except.toOption]) _ _
    · rename_i d hread
      exact compileTable_exports hj hs hds hw hwr d src pkg (by simp [memberTable, hpkg, hread, Except.toOption])
  clear_value jp
  split
  · rename_i hforced
    rw [pure_bind]
    exact hjp _ (by simp [memberPackage, hforced])
  · rename_i hforced
    split
    · rename_i hsib
      rw [pure_bind]
      exact hjp _ (by simp [memberPackage, hforced, hsib])
    · rename_i man hsib
      split
      · rename_i e hread
        exact skip_pure (by simp [memberTable, memberPackage, hforced, hsib, hread, Except.toOption]) _ _
      · rename_i d hread
        split
        · rename_i p hman
          rw [pure_bind]
          exact hjp _ (by simp [memberPackage, hforced, hsib, hread, hman, Except.toOption])
        · rename_i e hman
          exact skip_pure (by simp [memberTable, memberPackage, hforced, hsib, hread, hman, Except.toOption]) _ _

theorem compileFile_run (path src : Bytes) :
    Triple (· = w₀) (compileFile s j path src (rooted ds)) fun r w =>
      Exports s (rooted ds) (ToldUnwritten r) [fileInput s w₀ path src] w₀ w := by
  unfold compileFile
  extract_lets jp
  have hjp : ∀ pkg, (fileInput s w₀ path src).table = (w₀.read path).toOption.bind (tableOf s pkg) →
      Triple (· = w₀) (jp pkg) fun r w => Exports s (rooted ds) (ToldUnwritten r) [fileInput s w₀ path src] w₀ w := by
    intro pkg htab
    simp only [jp]
    refine Triple.bind (triple_readFile w₀ path) fun r => Triple.of_prop fun hr => ?_
    subst hr
    split
    · rename_i e hread
      exact skip_pure (by rw [htab, hread]; rfl) _ _
    · rename_i d hread
      rw [hread] at htab
      exact compileTable_exports hj hs hds hw hwr d src pkg htab.symm
  clear_value jp
  split
  · rename_i hforced
    rw [pure_bind]
    exact hjp _ (by simp [fileInput, hforced])
  · rename_i hforced
    refine Triple.bind (triple_packageNextTo w₀) fun a => Triple.of_prop fun ha => ?_
    subst ha
    split
    · rename_i p hp
      rw [pure_bind]
      exact hjp _ (by simp [fileInput, hforced, hp, Except.toOption])
    · rename_i e hp
      exact skip_pure (by simp [fileInput, hforced, hp, Except.toOption]) _ _

theorem compileArchive_run (path pathIn pathOut : Bytes) :
    Triple (· = w₀) (compileArchive s j path pathIn pathOut (rooted ds)) fun r w =>
      Exports s (rooted ds) (ToldUnwritten r) (archivePlan s w₀ path pathIn pathOut) w₀ w := by
  unfold compileArchive
  extract_lets jp visit
  -- each visit counts its member and collects the failure of its compilation
  have hvisit : ∀ ix pre mem, TripleT
      (fun t w => t.1 = pre.length ∧ Exports s (rooted ds) (ToldUnwritten t.2) pre w₀ w) (visit mem ix)
      fun a t w => a = none ∧ t.1 = (pre ++ [memberInput s ix pathOut mem]).length ∧
        Exports s (rooted ds) (ToldUnwritten t.2) (pre ++ [memberInput s ix pathOut mem]) w₀ w := by
    intro ix pre mem
    refine TripleT.of_eq fun ⟨n, errs⟩ w₁ ⟨hn, hpre⟩ => ?_
    dsimp only at hn hpre
    obtain ⟨hw₁, hr₁⟩ := hpre.sound hw
    simp only [visit, jp]
    refine TripleT.bind TripleT.modify_at fun _ => ?_
    refine TripleT.bind (TripleT.lift (memberName_run hj mem) (n + 1, errs)) fun name => ?_
    refine TripleT.of_eq fun t w ⟨ht, hname, hw'⟩ => ?_
    subst ht hname hw'
    refine TripleT.bind (TripleT.lift (compileMember_run hj hs hds hw₁ (hr₁.trans hwr) ix mem _) _) fun r => ?_
    refine TripleT.of_eq fun t w ⟨ht, hnew⟩ => ?_
    subst ht
    rcases r with _ | e
    · exact TripleT.pure fun t' w' ⟨ht', hw'⟩ => by
        subst ht' hw'
        exact ⟨rfl, by simp [hn], hpre.then_ok hnew⟩
    · refine TripleT.bind (TripleT.lift (hj.triple_say (P := (· = w)) _ _ _ _ _) _) fun _ => ?_
      refine TripleT.bind TripleT.modify_at fun _ => ?_
      exact TripleT.pure fun t' w' ⟨ht', hw'⟩ => by
        subst ht' hw'
        exact ⟨rfl, by simp [hn], hpre.then_failed _ hnew⟩
  refine Triple.bind ((walkFile_plan (fun ins t w => t.1 = ins.length ∧
      Exports s (rooted ds) (ToldUnwritten t.2) ins w₀ w) hvisit path pathIn w₀).run (0, none) |>.weaken
      fun w hw' => ⟨⟨rfl, hw'⟩, hw'⟩) fun ⟨walked, count, errs⟩ => ?_
  refine Triple.of_eq fun w₁ ⟨hcount, hex⟩ => ?_
  dsimp only at hcount hex ⊢
  split
  · -- nothing was visited, so nothing was exported
    rename_i hnone
    have hplan : archivePlan s w₀ path pathIn pathOut = [] := by
      simp only [Bool.and_eq_true, beq_iff_eq] at hnone
      exact List.length_eq_zero_iff.1 (hcount ▸ hnone.1.2)
    rw [hplan] at hex ⊢
    exact Triple.pure fun w hw' => hw' ▸ hex
  · -- the failures of the walk come first, then those collected
    have hres : ∀ w, w = w₁ → Exports s (rooted ds) (ToldUnwritten (Failure.append walked errs))
        (archivePlan s w₀ path pathIn pathOut) w₀ w := fun w hw' =>
      hw' ▸ hex.mono fun _ h => h.append_right walked
    split
    · exact Triple.bind (hj.triple_say _ _ _ _ _) fun _ => Triple.pure hres
    · exact Triple.pure hres

omit hs hds hw hwr in
theorem collect_run (msg : String) (path : Bytes) (r : Option Failure) {pre ins : List Input} {t₁ : Tally}
    {w₁ w : Memory} : Exports s (rooted ds) (ToldUnwritten t₁.errs) pre w₀ w₁ →
    Exports s (rooted ds) (ToldUnwritten r) ins w₁ w → TripleT (fun t w' => t = t₁ ∧ w' = w)
      (match r with
        | none => pure ()
        | some e => do
          liftM (j.say logger "Compile.visitPath" .error msg [⟨"file", .text path⟩, ⟨"error", .failure e⟩])
          modify fun t => { t with errs := Failure.append t.errs (some (.within (path ++ Bytes.ofString ": ") e)) } :
        StateT Tally InMemory Unit)
      fun _ t w' => Exports s (rooted ds) (ToldUnwritten t.errs) (pre ++ ins) w₀ w' := by
  intro hpre hnew
  rcases r with _ | e
  · exact TripleT.pure fun t w' ⟨ht, hw'⟩ => by
      subst ht hw'
      exact hpre.then_ok hnew
  · refine TripleT.bind (TripleT.lift (hj.triple_say (P := (· = w)) _ _ _ _ _) t₁) fun _ => ?_
    exact fun t w' ⟨ht, hw'⟩ => by
      subst ht hw'
      exact hpre.then_failed _ hnew

omit hs hds hw hwr in
theorem count_run (msg : String) (path : Bytes) {x : InMemory (Option Failure)} {pre ins : List Input}
    {t₁ : Tally} {w : Memory} (hx : Triple (· = w) x fun r w' => Exports s (rooted ds) (ToldUnwritten r) ins w w')
    (hpre : Exports s (rooted ds) (ToldUnwritten t₁.errs) pre w₀ w) :
    TripleT (fun t w' => t = t₁ ∧ w' = w)
      (modify (fun t : Tally => { t with count := t.count + 1 }) >>= fun _ => liftM x >>= fun r =>
        (match r with
          | none => pure ()
          | some e => do
            liftM (j.say logger "Compile.visitPath" .error msg [⟨"file", .text path⟩, ⟨"error", .failure e⟩])
            modify fun t => { t with errs := Failure.append t.errs (some (.within (path ++ Bytes.ofString ": ") e)) } :
          StateT Tally InMemory Unit))
      fun _ t w' => Exports s (rooted ds) (ToldUnwritten t.errs) (pre ++ ins) w₀ w' := by
  refine TripleT.bind TripleT.modify_at fun _ => ?_
  refine TripleT.bind (TripleT.lift hx _) fun r => ?_
  refine TripleT.of_eq fun t w' h => ?_
  obtain ⟨ht, hnew⟩ := h
  subst t
  exact collect_run hj msg path r hpre hnew

theorem visitPath_run (dir path : Bytes) (kind : Except FsError Kind) (pre : List Input) (w₁ : Memory) :
    TripleT (fun t w => w = w₁ ∧ Exports s (rooted ds) (ToldUnwritten t.errs) pre w₀ w)
      (visitPath s j dir (rooted ds) path kind) fun _ t w =>
        Exports s (rooted ds) (ToldUnwritten t.errs) (pre ++ visitPlan s w₁ dir path kind) w₀ w := by
  refine TripleT.of_eq fun t₁ w h₁ => ?_
  obtain ⟨hw₁, hpre⟩ := h₁
  subst hw₁
  obtain ⟨hsound, hro⟩ := hpre.sound hw
  have hskip : ∀ {x : StateT Tally InMemory Unit}, TripleT (fun t w' => t = t₁ ∧ w' = w) x
      (fun _ t w' => t = t₁ ∧ w' = w) → visitPlan s w dir path kind = [] →
      TripleT (fun t w' => t = t₁ ∧ w' = w) x fun _ t w' =>
        Exports s (rooted ds) (ToldUnwritten t.errs) (pre ++ visitPlan s w dir path kind) w₀ w' :=
    fun hx hplan => hx.conseq fun _ t w' h => by
      obtain ⟨ht, hw'⟩ := h
      subst ht hw'
      rw [hplan, List.append_nil]
      exact hpre
  unfold visitPath
  rcases kind with e | k
  · exact hskip (TripleT.lift (hj.triple_say _ _ _ _ _) t₁) rfl
  dsimp only
  by_cases hk : (k != Kind.regular) = true
  · rw [if_pos hk]
    exact hskip (TripleT.pure fun _ _ h => h) (by simp [visitPlan, hk])
  rw [if_neg hk]
  refine TripleT.bind (TripleT.lift (triple_isArchive w) t₁) fun a => ?_
  refine TripleT.of_eq fun t w' h => ?_
  obtain ⟨ht, ha, hw'⟩ := h
  subst t w'
  rcases a with e | _ | _
  · exact hskip (TripleT.lift (hj.triple_say _ _ _ _ _) t₁) (by simp [visitPlan, hk, ← ha])
  · dsimp only
    by_cases hb : (base path != s.config.input.symbolFileName) = true
    · rw [if_pos hb]
      exact hskip (TripleT.lift (hj.triple_say _ _ _ _ _) t₁) (by simp [visitPlan, hk, ← ha, hb])
    rw [if_neg hb]
    have hplan : visitPlan s w dir path (.ok k) =
        [fileInput s w path ((path.dropPrefix dir).dropPrefix [slash])] := by
      simp [visitPlan, hk, ← ha, hb]
    rw [hplan]
    exact count_run hj "Unable to process file" path (compileFile_run hj hs hds hsound (hro.trans hwr) path _) hpre
  · have hplan : visitPlan s w dir path (.ok k) =
        archivePlan s w path [] (Path.dir ((path.dropPrefix dir).dropPrefix [slash])) := by
      simp [visitPlan, hk, ← ha]
    rw [hplan]
    dsimp only
    exact count_run hj "Unable to process archive" path
      (compileArchive_run hj hs hds hsound (hro.trans hwr) path [] _) hpre

end Member

/-! ### The walk of a directory -/

/-- No table of the inputs `ins` is written at or below `rooted ks`. -/
def TargetsOutside (s : Settings) (dst : Bytes) (ks : List Bytes) (ins : List Input) : Prop :=
  ∀ inp ∈ ins, ∀ t, inp.table = some t → ¬ ks <+: elements (inp.target s dst t)

theorem TargetsOutside.mono {s : Settings} {dst : Bytes} {ks : List Bytes} {ins ins' : List Input}
    (h : TargetsOutside s dst ks ins) (hsub : ins' ⊆ ins) : TargetsOutside s dst ks ins' :=
  fun inp hinp => h inp (hsub hinp)

section Levels

variable {s : Settings} {w : Memory} (hw : w.Rooted) (dir : Bytes)
include hw

omit hw in
theorem isSome_node?_of_stat {qs : List Bytes} (hqs : ∀ k ∈ qs, IsName k) {kind : Kind}
    (h : w.stat (rooted qs) = .ok kind) : (w.node? qs).isSome := by
  rw [← get?_rooted w hqs]
  unfold stat find at h
  cases hg : w.get? (rooted qs) <;> simp_all [Except.map]

/-- A walk with a level left for every node of the memory below its path plans what any deeper walk
plans. -/
theorem walkPlan_more_levels : ∀ n (qs : List Bytes) kind, (∀ k ∈ qs, IsName k) →
    w.stat (rooted qs) = .ok kind →
    (∀ ks, (∀ k ∈ ks, IsName k) → (w.node? ks).isSome → ks.length < qs.length + n) →
    ∀ extra, walkPlan s w dir (rooted qs) kind (n + extra) = walkPlan s w dir (rooted qs) kind n := by
  intro n
  induction n with
  | zero =>
    intro qs kind hqs hst hdeep extra
    -- the path is itself a node, so it lies fewer than no levels below itself
    have hself := hdeep qs hqs (isSome_node?_of_stat hqs hst)
    omega
  | succ n ih =>
    intro qs kind hqs hst hdeep extra
    rw [Nat.add_right_comm, walkPlan, walkPlan]
    congr 1
    split
    · rfl
    · rcases hl : w.list (rooted qs) with e | names
      · rfl
      · refine List.flatMap_congr fun name hname => ?_
        have hn : IsName name := names_of_list hw hqs hl name hname
        have hqn : ∀ k ∈ qs ++ [name], IsName k := List.forall_mem_append.2 ⟨hqs, by simpa using hn⟩
        rw [join_rooted hqs hn.descends, hn.elements_eq]
        rcases hst' : w.stat (rooted (qs ++ [name])) with e | k
        · rfl
        · refine ih (qs ++ [name]) k hqn hst' (fun ks hks hsome => ?_) extra
          have hks := hdeep ks hks hsome
          rw [List.length_append, List.length_singleton]
          omega

/-- On a memory whose nodes lie fewer than `walkLevels` levels down, the plan of a directory is the
plan of a walk with any more levels. -/
theorem dirPlan_eq_deeper_walkPlan {ks : List Bytes} (hks : ∀ k ∈ ks, IsName k)
    (hdir : w.stat (rooted ks) = .ok .directory)
    (hdeep : ∀ qs, (∀ k ∈ qs, IsName k) → (w.node? qs).isSome → qs.length < walkLevels) (extra : Nat) :
    walkPlan s w (rooted ks) (rooted ks) .directory (walkLevels + extra) = dirPlan s w (rooted ks) := by
  rw [dirPlan, hdir]
  exact walkPlan_more_levels hw _ walkLevels ks .directory hks hdir (fun qs hqs h => by
    have := hdeep qs hqs h
    omega) extra

end Levels

section Walk

variable {j : Journal InMemory} (hj : j.Inert) {s : Settings} (hs : Java.isIdentifier s.tableName = true)
  {ds : List Bytes} (hds : ∀ k ∈ ds, IsName k) {w₀ : Memory} (hw : w₀.Sound) (hwr : w₀.readOnly = false)
  {ks : List Bytes} (hks : ∀ k ∈ ks, IsName k) (hman : Descends s.config.input.manifestFileName)
include hj hs hds hw hwr hks hman

omit hks in
theorem visitPath_below_run {qs : List Bytes} {kind : Kind} {pre : List Input} (hqs : ∀ k ∈ qs, IsName k)
    (hpre : ks <+: qs) (hroot : qs = ks → kind = .directory) (hout : TargetsOutside s (rooted ds) ks pre) :
    TripleT (fun t w => Exports s (rooted ds) (ToldUnwritten t.errs) pre w₀ w)
      (visitPath s j (rooted ks) (rooted ds) (rooted qs) (.ok kind)) fun _ t w =>
        Exports s (rooted ds) (ToldUnwritten t.errs) (pre ++ visitPlan s w₀ (rooted ks) (rooted qs) (.ok kind)) w₀ w := by
  refine TripleT.of_eq fun t₁ w₁ hpre₁ => ?_
  rw [← visitPlan_eq_of_prefix (hpre₁.alikeBelow hds hout).same hqs hpre hroot hman]
  exact (visitPath_run hj hs hds hw hwr _ _ _ pre w₁).at_state ⟨rfl, hpre₁⟩

omit hks in
theorem walkTree_run : ∀ depth (qs : List Bytes) (kind : Kind) (pre : List Input),
    (∀ k ∈ qs, IsName k) → ks <+: qs → (qs = ks → kind = .directory) →
    TargetsOutside s (rooted ds) ks (pre ++ walkPlan s w₀ (rooted ks) (rooted qs) kind depth) →
    TripleT (fun t w => Exports s (rooted ds) (ToldUnwritten t.errs) pre w₀ w)
      (walkTree (visitPath s j (rooted ks) (rooted ds)) (rooted qs) kind depth)
      fun _ t w => Exports s (rooted ds) (ToldUnwritten t.errs)
        (pre ++ walkPlan s w₀ (rooted ks) (rooted qs) kind depth) w₀ w := by
  -- below the directory, the memory answers as the first one did while the exports are outside
  have hview : ∀ {Told : Bytes → Prop} {ins : List Input} {w : Memory}, Exports s (rooted ds) Told ins w₀ w →
      TargetsOutside s (rooted ds) ks ins → AlikeBelow ks w₀ w :=
    fun h hout => h.alikeBelow hds hout
  intro depth
  induction depth with
  | zero =>
    intro qs kind pre _ _ _ _
    exact TripleT.pure fun t w h => by rwa [walkPlan, List.append_nil]
  | succ depth ih =>
    intro qs kind pre hqs hpre hroot hout
    rw [walkTree]
    refine TripleT.bind (visitPath_below_run hj hs hds hw hwr hman hqs hpre hroot
      (hout.mono (List.subset_append_left _ _))) fun _ => ?_
    by_cases hk : (kind != Kind.directory && kind != Kind.regular) = true
    · rw [if_pos hk]
      exact TripleT.pure fun t w h => by simpa [walkPlan, hk] using h
    rw [if_neg hk]
    have hout₁ : TargetsOutside s (rooted ds) ks (pre ++ visitPlan s w₀ (rooted ks) (rooted qs) (.ok kind)) :=
      hout.mono (by rw [walkPlan, ← List.append_assoc]; exact List.subset_append_left _ _)
    refine TripleT.ask_bind (Memory.list · (rooted qs)) (fun _ _ => rfl) fun t₁ w₁ hex₁ => ?_
    -- the directory lists what it listed first
    rw [list_eq_of_alikeBelow hw.rooted (hex₁.sound hw).1.rooted (hview hex₁ hout₁) hqs hpre]
    rcases hl : w₀.list (rooted qs) with e | names
    · -- a directory that cannot be listed is visited with the failure, which plans nothing; a file
      -- that lists nothing is not visited again
      have hwalk : walkPlan s w₀ (rooted ks) (rooted qs) kind (depth + 1) =
          visitPlan s w₀ (rooted ks) (rooted qs) (.ok kind) := by
        rw [walkPlan, if_neg hk, hl]
        dsimp only
        split <;> exact List.append_nil _
      rw [hwalk]
      dsimp only
      split
      · refine ((visitPath_run hj hs hds hw hwr _ _ _ _ w₁).at_state ⟨rfl, hex₁⟩).conseq fun _ t w h => ?_
        rw [← List.append_nil (pre ++ _)]
        exact h
      · refine TripleT.pure fun t w h => ?_
        obtain ⟨rfl, rfl⟩ := h
        exact hex₁
    dsimp only
    have hnames : ∀ n ∈ names, IsName n := names_of_list hw.rooted hqs hl
    -- the plan of each entry: what its walk plans, or nothing when it cannot be told
    obtain ⟨child, hwalk, hfailed, hchild⟩ : ∃ child : Bytes → List Input,
        walkPlan s w₀ (rooted ks) (rooted qs) kind (depth + 1) =
          visitPlan s w₀ (rooted ks) (rooted qs) (.ok kind) ++ names.flatMap child ∧
        (∀ name e, w₀.stat (Path.join [rooted qs, name]) = .error e →
          child name = visitPlan s w₀ (rooted ks) (Path.join [rooted qs, name]) (.error e)) ∧
        ∀ name k, w₀.stat (Path.join [rooted qs, name]) = .ok k →
          child name = walkPlan s w₀ (rooted ks) (Path.join [rooted qs, name]) k depth :=
      ⟨_, by rewrite [walkPlan, if_neg hk, hl]; rfl, fun _ _ he => by simp only [he],
        fun _ _ hk => by simp only [hk]⟩
    rw [hwalk] at hout ⊢
    -- each entry of the directory is walked in turn, from what was exported before it
    refine TripleT.bind ((TripleT.forIn (fun done t w => Exports s (rooted ds) (ToldUnwritten t.errs)
      (pre ++ visitPlan s w₀ (rooted ks) (rooted qs) (.ok kind) ++ done.flatMap child) w₀ w) ?_).at_state
      (by simpa using hex₁)) fun _ => TripleT.pure fun t w h => by rwa [List.append_assoc] at h
    intro done name post hsplit
    have hname : IsName name := hnames name (by rw [hsplit]; simp)
    have hqn : ∀ k ∈ qs ++ [name], IsName k := List.forall_mem_append.2 ⟨hqs, by simpa using hname⟩
    have hjoin : Path.join [rooted qs, name] = rooted (qs ++ [name]) := by
      rw [join_rooted hqs hname.descends, hname.elements_eq]
    have hout₂ : TargetsOutside s (rooted ds) ks
        (pre ++ visitPlan s w₀ (rooted ks) (rooted qs) (.ok kind) ++ done.flatMap child ++ child name) := by
      refine hout.mono fun x hx => ?_
      rw [hsplit]
      simp only [List.flatMap_append, List.flatMap_cons, List.mem_append] at hx ⊢
      tauto
    rw [hjoin]
    refine TripleT.ask_bind (Memory.stat · (rooted (qs ++ [name]))) (fun _ _ => rfl) fun t₂ w₂ hex₂ => ?_
    rw [stat_eq_of_sameOn (hview hex₂ (hout₂.mono (List.subset_append_left _ _))).same hqn
      (hpre.trans (List.prefix_append _ _))]
    rcases hst : w₀.stat (rooted (qs ++ [name])) with e | k
    · -- an entry that cannot be told is visited with the failure
      have hcn : child name = [] := by
        rw [hfailed name e (hjoin ▸ hst)]
        rfl
      refine TripleT.bind ((visitPath_run hj hs hds hw hwr _ _ _
        (pre ++ visitPlan s w₀ (rooted ks) (rooted qs) (.ok kind) ++ done.flatMap child) w₂).at_state
        ⟨rfl, hex₂⟩) fun _ => TripleT.pure fun t w h => ⟨rfl, ?_⟩
      have hnone : visitPlan s w₂ (rooted ks) (rooted (qs ++ [name])) (.error e) = [] := rfl
      rw [hnone, List.append_nil] at h
      rw [List.flatMap_append, List.flatMap_cons, hcn, List.flatMap_nil, List.append_nil, List.append_nil]
      exact h
    · have hcn : child name = walkPlan s w₀ (rooted ks) (rooted (qs ++ [name])) k depth := by
        rw [hchild name k (hjoin ▸ hst), hjoin]
      have hlonger : qs ++ [name] ≠ ks := fun h => by
        have hle := hpre.length_le
        rw [← h, List.length_append, List.length_singleton] at hle
        omega
      rw [hcn] at hout₂
      refine TripleT.bind ((ih (qs ++ [name]) k _ hqn (hpre.trans (List.prefix_append _ _))
        (fun h => absurd h hlonger) hout₂).at_state hex₂) fun _ => TripleT.pure fun t w h => ⟨rfl, ?_⟩
      rw [List.flatMap_append, List.flatMap_cons, hcn, List.flatMap_nil, List.append_nil, ← List.append_assoc]
      exact h

theorem compileDir_run (hdir : w₀.stat (rooted ks) = .ok .directory)
    (hout : TargetsOutside s (rooted ds) ks (dirPlan s w₀ (rooted ks))) :
    Triple (· = w₀) (compileDir s j (rooted ks) (rooted ds)) fun r w =>
      Exports s (rooted ds) (ToldUnwritten r) (dirPlan s w₀ (rooted ks)) w₀ w := by
  have hplan : dirPlan s w₀ (rooted ks) = walkPlan s w₀ (rooted ks) (rooted ks) .directory walkLevels := by
    rw [dirPlan, hdir]
  rw [hplan] at hout ⊢
  unfold compileDir
  dsimp only
  refine Triple.bind (TripleT.run (P := fun t w => t = {} ∧ w = w₀) (Q := fun _ t w =>
      Exports s (rooted ds) (ToldUnwritten t.errs) (walkPlan s w₀ (rooted ks) (rooted ks) .directory walkLevels) w₀ w)
      ?_ _ |>.weaken fun w hw' => ⟨rfl, hw'⟩) fun res => ?_
  · refine TripleT.ask_bind (Memory.stat · (rooted ks)) (fun _ _ => rfl) fun t w h => ?_
    obtain ⟨ht, hw'⟩ := h
    subst t w
    rw [hdir]
    refine (walkTree_run hj hs hds hw hwr hman walkLevels ks .directory [] hks (List.prefix_refl ks)
      (fun _ => rfl) (by rwa [List.nil_append])).weaken (fun t w h => h.2) |>.conseq
      fun _ t w h => by rwa [List.nil_append] at h
  obtain ⟨⟨⟩, tally⟩ := res
  dsimp only
  split
  · exact Triple.bind (hj.triple_say _ _ _ _ _) fun _ => Triple.pure fun w h => h
  · exact Triple.pure fun w h => h

end Walk

/-! ### The search for the source -/

/-- Where the search for the source `rooted ks` stands: at the source itself, at a directory above
it after a name was cut off, or past the root. -/
def Searching (ks : List Bytes) (head tail : Bytes) : Prop :=
  (head = rooted ks ∧ tail = []) ∨
    (tail ≠ [] ∧ ∃ qs, (∀ k ∈ qs, IsName k) ∧ head = if qs = [] then [slash] else rooted qs ++ [slash]) ∨
    head = []

theorem split_rooted_concat (qs : List Bytes) {k : Bytes} (hk : IsName k) :
    Path.split (rooted (qs ++ [k])) = ((if qs = [] then [slash] else rooted qs ++ [slash]), k) := by
  obtain ⟨x, -, hx, hxs⟩ := rooted_append_single_cases qs k
  rw [hx, split_append_sep hk.2.1, hxs]

section Search

variable {ks : List Bytes}

theorem searching_split {qs : List Bytes} (hqs : ∀ k ∈ qs, IsName k) (hne : qs ≠ []) :
    Searching ks (Path.split (rooted qs)).1 (Path.split (rooted qs)).2 := by
  rcases List.eq_nil_or_concat' qs with rfl | ⟨qs', k, rfl⟩
  · exact absurd rfl hne
  have hk := hqs k (by simp)
  rw [split_rooted_concat qs' hk]
  exact .inr (.inl ⟨hk.1, qs', fun k' hk' => hqs k' (by simp [hk']), rfl⟩)

variable (hks : ∀ k ∈ ks, IsName k) (hne : ks ≠ [])
include hks hne

theorem Searching.next {head tail : Bytes} (h : Searching ks head tail) (hhead : head ≠ []) :
    Searching ks (Path.split (Bytes.dropSuffix head [slash])).1 (Path.split (Bytes.dropSuffix head [slash])).2 := by
  rcases h with ⟨rfl, -⟩ | ⟨-, qs, hqs, rfl⟩ | rfl
  · rw [dropSuffix_rooted hks, if_neg hne]
    exact searching_split hks hne
  · by_cases hq : qs = []
    · -- the root was tried: the search is past it
      rw [if_pos hq]
      exact .inr (.inr rfl)
    · rw [if_neg hq, dropSuffix_append_slash]
      exact searching_split hqs hq
  · exact absurd rfl hhead

theorem Searching.source {head tail : Bytes} (h : Searching ks head tail) (hhead : head ≠ []) (htail : tail = []) :
    Bytes.dropSuffix head [slash] = rooted ks := by
  rcases h with ⟨rfl, -⟩ | ⟨htail', -⟩ | rfl
  · rw [dropSuffix_rooted hks, if_neg hne]
  · exact absurd htail htail'
  · exact absurd rfl hhead

end Search

theorem within_run {s : Settings} {dst : Bytes} {ins : List Input} {w₀ : Memory} {x : InMemory (Option Failure)}
    (lead : Bytes) (h : Triple (· = w₀) x fun r w => Exports s dst (ToldUnwritten r) ins w₀ w) :
    Triple (· = w₀) (x >>= fun r => match r with
        | none => pure none
        | some e => pure (some (Failure.within lead e)))
      fun r w => Exports s dst (ToldUnwritten r) ins w₀ w := by
  refine Triple.bind h fun r => ?_
  rcases r with _ | e
  · exact Triple.pure fun w h => h
  · exact Triple.pure fun w h => h.mono fun _ ht => ht.within lead

section Locate

variable {j : Journal InMemory} (hj : j.Inert) {s : Settings} (hs : Java.isIdentifier s.tableName = true)
  {ds : List Bytes} (hds : ∀ k ∈ ds, IsName k) {w₀ : Memory} (hw : w₀.Sound) (hwr : w₀.readOnly = false)
  {ks : List Bytes} (hks : ∀ k ∈ ks, IsName k) (hne : ks ≠ [])
  (hdir : w₀.stat (rooted ks) = .ok .directory →
    Descends s.config.input.manifestFileName ∧ TargetsOutside s (rooted ds) ks (dirPlan s w₀ (rooted ks)))
include hj hs hds hw hwr hks hne hdir

theorem locate_run : ∀ fuel head tail, Searching ks head tail →
    Triple (· = w₀) (locate s j (rooted ks) (rooted ds) head tail fuel) fun r w =>
      Exports s (rooted ds) (ToldUnwritten r) (locatePlan s w₀ (rooted ks) head tail fuel) w₀ w := by
  intro fuel
  induction fuel with
  | zero =>
    intro head tail _
    exact Triple.pure fun w hw' => hw'
  | succ fuel ih =>
    intro head tail hsearch
    rw [locate, locatePlan]
    by_cases he : head.isEmpty = true
    · rw [if_pos he, if_pos he]
      exact Triple.pure fun w hw' => hw'
    rw [if_neg he, if_neg he]
    have hhead : head ≠ [] := fun h => he (by rw [h]; rfl)
    dsimp only
    refine Triple.bind (triple_stat w₀ _) fun a => Triple.of_prop fun ha => ?_
    subst ha
    rcases hst : w₀.stat (head.dropSuffix [slash]) with e | k
    · exact ih _ _ (hsearch.next hks hne hhead)
    rcases k
    · -- a regular file: an archive, or a symbol file asked for by name
      refine Triple.bind (triple_isArchive w₀) fun a => Triple.of_prop fun ha => ?_
      subst ha
      rcases hta : w₀.answer (isArchive s.config.extensions (head.dropSuffix [slash])) with e | _ | _
      · exact Triple.pure fun w hw' => hw'
      · dsimp only
        by_cases ht : (!tail.isEmpty) = true
        · rw [if_pos ht, if_pos ht]
          exact Triple.pure fun w hw' => hw'
        · rw [if_neg ht, if_neg ht]
          exact compileFile_run hj hs hds hw hwr _ _
      · exact within_run _ (compileArchive_run hj hs hds hw hwr _ _ _)
    · -- a directory, which must be the source itself
      dsimp only
      by_cases ht : (!tail.isEmpty) = true
      · rw [if_pos ht, if_pos ht]
        exact Triple.pure fun w hw' => hw'
      rw [if_neg ht, if_neg ht]
      have hsrc := hsearch.source hks hne hhead (by simpa using ht)
      rw [hsrc] at hst ⊢
      obtain ⟨hman, hout⟩ := hdir hst
      exact within_run _ (compileDir_run hj hs hds hw hwr hks hman hst hout)
    · exact Triple.pure fun w hw' => hw'
    · exact Triple.pure fun w hw' => hw'

theorem compileSource_run :
    Triple (· = w₀) (compileSource s j (rooted ks) (rooted ds)) fun r w =>
      Exports s (rooted ds) (ToldUnwritten r) (plan s w₀ (rooted ks)) w₀ w :=
  locate_run hj hs hds hw hwr hks hne hdir _ _ _ (.inl ⟨rfl, rfl⟩)

end Locate

end Compile

end ResourceSymbols
