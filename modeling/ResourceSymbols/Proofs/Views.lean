import ResourceSymbols.Proofs.Writes

namespace ResourceSymbols

open ResourceSymbols.Path Memory

namespace Memory

section Views

variable {w w' : Memory} {ks : List Bytes} (h : SameOn (under ks) w w')

include h

theorem get?_eq_of_sameOn {qs : List Bytes} (hqs : ∀ k ∈ qs, IsName k) (hpre : ks <+: qs) :
    w'.get? (rooted qs) = w.get? (rooted qs) := by
  rw [get?_rooted _ hqs, get?_rooted _ hqs, node?, node?, h.lookup_eq ((under_rooted hqs).2 hpre)]

theorem read_eq_of_sameOn {qs : List Bytes} (hqs : ∀ k ∈ qs, IsName k) (hpre : ks <+: qs) :
    w'.read (rooted qs) = w.read (rooted qs) := by
  simp only [read, find, get?_eq_of_sameOn h hqs hpre]

theorem stat_eq_of_sameOn {qs : List Bytes} (hqs : ∀ k ∈ qs, IsName k) (hpre : ks <+: qs) :
    w'.stat (rooted qs) = w.stat (rooted qs) := by
  simp only [stat, find, get?_eq_of_sameOn h hqs hpre]

end Views

theorem eq_append_of_parentKey {qs ms : List Bytes} (hqs : ∀ k ∈ qs, IsName k) (hms : ∀ k ∈ ms, IsName k)
    (hparent : parentKey (rooted ms) = rooted qs) (hne : rooted ms ≠ rooted qs) : ∃ x, ms = qs ++ [x] := by
  rcases List.eq_nil_or_concat' ms with rfl | ⟨ms', x, rfl⟩
  · rw [parentKey_root] at hparent
    exact absurd hparent hne
  · have hms' : ∀ k ∈ ms', IsName k := fun k hk => hms k (List.mem_append_left _ hk)
    rw [parentKey_rooted_append hms' (hms x (by simp))] at hparent
    exact ⟨x, by rw [rooted_inj hms' hqs hparent]⟩

theorem listable_eq_append {w : Memory} (hw : w.Rooted) {qs : List Bytes} (hqs : ∀ k ∈ qs, IsName k)
    {e : Bytes × Node} (he : e ∈ w.nodes) (hq : (e.1 != rooted qs && parentKey e.1 == rooted qs) = true) :
    ∃ x, IsName x ∧ e.1 = rooted (qs ++ [x]) := by
  obtain ⟨ms, hms, hk⟩ := hw e he
  simp only [Bool.and_eq_true, bne_iff_ne, ne_eq, beq_iff_eq, hk] at hq
  obtain ⟨x, rfl⟩ := eq_append_of_parentKey hqs hms hq.2 hq.1
  exact ⟨x, hms x (by simp), hk⟩

section Lists

variable {w w' : Memory} (hw : w.Rooted) (hw' : w'.Rooted) {ks : List Bytes} (h : AlikeBelow ks w w')
  {qs : List Bytes} (hqs : ∀ k ∈ qs, IsName k) (hpre : ks <+: qs)
include hw hw' h hqs hpre

theorem list_eq_of_alikeBelow : w'.list (rooted qs) = w.list (rooted qs) := by
  -- the nodes a directory there may list lie strictly below `rooted ks`
  have hsub : ∀ m : Memory, m.Rooted → ∀ U : List Bytes,
      m.nodes.filter (fun e => e.1 != rooted qs && parentKey e.1 == rooted qs && !U.contains e.1) =
        (m.nodes.filter fun e => under ks e.1).filter
          fun e => e.1 != rooted qs && parentKey e.1 == rooted qs && !U.contains e.1 := by
    intro m hm U
    rw [List.filter_filter]
    refine List.filter_congr fun e he => ?_
    cases hq : (e.1 != rooted qs && parentKey e.1 == rooted qs)
    · simp
    · obtain ⟨x, hx, hk⟩ := listable_eq_append hm hqs he hq
      have hunder : under ks e.1 = true := by
        rw [hk, under_rooted (List.forall_mem_append.2 ⟨hqs, by simpa using hx⟩)]
        exact hpre.trans (List.prefix_append _ _)
      simp [hunder]
  -- and `w'` lists them as `w` does
  have hunl : w'.nodes.filter (fun e => e.1 != rooted qs && parentKey e.1 == rooted qs &&
        !w'.unlisted.contains e.1) =
      w'.nodes.filter fun e => e.1 != rooted qs && parentKey e.1 == rooted qs && !w.unlisted.contains e.1 := by
    refine List.filter_congr fun e he => ?_
    cases hq : (e.1 != rooted qs && parentKey e.1 == rooted qs)
    · simp
    · obtain ⟨x, hx, hk⟩ := listable_eq_append hw' hqs he hq
      have hqx : ∀ k ∈ qs ++ [x], IsName k := List.forall_mem_append.2 ⟨hqs, by simpa using hx⟩
      have hne : qs ++ [x] ≠ ks := fun h' => by
        have := congrArg List.length h'
        have := hpre.length_le
        simp at *
        omega
      rw [hk, h.listed _ hqx (hpre.trans (List.prefix_append _ _)) hne (isSome_node?_of_mem he hk)]
  have hfind : w'.find (rooted qs) = w.find (rooted qs) := by
    simp only [find, get?_eq_of_sameOn h.same hqs hpre]
  unfold list children
  simp only [key_rooted hqs]
  rw [hfind, hunl, hsub w' hw', hsub w hw, h.same]

end Lists

theorem names_of_list {w : Memory} (hw : w.Rooted) {qs : List Bytes} (hqs : ∀ k ∈ qs, IsName k)
    {names : List Bytes} (h : w.list (rooted qs) = .ok names) : ∀ n ∈ names, IsName n := by
  intro n hn
  unfold list at h
  simp only [key_rooted hqs] at h
  rcases hf : w.find (rooted qs) with e | node
  · rw [hf] at h
    cases h
  rw [hf] at h
  simp only [bind, Except.bind] at h
  split at h
  · rw [← Except.ok.inj h, List.mem_mergeSort, List.mem_map] at hn
    obtain ⟨k, hk, rfl⟩ := hn
    obtain ⟨e, he, rfl⟩ := List.mem_map.1 hk
    obtain ⟨he, hq⟩ := List.mem_filter.1 he
    obtain ⟨x, hx, hkx⟩ := listable_eq_append hw hqs he (by simp only [Bool.and_eq_true] at hq; simp [hq.1])
    rw [hkx, base_rooted_append _ hx]
    exact hx
  · cases h

end Memory

/-! ### Questions answered from the memory as it is -/

section Answers

variable {α : Type} {p : Bytes} {k : Except FsError Delivery → InMemory α}

theorem answer_readFile_bind (hk : ∀ r w w', ((k r).run w).1 = ((k r).run w').1) {w w' : Memory}
    (h : w'.read p = w.read p) : w'.answer (Host.readFile p >>= k) = w.answer (Host.readFile p >>= k) := by
  show ((k (w'.read p)).run w').1 = ((k (w.read p)).run w).1
  rw [h]
  exact hk _ _ _

theorem triple_readFile_bind (hk : ∀ r w, ((k r).run w).2 = w) (w : Memory) :
    Triple (· = w) (Host.readFile p >>= k) fun a w' => a = w.answer (Host.readFile p >>= k) ∧ w' = w := by
  rintro _ rfl
  exact ⟨rfl, hk _ _⟩

end Answers

namespace Compile

variable {exts : List Bytes} {path : Bytes}

theorem answer_isArchive_eq {w w' : Memory} (h : w'.read path = w.read path) :
    w'.answer (isArchive exts path) = w.answer (isArchive exts path) := by
  unfold isArchive
  dsimp only
  split
  · rfl
  · refine answer_readFile_bind (fun r w w' => ?_) h
    rcases r with e | d
    · rfl
    · dsimp only
      split
      · split <;> (try split) <;> rfl
      · split <;> rfl

theorem triple_isArchive (w : Memory) :
    Triple (· = w) (isArchive exts path) fun a w' => a = w.answer (isArchive exts path) ∧ w' = w := by
  unfold isArchive
  dsimp only
  split
  · exact fun _ h => ⟨by rw [h]; rfl, h⟩
  · refine triple_readFile_bind (fun r w => ?_) w
    rcases r with e | d
    · rfl
    · dsimp only
      split
      · split <;> (try split) <;> rfl
      · split <;> rfl

variable {name : Bytes}

theorem answer_packageNextTo_eq {w w' : Memory}
    (h : w'.read (Path.join [Path.dir path, name]) = w.read (Path.join [Path.dir path, name])) :
    w'.answer (Manifest.packageNextTo path name) = w.answer (Manifest.packageNextTo path name) := by
  unfold Manifest.packageNextTo
  refine answer_readFile_bind (fun r w w' => ?_) h
  rcases r with e | d <;> rfl

theorem triple_packageNextTo (w : Memory) :
    Triple (· = w) (Manifest.packageNextTo path name) fun a w' =>
      a = w.answer (Manifest.packageNextTo path name) ∧ w' = w := by
  unfold Manifest.packageNextTo
  refine triple_readFile_bind (fun r w => ?_) w
  rcases r with e | d <;> rfl

/-! ### Plans alike below a directory -/

section Plans

variable {s : Settings} {w w' : Memory} {ks : List Bytes} (h : SameOn (under ks) w w')
  {ps : List Bytes} {x : Bytes} (hps : ∀ k ∈ ps ++ [x], IsName k) (hpre : ks <+: ps)
  (hman : Descends s.config.input.manifestFileName)
include h hps hpre

theorem read_eq_below : w'.read (rooted (ps ++ [x])) = w.read (rooted (ps ++ [x])) :=
  read_eq_of_sameOn h hps (hpre.trans (List.prefix_append _ _))

theorem archivePlan_eq (pfx pathOut : Bytes) :
    archivePlan s w' (rooted (ps ++ [x])) pfx pathOut = archivePlan s w (rooted (ps ++ [x])) pfx pathOut := by
  simp only [archivePlan, read_eq_below h hps hpre]

include hman

theorem fileInput_eq (rel : Bytes) :
    fileInput s w' (rooted (ps ++ [x])) rel = fileInput s w (rooted (ps ++ [x])) rel := by
  have hps' : ∀ k ∈ ps, IsName k := fun k hk => hps k (List.mem_append_left _ hk)
  -- the manifest beside the file is below the directory too
  have hman' : Path.join [Path.dir (rooted (ps ++ [x])), s.config.input.manifestFileName] =
      rooted (ps ++ elements s.config.input.manifestFileName) := by
    rw [dir_rooted_append hps' (hps x (by simp)), join_rooted hps' hman]
  have hnames : ∀ k ∈ ps ++ elements s.config.input.manifestFileName, IsName k :=
    List.forall_mem_append.2 ⟨hps', fun k hk => isName_of_mem_elements hman hk⟩
  have hpkg : w'.answer (Manifest.packageNextTo (rooted (ps ++ [x])) s.config.input.manifestFileName) =
      w.answer (Manifest.packageNextTo (rooted (ps ++ [x])) s.config.input.manifestFileName) :=
    answer_packageNextTo_eq (by rw [hman']; exact read_eq_of_sameOn h hnames (hpre.trans (List.prefix_append _ _)))
  simp only [fileInput, hpkg, read_eq_below h hps hpre]

theorem visitPlan_eq (dir : Bytes) (kind : Except FsError Kind) :
    visitPlan s w' dir (rooted (ps ++ [x])) kind = visitPlan s w dir (rooted (ps ++ [x])) kind := by
  rcases kind with e | k
  · rfl
  · simp only [visitPlan, answer_isArchive_eq (read_eq_below h hps hpre), archivePlan_eq h hps hpre,
      fileInput_eq h hps hpre hman]

end Plans

theorem visitPlan_eq_of_prefix {s : Settings} {w w' : Memory} {ks qs : List Bytes} {kind : Kind}
    (h : SameOn (under ks) w w') (hqs : ∀ k ∈ qs, IsName k) (hpre : ks <+: qs)
    (hroot : qs = ks → kind = .directory) (hman : Descends s.config.input.manifestFileName) (dir : Bytes) :
    visitPlan s w' dir (rooted qs) (.ok kind) = visitPlan s w dir (rooted qs) (.ok kind) := by
  by_cases hq : qs = ks
  · rw [hroot hq]
    rfl
  -- a path strictly below the directory is a name in a directory below it
  rcases List.eq_nil_or_concat' qs with rfl | ⟨ps, x, rfl⟩
  · exact absurd (List.prefix_nil.1 hpre).symm hq
  rcases List.prefix_concat_iff.1 hpre with heq | hps
  · exact absurd heq.symm hq
  exact visitPlan_eq h hqs hps hman dir _

end Compile

end ResourceSymbols
