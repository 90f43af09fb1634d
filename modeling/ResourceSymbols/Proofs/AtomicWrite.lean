import ResourceSymbols.Proofs.Tree
import ResourceSymbols.Proofs.Outputs
import ResourceSymbols.Compile.Command

namespace ResourceSymbols

open ResourceSymbols.Path Memory

namespace Memory

/-! ### Memories with the same filesystem -/

theorem Sound.of_nodes {w w' : Memory} (hw : w.Sound) (h : w'.nodes = w.nodes) : w'.Sound := by
  have hnode : ∀ ks, w'.node? ks = w.node? ks := fun ks => by simp only [node?, h]
  refine ⟨fun e he => hw.rooted e (h ▸ he), fun e he hk ks x hks hx => ?_⟩
  rw [hnode]
  exact hw.closed e (h ▸ he) hk ks x hks hx

/-- `w'` holds the filesystem `w` holds: the same nodes, listed alike, and the same refusal of
changes. -/
structure SameFs (w w' : Memory) : Prop where
  nodes : w'.nodes = w.nodes
  unlisted : w'.unlisted = w.unlisted
  readOnly : w'.readOnly = w.readOnly

theorem SameFs.refl (w : Memory) : SameFs w w := ⟨rfl, rfl, rfl⟩

theorem SameFs.trans {w₁ w₂ w₃ : Memory} (h₁ : SameFs w₁ w₂) (h₂ : SameFs w₂ w₃) : SameFs w₁ w₃ :=
  ⟨h₂.nodes.trans h₁.nodes, h₂.unlisted.trans h₁.unlisted, h₂.readOnly.trans h₁.readOnly⟩

theorem Shift.of_sameFs {C : Bytes → Prop} {w₀ w w' : Memory} (h : Shift C w w') (hs : SameFs w₀ w) :
    Shift C w₀ w' :=
  ⟨h.sound, h.readOnly.trans hs.readOnly, fun P hP => by
    have hsame := h.same P hP
    unfold SameOn at hsame ⊢
    rw [hsame, hs.nodes],
    fun k hk hC hpC => by rw [h.listed k hk hC hpC, hs.unlisted]⟩

theorem SameFs.shift {C : Bytes → Prop} {w w' : Memory} (hw : w.Sound) (hs : SameFs w w') : Shift C w w' :=
  ⟨hw.of_nodes hs.nodes, hs.readOnly, fun P _ => by unfold SameOn; rw [hs.nodes],
    fun _ _ _ _ => by rw [hs.unlisted]⟩

theorem sound_default : ({} : Memory).Sound := by
  refine ⟨fun e he => ⟨[], by simp, by simp at he; rw [he]; rfl⟩, fun e he _ ks x hks hk => ?_⟩
  simp only [List.mem_singleton] at he
  subst he
  -- the root is no name below a directory
  have h : rooted [] = rooted (ks ++ [x]) := hk
  exact absurd (rooted_inj (by simp) hks h) (by simp)

/-! ### Changes that only make directories -/

/-- Since `w`, the memory `w'` changed no name but those `C` holds, except by making a directory
where there was nothing. -/
def DirsOnly (C : Bytes → Prop) (w w' : Memory) : Prop :=
  ∀ k, ¬ C k → w'.nodes.lookup k = w.nodes.lookup k ∨
    (w.nodes.lookup k = none ∧ w'.nodes.lookup k = some .dir)

namespace DirsOnly

variable {C C' : Bytes → Prop} {w₁ w₂ w₃ : Memory}

theorem refl (C : Bytes → Prop) (w : Memory) : DirsOnly C w w := fun _ _ => .inl rfl

theorem trans (h₁ : DirsOnly C w₁ w₂) (h₂ : DirsOnly C w₂ w₃) : DirsOnly C w₁ w₃ := by
  intro k hk
  rcases h₂ k hk with h | ⟨hnone, hdir⟩
  · rw [h]
    exact h₁ k hk
  · -- a directory made where the middle memory had nothing, and so the first
    rcases h₁ k hk with h | ⟨hnone₁, -⟩
    · exact .inr ⟨h.symm.trans hnone, hdir⟩
    · exact .inr ⟨hnone₁, hdir⟩

theorem mono (h : DirsOnly C w₁ w₂) (hC : ∀ k, C k → C' k) : DirsOnly C' w₁ w₂ :=
  fun k hk => h k fun hc => hk (hC k hc)

theorem of_nodes (h : w₂.nodes = w₁.nodes) : DirsOnly C w₁ w₂ := fun _ _ => .inl (by rw [h])

theorem drop_same {k₀ : Bytes} (h : DirsOnly (fun k => C k ∨ k = k₀) w₁ w₂)
    (hk₀ : w₂.nodes.lookup k₀ = w₁.nodes.lookup k₀) : DirsOnly C w₁ w₂ := by
  intro k hk
  by_cases hk' : k = k₀
  · exact .inl (hk' ▸ hk₀)
  · exact h k fun h' => h'.elim hk hk'

theorem lookup_eq (h : DirsOnly C w₁ w₂) {k : Bytes} (hk : ¬ C k) (hheld : (w₁.nodes.lookup k).isSome) :
    w₂.nodes.lookup k = w₁.nodes.lookup k := by
  rcases h k hk with h | ⟨hnone, -⟩
  · exact h
  · rw [hnone] at hheld
    cases hheld

end DirsOnly

theorem Shift.dirsOnly {C : Bytes → Prop} {w w' : Memory} (h : Shift C w w') : DirsOnly C w w' :=
  fun _ hk => .inl (h.lookup_eq hk)

theorem lookup_put_dir {w : Memory} {k : Bytes} (hk : w.nodes.lookup k = none) (k' : Bytes) :
    (w.put k .dir).nodes.lookup k' = w.nodes.lookup k' ∨
      (w.nodes.lookup k' = none ∧ (w.put k .dir).nodes.lookup k' = some .dir) := by
  rw [lookup_put]
  split
  · rename_i h
    subst h
    exact .inr ⟨hk, rfl⟩
  · exact .inl rfl

theorem dirsOnly_attach : ∀ (fuel : Nat) (w : Memory) (k : Bytes), DirsOnly (fun _ => False) w (w.attach k fuel)
  | 0, _, _ => DirsOnly.refl _ _
  | fuel + 1, w, k => by
    unfold attach
    dsimp only
    split
    · exact DirsOnly.of_nodes rfl
    · split
      · exact DirsOnly.of_nodes rfl
      · rename_i hnone
        have hput : DirsOnly (fun _ => False) w ((w.enlist k).put (parentKey k) .dir) :=
          fun k' _ => lookup_put_dir (w := w.enlist k) hnone k'
        exact hput.trans (dirsOnly_attach fuel _ _)

theorem dirsOnly_place (w : Memory) (k : Bytes) (n : Node) : DirsOnly (· = k) w (w.place k n) := by
  have hput : DirsOnly (· = k) w (w.put k n) := fun k' hk' => .inl (by rw [lookup_put, if_neg hk'])
  exact hput.trans ((dirsOnly_attach _ _ k).mono fun _ h => h.elim)

theorem dirsOnly_makeDirs {w w' : Memory} {p : Bytes} (h : w.makeDirs p = .ok w') :
    DirsOnly (fun _ => False) w w' := by
  unfold makeDirs at h
  split at h
  · cases h
  · split at h <;> cases h
    · exact DirsOnly.refl _ _
    · rename_i hnone
      have hput : DirsOnly (fun _ => False) w (w.put (key p) .dir) := fun k' _ => lookup_put_dir hnone k'
      exact hput.trans (dirsOnly_attach _ _ _)

theorem dirsOnly_createNew {w w' : Memory} {p : Bytes} (h : w.createNew p = .ok w') :
    DirsOnly (· = key p) w w' := by
  unfold createNew at h
  split at h
  · cases h
  · split at h <;> cases h
    exact dirsOnly_place w (key p) _

theorem writable_of_createNew {w w' : Memory} {p : Bytes} (h : w.createNew p = .ok w') :
    w.readOnly = false := by
  unfold createNew at h
  split at h
  · cases h
  · simpa using ‹¬w.readOnly = true›

theorem dirsOnly_rename_leaf {os ns : List Bytes} {w w' : Memory} (hw : w.Sound) (hos : ∀ k ∈ os, IsName k)
    (hns : ∀ k ∈ ns, IsName k) (hleaf : w.Leaf os) (hnot : ¬ os <+: ns)
    (h : w.rename (rooted os) (rooted ns) = .ok w') :
    DirsOnly (fun k => k = rooted os ∨ k = rooted ns) w w' := by
  have hkn : rooted ns ≠ rooted os := fun h' => hnot (rooted_inj hns hos h' ▸ List.prefix_refl os)
  obtain ⟨-, M, hM, -, -, rfl⟩ := rename_leaf_eq hw.rooted hos hns hleaf hkn h
  intro k hk
  have hko : k ≠ rooted os := fun e => hk (.inl e)
  have hkn' : k ≠ rooted ns := fun e => hk (.inr e)
  -- the other names keep their nodes in the renamed list, and the directories above the new
  -- name are made
  have hsame : M.nodes.lookup k = w.nodes.lookup k := by
    have hs : SameOn (· == k) w M := by
      unfold SameOn
      rw [hM]
      exact sameOn_renamed (P := (· == k)) (by simpa using hko.symm) (by simpa using hkn'.symm) w.nodes
    exact hs.lookup_eq (by simp)
  rcases dirsOnly_attach _ M (rooted ns) k id with h' | ⟨hnone, hdir⟩
  · exact .inl (h'.trans hsame)
  · exact .inr ⟨hsame.symm.trans hnone, hdir⟩

theorem Shift.drop_free {C : Bytes → Prop} {w₀ w : Memory} {os : List Bytes}
    (h : Shift (fun k => C k ∨ k = rooted os) w₀ w) (h₀ : w₀.node? os = none) (h₁ : w.node? os = none) :
    Shift C w₀ w := by
  -- a held name is not the free one, nor is its directory
  have hnot : ∀ k, (w.nodes.lookup k).isSome → k ≠ rooted os := fun k hk hko => by
    rw [hko] at hk
    change (w.node? os).isSome at hk
    rw [h₁] at hk
    cases hk
  refine ⟨h.sound, h.readOnly, fun P hP => ?_, fun k hk hC hpC =>
    h.listed k hk (fun h' => h'.elim hC (hnot k hk)) fun h' => h'.elim hpC (hnot _ (h.sound.parentKey_held hk))⟩
  -- no entry of either memory has the free name, so leaving it out of `P` changes no filter
  have hfree : ∀ v : Memory, v.node? os = none →
      v.nodes.filter (fun e => P e.1) = v.nodes.filter fun e => P e.1 && e.1 != rooted os := by
    intro v hv
    refine List.filter_congr fun e he => ?_
    have hne : e.1 ≠ rooted os := fun hk => by
      have := List.lookup_eq_none_iff.1 hv e he
      simp [hk] at this
    simp [hne]
  have hsame := h.same (fun k => P k && k != rooted os) fun k hk => by
    rcases hk with hk | rfl
    · simp [hP k hk]
    · simp
  unfold SameOn at hsame ⊢
  rw [hfree w h₁, hfree w₀ h₀]
  exact hsame

theorem remove_ne_error {w : Memory} {ks : List Bytes} (hks : ∀ k ∈ ks, IsName k) {n : Node}
    (hwr : w.readOnly = false) (hn : w.node? ks = some n) (e : FsError) :
    w.remove (rooted ks) ≠ .error e := by
  intro h
  unfold remove at h
  rw [key_rooted hks, if_neg (by simp [hwr])] at h
  dsimp only at h
  rw [show w.nodes.lookup (rooted ks) = some n from hn] at h
  cases h

end Memory

/-! ### Temporary files -/

def Files.tmpName (f : Bytes) (r : Nat) : Bytes :=
  [46] ++ f ++ [46] ++ Files.nineDigits r ++ Bytes.ofString ".tmp"

theorem Files.join_tmp {Ds : List Bytes} (hDs : ∀ k ∈ Ds, IsName k) {f : Bytes} (hf : IsName f) (r : Nat) :
    Path.join [rooted Ds, [46] ++ f ++ [46] ++ Files.nineDigits r ++ Bytes.ofString ".tmp"] =
      rooted (Ds ++ [Files.tmpName f r]) := by
  have hn := isName_tmp hf r
  rw [join_rooted hDs hn.descends, hn.elements_eq]
  rfl

theorem Files.tmpName_ne {f : Bytes} (r : Nat) : Files.tmpName f r ≠ f := by
  intro h
  have hlen := congrArg List.length h
  simp [Files.tmpName] at hlen
  omega

theorem triple_chmod {P : Memory → Prop} (p : Bytes) :
    Triple P (Host.chmod p : InMemory _) fun _ w => P w := by
  refine Triple.change (fun w hw w' hc => ?_) fun w hw _ _ => hw
  rw [chmod_eq hc]
  exact hw

theorem triple_random {P : Memory → Prop} :
    Triple P (Host.random : InMemory Nat) fun _ w => ∃ w', P w' ∧ SameFs w' w :=
  fun w hw => ⟨w, hw, rfl, rfl, rfl⟩

def Faulty (α : Type) : Type := ReaderT (Change → Option FsError) InMemory α

namespace Faulty

variable {α β : Type}

instance : Monad Faulty := inferInstanceAs (Monad (ReaderT (Change → Option FsError) InMemory))

instance : LawfulMonad Faulty := inferInstanceAs (LawfulMonad (ReaderT (Change → Option FsError) InMemory))

def run (x : Faulty α) (refuse : Change → Option FsError) : InMemory α := x refuse

def ask (x : InMemory α) : Faulty α := fun _ => x

def guard (c : Change) (x : InMemory (Except FsError Unit)) : Faulty (Except FsError Unit) :=
  fun refuse => (refuse c).elim x fun e => pure (.error e)

instance : Host Faulty where
  stat p := ask (Host.stat p)
  lstat p := ask (Host.lstat p)
  statTime p := ask (Host.statTime p)
  readFile p := ask (Host.readFile p)
  readDir p := ask (Host.readDir p)
  makeDirs p := guard (.makeDirs p) (Host.makeDirs p)
  createNew p := guard (.createNew p) (Host.createNew p)
  create p := guard (.create p) (Host.create p)
  openAppend p := guard (.openAppend p) (Host.openAppend p)
  append p d := guard (.append p) (Host.append p d)
  chmod p := guard (.chmod p) (Host.chmod p)
  rename a b := guard (.rename a b) (Host.rename a b)
  remove p := guard (.remove p) (Host.remove p)
  toStdout d := ask (Host.toStdout d)
  toStderr d := ask (Host.toStderr d)
  workDir := ask Host.workDir
  tempDir := ask Host.tempDir
  now := ask Host.now
  random := ask Host.random

variable (refuse : Change → Option FsError)

@[simp] theorem run_pure (a : α) : (pure a : Faulty α).run refuse = pure a := rfl

@[simp] theorem run_bind (x : Faulty α) (f : α → Faulty β) :
    (x >>= f).run refuse = x.run refuse >>= fun a => (f a).run refuse := rfl

@[simp] theorem run_ask (x : InMemory α) : (ask x).run refuse = x := rfl

theorem triple_guard {c : Change} {x : InMemory (Except FsError Unit)} {P : Memory → Prop}
    {Q : Except FsError Unit → Memory → Prop} (hx : refuse c = none → Triple P x Q)
    (hrefused : ∀ e, refuse c = some e → ∀ w, P w → Q (.error e) w) :
    Triple P ((guard c x).run refuse) Q := by
  intro w hw
  cases h : refuse c with
  | none =>
    simp only [run, guard, h, Option.elim]
    exact hx h w hw
  | some e =>
    simp only [run, guard, h, Option.elim]
    exact hrefused e h w hw

theorem triple_guard_change {c : Change} {f : Memory → Except FsError Memory} {P R : Memory → Prop}
    (h : refuse c = none → ∀ w, P w → ∀ w', f w = .ok w' → R w') :
    Triple P ((guard c (StateM.change f)).run refuse) fun res w =>
      (res = .ok () → R w) ∧ (res ≠ .ok () → P w) :=
  triple_guard refuse
    (fun hc => Triple.change (fun w hw w' hf => ⟨fun _ => h hc w hw w' hf, fun hne => absurd rfl hne⟩)
      fun w hw _ _ => ⟨fun h => absurd h (by simp), fun _ => hw⟩)
    fun _ _ w hw => ⟨fun h => absurd h (by simp), fun _ => hw⟩

theorem run_bind_congr {x : Faulty α} {y : InMemory α} {f : α → Faulty β} {g : α → InMemory β}
    (hx : x.run refuse = y) (hf : ∀ a, (f a).run refuse = g a) : (x >>= f).run refuse = y >>= g := by
  rw [run_bind, hx]
  exact congrArg (y >>= ·) (funext hf)

theorem createFresh_run_none (dir head tail : Bytes) : ∀ tries,
    (Files.createFresh dir head tail tries : Faulty _).run (fun _ => none) =
      (Files.createFresh dir head tail tries : InMemory _)
  | 0 => rfl
  | n + 1 => by
    rw [Files.createFresh, Files.createFresh]
    refine run_bind_congr _ rfl fun r => run_bind_congr _ rfl fun res => ?_
    rcases res with e | ⟨⟩
    · dsimp only
      split
      · exact createFresh_run_none dir head tail n
      · rfl
    · rfl

theorem replaceFile_run_none (path data : Bytes) :
    (Files.replaceFile path data : Faulty _).run (fun _ => none) = (Files.replaceFile path data : InMemory _) := by
  unfold Files.replaceFile
  refine run_bind_congr _ (createFresh_run_none _ _ _ _) fun res => ?_
  rcases res with e | t
  · rfl
  dsimp only
  -- past the temporary file, each step is a change the memory is asked for
  refine run_bind_congr _ rfl fun tmp => run_bind_congr _ rfl fun res => ?_
  rcases res with e | ⟨⟩
  · rfl
  refine run_bind_congr _ rfl fun res => ?_
  rcases res with e | ⟨⟩
  · rfl
  refine run_bind_congr _ rfl fun res => ?_
  rcases res with e | ⟨⟩ <;> rfl

theorem exportJava_run_none (t : Table) (dir : Bytes) (finalIds : Bool) :
    (Compile.exportJava t dir finalIds : Faulty _).run (fun _ => none) =
      (Compile.exportJava t dir finalIds : InMemory _) := by
  unfold Compile.exportJava
  refine run_bind_congr _ rfl fun res => ?_
  rcases res with e | ⟨⟩
  · rfl
  refine run_bind_congr _ (replaceFile_run_none _ _) fun res => ?_
  rcases res with e | ⟨⟩ <;> rfl

end Faulty

/-- What writing `data` to `target` did to `w₀`: only directories were made elsewhere, and the
target holds `data` when `done` and what it held otherwise. -/
structure Replaced (target data : Bytes) (done : Prop) (w₀ w : Memory) : Prop where
  shift : Shift (Above (elements target)) w₀ w
  dirs : DirsOnly (· = target) w₀ w
  written : done → w.get? target = some (.file data)
  kept : ¬ done → w.get? target = w₀.get? target

theorem Replaced.of_iff {target data : Bytes} {done done' : Prop} {w₀ w : Memory}
    (h : Replaced target data done w₀ w) (hd : done ↔ done') : Replaced target data done' w₀ w :=
  ⟨h.shift, h.dirs, fun h' => h.written (hd.2 h'), fun h' => h.kept fun h'' => h' (hd.1 h'')⟩

/-- While the temporary file beside `rooted (Ds ++ [f])` holds `d`: elsewhere only directories
were made since `w₀`, where its name was free. -/
structure TmpOnly (Ds : List Bytes) (f : Bytes) (r : Nat) (w₀ : Memory) (d : Bytes) (w : Memory) : Prop where
  shift : Shift (Above (Ds ++ [Files.tmpName f r])) w₀ w
  dirs : DirsOnly (· = rooted (Ds ++ [Files.tmpName f r])) w₀ w
  free : w₀.node? (Ds ++ [Files.tmpName f r]) = none
  file : w.node? (Ds ++ [Files.tmpName f r]) = some (.file d)
  leaf : w.Leaf (Ds ++ [Files.tmpName f r])
  writable : w.readOnly = false

def FreshTmp (Ds : List Bytes) (f : Bytes) (w₀ : Memory) : Except FsError Bytes → Memory → Prop
  | .ok t, w => ∃ r, t = rooted (Ds ++ [Files.tmpName f r]) ∧ TmpOnly Ds f r w₀ [] w
  | .error _, w => SameFs w₀ w

section Replace

variable (refuse : Change → Option FsError) {Ds : List Bytes} (hDs : ∀ k ∈ Ds, IsName k) {f : Bytes}
  (hf : IsName f)
include hDs hf

theorem names_tmp (r : Nat) : ∀ k ∈ Ds ++ [Files.tmpName f r], IsName k :=
  List.forall_mem_append.2 ⟨hDs, fun k hk => by rw [List.mem_singleton.1 hk]; exact isName_tmp hf r⟩

theorem createFresh_faulty {w₀ : Memory} (hw : w₀.Sound) : ∀ tries,
    Triple (SameFs w₀)
      ((Files.createFresh (rooted Ds) ([46] ++ f ++ [46]) (Bytes.ofString ".tmp") tries : Faulty _).run refuse)
      (FreshTmp Ds f w₀) := by
  intro tries
  induction tries with
  | zero => exact Triple.pure fun w hw' => hw'
  | succ n ih =>
    rw [Files.createFresh, Faulty.run_bind]
    refine Triple.bind triple_random fun r => ?_
    have hks := names_tmp hDs hf r
    dsimp only
    rw [Files.join_tmp hDs hf r, Faulty.run_bind]
    -- a refused or failed attempt leaves the filesystem as it was
    have hkept : ∀ w : Memory, (∃ w₁, SameFs w₀ w₁ ∧ SameFs w₁ w) → SameFs w₀ w := by
      intro w hw'
      obtain ⟨w₁, h₁, h⟩ := hw'
      exact h₁.trans h
    refine Triple.bind (Q := fun res w =>
      FreshTmp Ds f w₀ (res.map fun _ => rooted (Ds ++ [Files.tmpName f r])) w) ?_ fun res => ?_
    · refine Faulty.triple_guard refuse (fun _ => Triple.change (fun w hw' w' hc => ?_)
        fun w hw' _ _ => hkept w hw') fun _ _ w hw' => hkept w hw'
      have hfs := hkept w hw'
      obtain ⟨hfree, hshift, hfile, hleaf⟩ := createNew_rooted (hw.of_nodes hfs.nodes) hks hc
      have hdirs := dirsOnly_createNew hc
      rw [key_rooted hks] at hdirs
      refine ⟨r, rfl, hshift.of_sameFs hfs, (DirsOnly.of_nodes hfs.nodes).trans hdirs, ?_, hfile,
        hleaf, hshift.readOnly.trans (writable_of_createNew hc)⟩
      rw [← hfree]
      simp only [node?, hfs.nodes]
    · cases res with
      | ok u => exact Triple.pure fun w hw' => hw'
      | error e =>
        dsimp only
        split
        · exact ih
        · exact Triple.pure fun w hw' => hw'

section Tmp

variable {w₀ : Memory} {r : Nat}

theorem tmp_append_faulty (data : Bytes) :
    Triple (TmpOnly Ds f r w₀ []) ((Host.append (rooted (Ds ++ [Files.tmpName f r])) data : Faulty _).run refuse)
      fun res w => (res = .ok () → TmpOnly Ds f r w₀ data w) ∧ (res ≠ .ok () → TmpOnly Ds f r w₀ [] w) := by
  refine Faulty.triple_guard_change refuse fun _ w hw w' hc => ?_
  obtain ⟨happ, hnode⟩ := append_rooted hw.shift.sound (names_tmp hDs hf r) hc
  have hsame := happ.same (fun k => under (Ds ++ [Files.tmpName f r]) k && k != rooted (Ds ++ [Files.tmpName f r]))
    fun k hk => by simp [hk]
  refine ⟨hw.shift.trans (happ.mono fun k hk => ⟨_, List.prefix_refl _, hk⟩), hw.dirs.trans happ.dirsOnly,
    hw.free, by simpa using hnode [] hw.file, hw.leaf.of_sameOn hsame, happ.readOnly.trans hw.writable⟩

omit hDs hf in
theorem tmp_chmod_faulty {d : Bytes} :
    Triple (TmpOnly Ds f r w₀ d) ((Host.chmod (rooted (Ds ++ [Files.tmpName f r])) : Faulty _).run refuse)
      fun _ w => TmpOnly Ds f r w₀ d w :=
  Faulty.triple_guard refuse (fun _ => triple_chmod _) fun _ _ _ hw => hw

theorem tmp_rename_faulty {d : Bytes} :
    Triple (TmpOnly Ds f r w₀ d)
      ((Host.rename (rooted (Ds ++ [Files.tmpName f r])) (rooted (Ds ++ [f])) : Faulty _).run refuse)
      fun res w => (res = .ok () → Replaced (rooted (Ds ++ [f])) d True w₀ w) ∧
        (res ≠ .ok () → TmpOnly Ds f r w₀ d w) := by
  refine Faulty.triple_guard_change refuse fun _ w hw w' hc => ?_
  have hDf : ∀ k ∈ Ds ++ [f], IsName k := List.forall_mem_append.2 ⟨hDs, by simpa using hf⟩
  -- the temporary file is beside the target, not above it
  have hnot : ¬ Ds ++ [Files.tmpName f r] <+: Ds ++ [f] := by
    intro h
    have heq := h.eq_of_length (by simp)
    exact Files.tmpName_ne r (List.singleton_inj.1 (List.append_cancel_left heq))
  obtain ⟨hren, hnew, hold⟩ := rename_leaf hw.shift.sound (names_tmp hDs hf r) hDf hw.leaf hnot hc
  have hdirs := dirsOnly_rename_leaf hw.shift.sound (names_tmp hDs hf r) hDf hw.leaf hnot hc
  -- the temporary name was free before and is free again
  have hshift : Shift (Above (Ds ++ [f])) w₀ w' := by
    refine Shift.drop_free ((hw.shift.mono fun k hk => ?_).trans hren) hw.free hold
    obtain ⟨us, hus, rfl⟩ := hk
    rcases List.prefix_concat_iff.1 hus with rfl | hus
    · exact .inr rfl
    · exact .inl ⟨us, hus.trans (List.prefix_append _ _), rfl⟩
  have hdirs' : DirsOnly (· = rooted (Ds ++ [f])) w₀ w' := by
    refine DirsOnly.drop_same ((hw.dirs.mono fun k hk => .inr hk).trans (hdirs.mono fun k hk => hk.symm)) ?_
    exact hold.trans hw.free.symm
  refine ⟨by rw [elements_rooted hDf]; exact hshift, hdirs', fun _ => ?_, fun h => absurd trivial h⟩
  rw [get?_rooted _ hDf, hnew]
  exact hw.file

theorem tmp_remove_faulty (hrm : ∀ p, refuse (.remove p) = none) {d : Bytes} :
    Triple (TmpOnly Ds f r w₀ d) ((Host.remove (rooted (Ds ++ [Files.tmpName f r])) : Faulty _).run refuse)
      fun _ w => Shift (Above Ds) w₀ w ∧ DirsOnly (fun _ => False) w₀ w := by
  refine Faulty.triple_guard refuse (fun _ => Triple.change (fun w hw w' hc => ?_) fun w hw e he => ?_)
    fun e he => absurd (he.symm.trans (hrm _)) (by simp)
  · obtain ⟨hrem, hnone⟩ := remove_leaf hw.shift.sound (names_tmp hDs hf r) hw.leaf hc
    refine ⟨Shift.drop_free ((hw.shift.mono fun k hk => ?_).trans (hrem.mono fun k hk => .inr hk)) hw.free hnone,
      DirsOnly.drop_same ((hw.dirs.trans hrem.dirsOnly).mono fun k hk => .inr hk) (hnone.trans hw.free.symm)⟩
    obtain ⟨us, hus, rfl⟩ := hk
    rcases List.prefix_concat_iff.1 hus with rfl | hus
    · exact .inr rfl
    · exact .inl ⟨us, hus, rfl⟩
  · exact absurd he (remove_ne_error (names_tmp hDs hf r) hw.writable hw.file e)

end Tmp

theorem get?_target_of_shift {w₀ w : Memory} (hs : Shift (Above Ds) w₀ w) :
    w.get? (rooted (Ds ++ [f])) = w₀.get? (rooted (Ds ++ [f])) := by
  have hDf : ∀ k ∈ Ds ++ [f], IsName k := List.forall_mem_append.2 ⟨hDs, by simpa using hf⟩
  have hsame := hs.same (· == rooted (Ds ++ [f])) fun k ⟨us, hus, hk⟩ => by
    subst hk
    have hne : rooted us ≠ rooted (Ds ++ [f]) := fun h' => by
      have hlen := congrArg List.length (rooted_inj (fun k hk => hDs k (hus.subset hk)) hDf h')
      have := hus.length_le
      simp at hlen
      omega
    simpa using hne
  rw [get?_rooted _ hDf, get?_rooted _ hDf, node?, node?, hsame.lookup_eq (by simp)]

theorem Replaced.after_dirs {w₀ w₁ w : Memory} (hs : Shift (Above Ds) w₀ w₁)
    (hd : DirsOnly (fun _ => False) w₀ w₁) {data : Bytes} {done : Prop}
    (h : Replaced (rooted (Ds ++ [f])) data done w₁ w) : Replaced (rooted (Ds ++ [f])) data done w₀ w := by
  have hDf : ∀ k ∈ Ds ++ [f], IsName k := List.forall_mem_append.2 ⟨hDs, by simpa using hf⟩
  have hshift : Shift (Above (elements (rooted (Ds ++ [f])))) w₀ w := by
    have h₁ := h.shift
    rw [elements_rooted hDf] at h₁ ⊢
    exact (hs.mono fun k ⟨us, hus, hk⟩ => ⟨us, hus.trans (List.prefix_append _ _), hk⟩).trans h₁
  refine ⟨hshift, (hd.mono fun _ h => h.elim).trans h.dirs, h.written, fun hnd => ?_⟩
  rw [h.kept hnd, get?_target_of_shift hDs hf hs]

theorem Replaced.of_dirs {w₀ w : Memory} (hs : Shift (Above Ds) w₀ w) (hd : DirsOnly (fun _ => False) w₀ w)
    {done : Prop} (hnd : ¬ done) (data : Bytes) : Replaced (rooted (Ds ++ [f])) data done w₀ w :=
  Replaced.after_dirs hDs hf hs hd ⟨Shift.refl hs.sound, DirsOnly.refl _ _, fun h => absurd h hnd, fun _ => rfl⟩

theorem replaceFile_faulty (hrm : ∀ p, refuse (.remove p) = none) {w₀ : Memory} (hw : w₀.Sound)
    (data : Bytes) :
    Triple (· = w₀) ((Files.replaceFile (rooted (Ds ++ [f])) data : Faulty _).run refuse) fun res w =>
      Replaced (rooted (Ds ++ [f])) data (res = .ok ()) w₀ w := by
  unfold Files.replaceFile
  rw [dir_rooted_append hDs hf, base_rooted_append _ hf]
  simp only [Faulty.run_bind]
  refine Triple.bind ((createFresh_faulty refuse hDs hf hw 10000).weaken fun w hw' => hw' ▸ SameFs.refl w)
    fun res => ?_
  cases res with
  | error e =>
    -- no temporary file was made
    refine Triple.pure fun w hw' => Replaced.of_dirs hDs hf (hw'.shift hw)
      (DirsOnly.of_nodes hw'.nodes) (by simp) data
  | ok t =>
    refine Triple.weaken (Triple.of_exists fun r => Triple.of_prop fun ht => ?_) fun w hw' => hw'
    subst ht
    -- a failed step removes the temporary file and passes the failure on
    have hfail : ∀ d e, Triple (TmpOnly Ds f r w₀ d)
        ((do let _ ← Host.remove (rooted (Ds ++ [Files.tmpName f r])); pure (Except.error e) :
          Faulty (Except FsError Unit)).run refuse)
        fun res w => Replaced (rooted (Ds ++ [f])) data (res = .ok ()) w₀ w := by
      intro d e
      rw [Faulty.run_bind]
      exact Triple.bind (tmp_remove_faulty refuse hDs hf hrm) fun _ =>
        Triple.pure fun w hw' => Replaced.of_dirs hDs hf hw'.1 hw'.2 (by simp) data
    simp only [pure_bind, Faulty.run_bind]
    refine Triple.bind (tmp_append_faulty refuse hDs hf data) fun res => ?_
    rcases res with e | ⟨⟩
    · exact (hfail [] e).weaken fun w hw' => hw'.2 (by simp)
    refine Triple.weaken (P := TmpOnly Ds f r w₀ data) ?_ fun w hw' => hw'.1 rfl
    dsimp only
    rw [Faulty.run_bind]
    refine Triple.bind (tmp_chmod_faulty refuse) fun res => ?_
    rcases res with e | ⟨⟩
    · exact hfail data e
    dsimp only
    rw [Faulty.run_bind]
    refine Triple.bind (tmp_rename_faulty refuse hDs hf) fun res => ?_
    rcases res with e | ⟨⟩
    · exact (hfail data e).weaken fun w hw' => hw'.2 (by simp)
    exact Triple.pure fun w hw' => (hw'.1 rfl).of_iff (by simp)

omit hf in
theorem makeDirs_faulty {w₀ : Memory} (hw : w₀.Sound) :
    Triple (· = w₀) ((Host.makeDirs (rooted Ds) : Faulty _).run refuse) fun res w =>
      (res = .ok () → Shift (Above Ds) w₀ w ∧ DirsOnly (fun _ => False) w₀ w) ∧ (res ≠ .ok () → w = w₀) := by
  refine Faulty.triple_guard_change refuse fun _ w hw' w' hc => ?_
  subst hw'
  exact ⟨shift_makeDirs hw hDs hc, dirsOnly_makeDirs hc⟩

theorem writeSymbols_faulty (hrm : ∀ p, refuse (.remove p) = none) {w₀ : Memory} (hw : w₀.Sound)
    (t : Table) :
    Triple (· = w₀) ((Compile.writeSymbols t (rooted (Ds ++ [f])) : Faulty _).run refuse) fun res w =>
      Replaced (rooted (Ds ++ [f])) t.write (res = none) w₀ w := by
  unfold Compile.writeSymbols
  rw [dir_rooted_append hDs hf, Faulty.run_bind]
  refine Triple.bind (makeDirs_faulty refuse hDs hw) fun res => ?_
  rcases res with e | ⟨⟩
  · exact Triple.pure fun w hw' => by
      rw [hw'.2 (by simp)]
      exact Replaced.of_dirs hDs hf (Shift.refl hw) (DirsOnly.refl _ _) (by simp) _
  refine Triple.of_eq fun w₁ hw₁ => ?_
  obtain ⟨hs₁, hd₁⟩ := hw₁.1 rfl
  dsimp only
  rw [Faulty.run_bind]
  refine Triple.bind (replaceFile_faulty refuse hDs hf hrm hs₁.sound t.write) fun res => ?_
  rcases res with e | ⟨⟩
  · exact Triple.pure fun w hw' => (Replaced.after_dirs hDs hf hs₁ hd₁ hw').of_iff (by simp)
  · exact Triple.pure fun w hw' => (Replaced.after_dirs hDs hf hs₁ hd₁ hw').of_iff (by simp)

end Replace

section Writers

variable (refuse : Change → Option FsError)

theorem exportJava_faulty (hrm : ∀ p, refuse (.remove p) = none) {w₀ : Memory} (hw : w₀.Sound)
    {D : List Bytes} (hD : ∀ k ∈ D, IsName k) {t : Table} (ht : Java.isIdentifier t.name = true)
    (finalIds : Bool) :
    Triple (· = w₀) ((Compile.exportJava t (rooted D) finalIds : Faulty _).run refuse) fun res w =>
      Replaced (Path.join [rooted D, t.javaPath]) (t.java finalIds)
        (res = .ok (Path.join [rooted D, t.javaPath])) w₀ w := by
  obtain ⟨J, hJn, hf, htarget⟩ := javaTarget_rooted hD ht
  have hDJ : ∀ k ∈ D ++ J, IsName k := List.forall_mem_append.2 ⟨hD, hJn⟩
  unfold Compile.exportJava
  dsimp only
  rw [htarget, dir_rooted_append hDJ hf, Faulty.run_bind]
  refine Triple.bind (makeDirs_faulty refuse hDJ hw) fun res => ?_
  rcases res with e | ⟨⟩
  · exact Triple.pure fun w hw' => by
      rw [hw'.2 (by simp)]
      exact Replaced.of_dirs hDJ hf (Shift.refl hw) (DirsOnly.refl _ _) (by simp) _
  refine Triple.of_eq fun w₁ hw₁ => ?_
  obtain ⟨hs₁, hd₁⟩ := hw₁.1 rfl
  dsimp only
  rw [Faulty.run_bind]
  refine Triple.bind (replaceFile_faulty refuse hDJ hf hrm hs₁.sound _) fun res => ?_
  rcases res with e | ⟨⟩
  · exact Triple.pure fun w hw' => (Replaced.after_dirs hDJ hf hs₁ hd₁ hw').of_iff (by simp)
  · exact Triple.pure fun w hw' => (Replaced.after_dirs hDJ hf hs₁ hd₁ hw').of_iff (by simp)

/-- Writing the symbol text or the Java source of a table replaces the target atomically, whatever
change but the removal of the temporary file is refused. -/
theorem write_replaces_atomically (hrm : ∀ p, refuse (.remove p) = none) {w₀ : Memory} (hw : w₀.Sound) :
    (∀ {Ds : List Bytes} {f : Bytes} (t : Table), (∀ k ∈ Ds, IsName k) → IsName f →
      Triple (· = w₀) ((Compile.writeSymbols t (rooted (Ds ++ [f])) : Faulty _).run refuse) fun res w =>
        Replaced (rooted (Ds ++ [f])) t.write (res = none) w₀ w) ∧
    (∀ {D : List Bytes} {t : Table} (finalIds : Bool), (∀ k ∈ D, IsName k) → Java.isIdentifier t.name = true →
      Triple (· = w₀) ((Compile.exportJava t (rooted D) finalIds : Faulty _).run refuse) fun res w =>
        Replaced (Path.join [rooted D, t.javaPath]) (t.java finalIds)
          (res = .ok (Path.join [rooted D, t.javaPath])) w₀ w) :=
  ⟨fun t hDs hf => writeSymbols_faulty refuse hDs hf hrm hw t,
    fun finalIds hD ht => exportJava_faulty refuse hrm hw hD ht finalIds⟩

/-- Every rename refused: writing the symbol file `/lib/R.txt` into an empty memory fails and
leaves it as it was. -/
theorem writeSymbols_refusing_renames :
    Triple (· = ({} : Memory))
      ((Compile.writeSymbols ⟨[82], [], []⟩ (rooted ([[108, 105, 98]] ++ [[82, 46, 116, 120, 116]])) : Faulty _).run
        fun c => if c.paths.length = 2 then some { message := Bytes.ofString "disk full" } else none)
      fun res w => Replaced (rooted ([[108, 105, 98]] ++ [[82, 46, 116, 120, 116]])) (Table.write ⟨[82], [], []⟩)
        (res = none) {} w :=
  (write_replaces_atomically _ (fun _ => rfl) sound_default).1 _ (by simp only [IsName]; decide +kernel)
    (by simp only [IsName]; decide +kernel)

end Writers

end ResourceSymbols
