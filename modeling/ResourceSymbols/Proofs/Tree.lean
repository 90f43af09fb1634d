import ResourceSymbols.Proofs.Paths
import ResourceSymbols.Files.Memory

namespace ResourceSymbols

open ResourceSymbols.Path

namespace Memory

/-! ### Names of nodes -/

theorem key_eq_clean {p : Bytes} (hp : isAbs p = true) : key p = clean p := by
  obtain ⟨ks, -, hc⟩ := rooted_names_of_isAbs hp
  unfold key
  rw [hc]
  simp [rooted, slash]

theorem key_rooted {ks : List Bytes} (hks : ∀ k ∈ ks, IsName k) : key (rooted ks) = rooted ks := by
  rw [key_eq_clean (isAbs_rooted ks), clean_rooted hks]

theorem parentKey_rooted_append {ks : List Bytes} (hks : ∀ k ∈ ks, IsName k) {k : Bytes}
    (hk : IsName k) : parentKey (rooted (ks ++ [k])) = rooted ks := by
  obtain ⟨x, -, hx, hxs⟩ := rooted_append_single_cases ks k
  rw [parentKey, hx, split_append_sep hk.2.1]
  dsimp only
  rw [hxs]
  split
  · rename_i h
    subst h
    exact key_rooted fun _ h => absurd h List.not_mem_nil
  · rw [key_eq_clean (by simp [rooted, isAbs]), show rooted ks ++ [slash] = rooted ks ++ slash :: [] from rfl,
      clean_rooted_append_sep hks descends_nil, elements_nil, List.append_nil]

theorem parentKey_root : parentKey (rooted []) = rooted [] := by
  rw [parentKey, show rooted [] = [] ++ slash :: [] from rfl, split_append_sep (by simp)]
  exact key_rooted fun _ h => absurd h List.not_mem_nil

theorem rooted_inj {ks ms : List Bytes} (hks : ∀ k ∈ ks, IsName k) (hms : ∀ m ∈ ms, IsName m)
    (h : rooted ks = rooted ms) : ks = ms := by
  rw [← elements_rooted hks, ← elements_rooted hms, h]

/-! ### Nodes by their elements -/

def node? (w : Memory) (ks : List Bytes) : Option Node := w.nodes.lookup (rooted ks)

theorem get?_rooted (w : Memory) {ks : List Bytes} (hks : ∀ k ∈ ks, IsName k) :
    w.get? (rooted ks) = w.node? ks := by
  rw [get?, key_rooted hks, node?]

/-- Every node is kept under a clean absolute name. -/
def Rooted (w : Memory) : Prop := ∀ e ∈ w.nodes, ∃ ks, (∀ k ∈ ks, IsName k) ∧ e.1 = rooted ks

/-- The name above every node is held, but perhaps for the nodes under the name `k`. -/
def ClosedBut (w : Memory) (k : Option Bytes) : Prop :=
  ∀ e ∈ w.nodes, some e.1 ≠ k → ∀ ks x, (∀ y ∈ ks ++ [x], IsName y) → e.1 = rooted (ks ++ [x]) →
    (w.node? ks).isSome

/-- Every node is kept under a clean absolute name, and the name above it is held. -/
structure Sound (w : Memory) : Prop where
  rooted : w.Rooted
  closed : w.ClosedBut none

theorem isSome_node?_of_mem {w : Memory} {e : Bytes × Node} (he : e ∈ w.nodes) {ks : List Bytes}
    (hk : e.1 = rooted ks) : (w.node? ks).isSome :=
  List.lookup_isSome_iff.2 ⟨e, he, by simp [hk]⟩

theorem Sound.parent {w : Memory} (hw : w.Sound) {e : Bytes × Node} (he : e ∈ w.nodes)
    {ks : List Bytes} {x : Bytes} (hks : ∀ y ∈ ks ++ [x], IsName y) (hk : e.1 = Path.rooted (ks ++ [x])) :
    (w.node? ks).isSome :=
  hw.closed e he (by simp) ks x hks hk

theorem Sound.parentKey_held {w : Memory} (hw : w.Sound) {k : Bytes} (hk : (w.nodes.lookup k).isSome) :
    (w.nodes.lookup (parentKey k)).isSome := by
  obtain ⟨e, he, hek⟩ := List.lookup_isSome_iff.1 hk
  obtain ⟨ms, hms, hm⟩ := hw.rooted e he
  have hke : k = Path.rooted ms := (by simpa using hek : k = e.1).trans hm
  subst hke
  rcases List.eq_nil_or_concat' ms with rfl | ⟨ms', x, rfl⟩
  · rw [parentKey_root]
    exact hk
  · rw [parentKey_rooted_append (fun k hk => hms k (List.mem_append_left _ hk)) (hms x (by simp))]
    exact hw.parent he hms hm

/-- The nodes under the names `P` accepts are the same, in the same order, in `w` and `w'`. -/
def SameOn (P : Bytes → Bool) (w w' : Memory) : Prop :=
  w'.nodes.filter (fun e => P e.1) = w.nodes.filter (fun e => P e.1)

theorem SameOn.refl (P : Bytes → Bool) (w : Memory) : SameOn P w w := rfl

theorem SameOn.trans {P : Bytes → Bool} {w₁ w₂ w₃ : Memory} (h₁ : SameOn P w₁ w₂)
    (h₂ : SameOn P w₂ w₃) : SameOn P w₁ w₃ := Eq.trans h₂ h₁

theorem lookup_filter {l : List (Bytes × Node)} {Q : Bytes → Bool} {k : Bytes} (hk : Q k = true) :
    (l.filter fun e => Q e.1).lookup k = l.lookup k := by
  induction l with
  | nil => rfl
  | cons e l ih =>
    obtain ⟨k', n⟩ := e
    by_cases hkk : k = k'
    · subst hkk
      simp [hk]
    · have hne : (k == k') = false := by simpa using hkk
      rw [List.filter_cons]
      split <;> simp [List.lookup_cons, hne, ih]

theorem SameOn.lookup_eq {P : Bytes → Bool} {w w' : Memory} (h : SameOn P w w') {k : Bytes}
    (hk : P k = true) : w'.nodes.lookup k = w.nodes.lookup k := by
  rw [← lookup_filter (l := w'.nodes) hk, ← lookup_filter (l := w.nodes) hk]
  exact congrArg (List.lookup k) h

/-! ### Putting a node, and the directories above it -/

theorem lookup_put (w : Memory) (k k' : Bytes) (n : Node) :
    (w.put k n).nodes.lookup k' = if k' = k then some n else w.nodes.lookup k' := by
  by_cases h : k' = k
  · subst h
    simp [put]
  · have hne : (k' == k) = false := by simpa using h
    simp only [put, List.lookup_cons, hne, if_neg h]
    exact lookup_filter (Q := fun b => b != k) (by simpa using h)

theorem sameOn_put {P : Bytes → Bool} (w : Memory) {k : Bytes} (hk : P k = false) (n : Node) :
    SameOn P w (w.put k n) := by
  unfold SameOn put
  rw [List.filter_cons_of_neg (by simpa using hk), List.filter_filter]
  refine List.filter_congr fun e _ => ?_
  by_cases he : e.1 = k
  · simp [he, hk]
  · simp [he]

theorem node?_put (w : Memory) (k : Bytes) (n : Node) (ks : List Bytes) :
    (w.put k n).node? ks = if rooted ks = k then some n else w.node? ks :=
  lookup_put w k (rooted ks) n

theorem isSome_node?_put {w : Memory} {ks : List Bytes} (h : (w.node? ks).isSome) (k : Bytes)
    (n : Node) : ((w.put k n).node? ks).isSome := by
  rw [node?_put]
  split
  · rfl
  · exact h

theorem mem_put {w : Memory} {k : Bytes} {n : Node} {e : Bytes × Node} (he : e ∈ (w.put k n).nodes) :
    e = (k, n) ∨ (e ∈ w.nodes ∧ e.1 ≠ k) := by
  simp only [put, List.mem_cons, List.mem_filter, bne_iff_ne, ne_eq] at he
  exact he

theorem Rooted.put {w : Memory} (hw : w.Rooted) {ks : List Bytes} (hks : ∀ k ∈ ks, IsName k)
    (n : Node) : (w.put (Path.rooted ks) n).Rooted := by
  intro e he
  rcases mem_put he with rfl | ⟨he, -⟩
  · exact ⟨ks, hks, rfl⟩
  · exact hw e he

theorem append_single_inj {ks ms : List Bytes} {x y : Bytes} (hks : ∀ k ∈ ks ++ [x], IsName k)
    (hms : ∀ m ∈ ms ++ [y], IsName m) (h : rooted (ks ++ [x]) = rooted (ms ++ [y])) : ks = ms :=
  (List.append_inj' (rooted_inj hks hms h) rfl).1

theorem rooted_ne_rooted_append (ks : List Bytes) {x : Bytes} (hx : x ≠ []) :
    rooted ks ≠ rooted (ks ++ [x]) := by
  intro h
  rcases eq_or_ne ks [] with rfl | hne
  · have : [slash] = slash :: x := h
    exact hx (List.cons.inj this).2.symm
  · rw [rooted_append_single hne] at h
    have hlen := congrArg List.length h
    simp at hlen

@[simp] theorem nodes_enlist (w : Memory) (k : Bytes) : (w.enlist k).nodes = w.nodes := rfl

@[simp] theorem readOnly_enlist (w : Memory) (k : Bytes) : (w.enlist k).readOnly = w.readOnly := rfl

@[simp] theorem node?_enlist (w : Memory) (k : Bytes) (ks : List Bytes) :
    (w.enlist k).node? ks = w.node? ks := rfl

theorem contains_enlist (w : Memory) {k k' : Bytes} (hk : k ≠ k') :
    (w.enlist k').unlisted.contains k = w.unlisted.contains k := by
  simp [enlist, hk]

theorem attach_root_succ (w : Memory) (fuel : Nat) : w.attach (rooted []) (fuel + 1) = w.enlist (rooted []) := by
  simp [attach, parentKey_root]

theorem nodes_attach_root (w : Memory) (fuel : Nat) : (w.attach (rooted []) fuel).nodes = w.nodes := by
  cases fuel with
  | zero => rfl
  | succ fuel => rw [attach_root_succ, nodes_enlist]

theorem attach_rooted_append (w : Memory) {ks : List Bytes} (hks : ∀ k ∈ ks, IsName k) {x : Bytes}
    (hx : IsName x) (fuel : Nat) :
    w.attach (rooted (ks ++ [x])) (fuel + 1) =
      match w.node? ks with
      | some _ => w.enlist (rooted (ks ++ [x]))
      | none => ((w.enlist (rooted (ks ++ [x]))).put (rooted ks) .dir).attach (rooted ks) fuel := by
  have hne : (rooted ks == rooted (ks ++ [x])) = false := by
    simpa using rooted_ne_rooted_append ks hx.1
  simp only [attach, parentKey_rooted_append hks hx, hne, Bool.false_eq_true, ↓reduceIte]
  rfl

theorem sameOn_attach {P : Bytes → Bool} :
    ∀ (fuel : Nat) (w : Memory) {ks : List Bytes}, (∀ k ∈ ks, IsName k) →
      (∀ ps, ps <+: ks → ps ≠ ks → P (rooted ps) = false) → SameOn P w (w.attach (rooted ks) fuel)
  | 0, w, _, _, _ => SameOn.refl _ _
  | fuel + 1, w, ks, hks, hP => by
    rcases List.eq_nil_or_concat' ks with rfl | ⟨ks', x, rfl⟩
    · rw [SameOn, nodes_attach_root]
    · have hks' : ∀ k ∈ ks', IsName k := fun k hk => hks k (List.mem_append_left _ hk)
      have hx : IsName x := hks x (by simp)
      have hpk : P (rooted ks') = false :=
        hP ks' (List.prefix_append _ _) fun h => by simpa using congrArg List.length h
      rw [attach_rooted_append w hks' hx]
      split
      · exact SameOn.refl _ _
      · refine (sameOn_put (w.enlist _) hpk _).trans (sameOn_attach fuel _ hks' fun ps hps hne => ?_)
        refine hP ps (hps.trans (List.prefix_append _ _)) fun h => ?_
        have hlen := hps.length_le
        rw [h] at hlen
        simp at hlen

theorem Rooted.attach : ∀ (fuel : Nat) {w : Memory}, w.Rooted → ∀ {ks : List Bytes},
    (∀ k ∈ ks, IsName k) → (w.attach (rooted ks) fuel).Rooted
  | 0, _, hw, _, _ => hw
  | fuel + 1, w, hw, ks, hks => by
    rcases List.eq_nil_or_concat' ks with rfl | ⟨ks', x, rfl⟩
    · rw [Rooted, nodes_attach_root]
      exact hw
    · have hks' : ∀ k ∈ ks', IsName k := fun k hk => hks k (List.mem_append_left _ hk)
      rw [attach_rooted_append w hks' (hks x (by simp))]
      split
      · exact hw
      · exact Rooted.attach fuel (Rooted.put (w := w.enlist _) hw hks' _) hks'

theorem closedBut_put_parent {w : Memory} {ks : List Bytes} {x : Bytes}
    (hks : ∀ y ∈ ks ++ [x], IsName y) (hc : w.ClosedBut (some (rooted (ks ++ [x])))) (n : Node)
    {e : Bytes × Node} (he : e ∈ w.nodes) {qs : List Bytes} {y : Bytes}
    (hqs : ∀ z ∈ qs ++ [y], IsName z) (hq : e.1 = rooted (qs ++ [y])) :
    ((w.put (rooted ks) n).node? qs).isSome := by
  by_cases hk : e.1 = rooted (ks ++ [x])
  · have hqk : qs = ks := append_single_inj hqs hks (hq.symm.trans hk)
    subst hqk
    simp [node?_put]
  · exact isSome_node?_put (hc e he (by simpa using hk) qs y hqs hq) _ _

theorem sound_attach : ∀ (fuel : Nat) {w : Memory}, w.Rooted → ∀ {ks : List Bytes},
    (∀ k ∈ ks, IsName k) → ks.length ≤ fuel → w.ClosedBut (some (rooted ks)) →
      (w.attach (rooted ks) fuel).Sound
  | fuel, w, hw, ks, hks, hlen, hc => by
    rcases List.eq_nil_or_concat' ks with rfl | ⟨ks', x, rfl⟩
    · -- the root has no directory above it
      have hroot : (w.attach (rooted []) fuel).nodes = w.nodes := nodes_attach_root w fuel
      refine ⟨fun e he => hw e (hroot ▸ he), fun e he _ qs y hqs hq => ?_⟩
      rw [node?, hroot, ← node?]
      refine hc e (hroot ▸ he) ?_ qs y hqs hq
      intro h
      have hroot : rooted [] = rooted (qs ++ [y]) := by rw [← Option.some.inj h, hq]
      exact absurd (rooted_inj (by simp) hqs hroot) (by simp)
    · obtain ⟨f, rfl⟩ : ∃ f, fuel = f + 1 := ⟨fuel - 1, by simp at hlen; omega⟩
      have hks' : ∀ k ∈ ks', IsName k := fun k hk => hks k (List.mem_append_left _ hk)
      rw [attach_rooted_append w hks' (hks x (by simp))]
      split
      · -- the directory is held: the nodes under the name find it
        rename_i hheld
        refine ⟨hw, fun e he _ qs y hqs hq => ?_⟩
        by_cases hk : e.1 = rooted (ks' ++ [x])
        · rw [node?_enlist, append_single_inj hqs hks (hq.symm.trans hk), hheld]
          rfl
        · exact hc e he (by simpa using hk) qs y hqs hq
      · -- the directory is missing: it is made, and registered in turn
        refine sound_attach f (Rooted.put (w := w.enlist _) hw hks' _) hks' (by simp at hlen; omega)
          fun e he hek qs y hqs hq => ?_
        rcases mem_put he with rfl | ⟨he, -⟩
        · exact absurd rfl hek
        · exact closedBut_put_parent (w := w.enlist _) hks hc _ he hqs hq

theorem length_le_rooted (ks : List Bytes) : ks.length ≤ (rooted ks).length := by
  induction ks using List.reverseRecOn with
  | nil => simp
  | append_singleton ks k ih =>
    rcases eq_or_ne ks [] with rfl | hne
    · simp [rooted, Bytes.join]
    · rw [rooted_append_single hne]
      simp only [List.length_append, List.length_cons, List.length_nil]
      omega

/-! ### Placing a node -/

theorem sound_place {w : Memory} (hw : w.Sound) {ks : List Bytes} (hks : ∀ k ∈ ks, IsName k)
    (n : Node) : (w.place (rooted ks) n).Sound := by
  refine sound_attach _ (hw.rooted.put hks n) hks (by have := length_le_rooted ks; omega) ?_
  intro e he hek qs y hqs hq
  rcases mem_put he with rfl | ⟨he, -⟩
  · exact absurd rfl hek
  · exact isSome_node?_put (hw.parent he hqs hq) _ _

theorem sameOn_place {P : Bytes → Bool} (w : Memory) {ks : List Bytes} (hks : ∀ k ∈ ks, IsName k)
    (hP : ∀ ps, ps <+: ks → P (rooted ps) = false) (n : Node) : SameOn P w (w.place (rooted ks) n) :=
  (sameOn_put w (hP ks (List.prefix_refl ks)) n).trans
    (sameOn_attach _ _ hks fun ps hps _ => hP ps hps)

theorem node?_place (w : Memory) {ks : List Bytes} (hks : ∀ k ∈ ks, IsName k) (n : Node) :
    (w.place (rooted ks) n).node? ks = some n := by
  have hsame : SameOn (· == rooted ks) (w.put (rooted ks) n) (w.place (rooted ks) n) := by
    refine sameOn_attach _ _ hks fun ps hps hne => ?_
    simpa using fun h => hne (rooted_inj (fun k hk => hks k (hps.subset hk)) hks h)
  rw [node?, hsame.lookup_eq (by simp), ← node?, node?_put, if_pos rfl]

theorem Sound.not_below {w : Memory} (hw : w.Sound) {os : List Bytes} (hos : w.node? os = none)
    {e : Bytes × Node} (he : e ∈ w.nodes) {ks : List Bytes} (hks : ∀ k ∈ ks, IsName k)
    (hk : e.1 = Path.rooted ks) : ¬ os <+: ks := by
  induction ks using List.reverseRecOn generalizing e with
  | nil =>
    intro hpre
    rw [List.prefix_nil.1 hpre] at hos
    have := isSome_node?_of_mem he hk
    rw [hos] at this
    exact absurd this (by simp)
  | append_singleton ks x ih =>
    intro hpre
    rcases List.prefix_concat_iff.1 hpre with rfl | hpre
    · have := isSome_node?_of_mem he hk
      rw [hos] at this
      exact absurd this (by simp)
    · obtain ⟨e', he', hk'⟩ := List.lookup_isSome_iff.1 (hw.parent he hks hk)
      have hks' : ∀ k ∈ ks, IsName k := fun k hk => hks k (List.mem_append_left _ hk)
      have hk'' : e'.1 = Path.rooted ks := (show Path.rooted ks = e'.1 by simpa using hk').symm
      exact ih he' hks' hk'' hpre

/-! ### Names below a name -/

def under (os : List Bytes) (k : Bytes) : Bool := os.isPrefixOf (elements k)

theorem under_rooted {os ks : List Bytes} (hks : ∀ k ∈ ks, IsName k) :
    under os (rooted ks) = true ↔ os <+: ks := by
  rw [under, elements_rooted hks, List.isPrefixOf_iff_prefix]

/-- Nothing lies strictly below the name `rooted os`. -/
def Leaf (w : Memory) (os : List Bytes) : Prop :=
  w.nodes.filter (fun e => under os e.1 && e.1 != rooted os) = []

theorem Leaf.eq {w : Memory} {os : List Bytes} (h : w.Leaf os) {e : Bytes × Node} (he : e ∈ w.nodes)
    {ks : List Bytes} (hks : ∀ k ∈ ks, IsName k) (hk : e.1 = rooted ks) (hpre : os <+: ks) : ks = os := by
  by_contra hne
  have hmem : e ∈ w.nodes.filter (fun e => under os e.1 && e.1 != rooted os) := by
    refine List.mem_filter.2 ⟨he, ?_⟩
    have hne' : rooted ks ≠ rooted os := fun h' => hne (rooted_inj hks (fun k hk => hks k (hpre.subset hk)) h')
    simp [hk, (under_rooted hks).2 hpre, hne']
  rw [h] at hmem
  exact List.not_mem_nil hmem

theorem Sound.leaf {w : Memory} (hw : w.Sound) {os : List Bytes} (hos : w.node? os = none) :
    w.Leaf os := by
  refine List.filter_eq_nil_iff.2 fun e he => ?_
  obtain ⟨ks, hks, hk⟩ := hw.rooted e he
  have hnot := hw.not_below hos he hks hk
  simp [hk, under_rooted hks, hnot]

theorem Leaf.of_sameOn {w w' : Memory} {os : List Bytes} (h : w.Leaf os)
    (hs : SameOn (fun k => under os k && k != rooted os) w w') : w'.Leaf os :=
  Eq.trans hs h

theorem prefix_of_startsWith {os ks : List Bytes} (hos : ∀ k ∈ os, IsName k)
    (hks : ∀ k ∈ ks, IsName k) (h : Bytes.startsWith (rooted ks) (rooted os ++ [slash]) = true) :
    os <+: ks := by
  have htake : (rooted ks).take (rooted os ++ [slash]).length = rooted os ++ [slash] := by
    simpa [Bytes.startsWith] using h
  have hsplit : rooted ks = rooted os ++ slash :: (rooted ks).drop (rooted os ++ [slash]).length := by
    conv_lhs => rw [← List.take_append_drop (rooted os ++ [slash]).length (rooted ks), htake]
    simp
  have hel := congrArg elements hsplit
  rw [elements_rooted hks, elements_append_sep, elements_rooted hos] at hel
  rw [hel]
  exact List.prefix_append _ _

/-! ### Changes that keep a memory sound -/

/-- The name `rooted ks` and the names above it. -/
def Above (ks : List Bytes) (k : Bytes) : Prop := ∃ us, us <+: ks ∧ k = rooted us

/-- `w'` is sound and agrees with `w` on every test that rejects the names `C` holds. -/
structure Shift (C : Bytes → Prop) (w w' : Memory) : Prop where
  sound : w'.Sound
  readOnly : w'.readOnly = w.readOnly
  same : ∀ P : Bytes → Bool, (∀ k, C k → P k = false) → SameOn P w w'
  listed : ∀ k, (w'.nodes.lookup k).isSome → ¬ C k → ¬ C (parentKey k) →
    w'.unlisted.contains k = w.unlisted.contains k

theorem Shift.lookup_eq {C : Bytes → Prop} {w w' : Memory} (h : Shift C w w') {k : Bytes} (hk : ¬ C k) :
    w'.nodes.lookup k = w.nodes.lookup k :=
  (h.same (· == k) fun k' hk' => by
    have hne : k' ≠ k := fun e => hk (e ▸ hk')
    simpa using hne).lookup_eq (by simp)

theorem contains_unlisted_attach : ∀ (fuel : Nat) (w : Memory) {ks : List Bytes}, (∀ k ∈ ks, IsName k) →
    ∀ k, ¬ Above ks k → (w.attach (rooted ks) fuel).unlisted.contains k = w.unlisted.contains k
  | 0, _, _, _, _, _ => rfl
  | fuel + 1, w, ks, hks, k, hk => by
    have hne : k ≠ rooted ks := fun h => hk ⟨ks, List.prefix_refl ks, h⟩
    rcases List.eq_nil_or_concat' ks with rfl | ⟨ks', x, rfl⟩
    · rw [attach_root_succ, contains_enlist w hne]
    · have hks' : ∀ k ∈ ks', IsName k := fun k hk => hks k (List.mem_append_left _ hk)
      rw [attach_rooted_append w hks' (hks x (by simp))]
      split
      · exact contains_enlist w hne
      · rw [contains_unlisted_attach fuel _ hks' k fun ⟨us, hus, h⟩ =>
          hk ⟨us, hus.trans (List.prefix_append _ _), h⟩]
        exact contains_enlist w hne

theorem readOnly_attach : ∀ (fuel : Nat) (w : Memory) (k : Bytes), (w.attach k fuel).readOnly = w.readOnly
  | 0, _, _ => rfl
  | fuel + 1, w, k => by
    unfold attach
    dsimp only
    split
    · rfl
    · split
      · rfl
      · exact readOnly_attach fuel _ _

theorem Shift.refl {C : Bytes → Prop} {w : Memory} (hw : w.Sound) : Shift C w w :=
  ⟨hw, rfl, fun _ _ => SameOn.refl _ _, fun _ _ _ _ => rfl⟩

theorem Shift.trans {C : Bytes → Prop} {w₁ w₂ w₃ : Memory} (h₁ : Shift C w₁ w₂) (h₂ : Shift C w₂ w₃) :
    Shift C w₁ w₃ := by
  refine ⟨h₂.sound, h₂.readOnly.trans h₁.readOnly, fun P hP => (h₁.same P hP).trans (h₂.same P hP),
    fun k hk hC hpC => ?_⟩
  -- the node outside `C` was held in between too
  have hk₂ : (w₂.nodes.lookup k).isSome := h₂.lookup_eq hC ▸ hk
  rw [h₂.listed k hk hC hpC, h₁.listed k hk₂ hC hpC]

theorem Shift.mono {C C' : Bytes → Prop} {w w' : Memory} (h : Shift C w w') (hC : ∀ k, C k → C' k) :
    Shift C' w w' :=
  ⟨h.sound, h.readOnly, fun P hP => h.same P fun k hk => hP k (hC k hk),
    fun k hk hC' hpC' => h.listed k hk (fun h' => hC' (hC k h')) fun h' => hpC' (hC _ h')⟩

theorem shift_place {w : Memory} (hw : w.Sound) {ks : List Bytes} (hks : ∀ k ∈ ks, IsName k)
    (n : Node) : Shift (Above ks) w (w.place (rooted ks) n) :=
  ⟨sound_place hw hks n, readOnly_attach _ _ _,
    fun _ hP => sameOn_place w hks (fun ps hps => hP _ ⟨ps, hps, rfl⟩) n,
    fun k _ hk _ => contains_unlisted_attach _ _ hks k hk⟩

/-- `w'` agrees with `w` at and below the name `rooted ks`: it holds the same nodes there, and
lists the nodes strictly below it that it holds as `w` does. -/
structure AlikeBelow (ks : List Bytes) (w w' : Memory) : Prop where
  same : SameOn (under ks) w w'
  listed : ∀ ms, (∀ k ∈ ms, IsName k) → ks <+: ms → ms ≠ ks → (w'.node? ms).isSome →
    w'.unlisted.contains (rooted ms) = w.unlisted.contains (rooted ms)

theorem AlikeBelow.refl (ks : List Bytes) (w : Memory) : AlikeBelow ks w w :=
  ⟨SameOn.refl _ _, fun _ _ _ _ _ => rfl⟩

theorem AlikeBelow.trans {ks : List Bytes} {w₁ w₂ w₃ : Memory} (h₁ : AlikeBelow ks w₁ w₂)
    (h₂ : AlikeBelow ks w₂ w₃) : AlikeBelow ks w₁ w₃ := by
  refine ⟨h₁.same.trans h₂.same, fun ms hms hpre hne hheld => ?_⟩
  -- a node held at the end below `rooted ks` was held in between
  have hheld₂ : (w₂.node? ms).isSome := by
    rwa [node?, ← h₂.same.lookup_eq ((under_rooted hms).2 hpre)]
  rw [h₂.listed ms hms hpre hne hheld, h₁.listed ms hms hpre hne hheld₂]

theorem Shift.alikeBelow {C : Bytes → Prop} {w w' : Memory} (h : Shift C w w') {ks : List Bytes}
    (hC : ∀ k, C k → under ks k = false) : AlikeBelow ks w w' := by
  refine ⟨h.same _ hC, fun ms hms hpre hne hheld => h.listed _ hheld (fun hc => ?_) fun hc => ?_⟩
  · simpa [(under_rooted hms).2 hpre] using hC _ hc
  · -- the directory of a name strictly below `rooted ks` is at or below it
    obtain ⟨ms', x, rfl⟩ : ∃ ms' x, ms = ms' ++ [x] :=
      (List.eq_nil_or_concat' ms).resolve_left fun h' => hne (h'.trans (List.prefix_nil.1 (h' ▸ hpre)).symm)
    have hms' : ∀ k ∈ ms', IsName k := fun k hk => hms k (List.mem_append_left _ hk)
    have hpre' : ks <+: ms' := (List.prefix_concat_iff.1 hpre).resolve_left (Ne.symm hne)
    rw [parentKey_rooted_append hms' (hms x (by simp))] at hc
    simpa [(under_rooted hms').2 hpre'] using hC _ hc

theorem sound_put_of_isSome {w : Memory} (hw : w.Sound) {ks : List Bytes} (hks : ∀ k ∈ ks, IsName k)
    (hheld : (w.node? ks).isSome) (n : Node) : (w.put (rooted ks) n).Sound := by
  refine ⟨hw.rooted.put hks n, fun e he _ qs y hqs hq => ?_⟩
  rcases mem_put he with rfl | ⟨he, -⟩
  · obtain ⟨e₀, he₀, hk₀⟩ := List.lookup_isSome_iff.1 hheld
    have hk₀' : e₀.1 = rooted (qs ++ [y]) := (show rooted ks = e₀.1 by simpa using hk₀).symm.trans hq
    exact isSome_node?_put (hw.parent he₀ hqs hk₀') _ _
  · exact isSome_node?_put (hw.parent he hqs hq) _ _

theorem shift_put_of_isSome {w : Memory} (hw : w.Sound) {ks : List Bytes} (hks : ∀ k ∈ ks, IsName k)
    (hheld : (w.node? ks).isSome) (n : Node) : Shift (· = rooted ks) w (w.put (rooted ks) n) :=
  ⟨sound_put_of_isSome hw hks hheld n, rfl, fun _ hP => sameOn_put w (hP _ rfl) n, fun _ _ _ _ => rfl⟩

/-! ### The changes of the filesystem, by clean absolute path -/

section Changes

variable {w w' : Memory} {ks : List Bytes}

theorem shift_makeDirs (hw : w.Sound) (hks : ∀ k ∈ ks, IsName k)
    (h : w.makeDirs (rooted ks) = .ok w') : Shift (Above ks) w w' := by
  unfold makeDirs at h
  rw [get?_rooted w hks, key_rooted hks] at h
  split at h
  · cases h
  · split at h <;> cases h
    · exact Shift.refl hw
    · exact shift_place hw hks _

theorem createNew_rooted (hw : w.Sound) (hks : ∀ k ∈ ks, IsName k)
    (h : w.createNew (rooted ks) = .ok w') :
    w.node? ks = none ∧ Shift (Above ks) w w' ∧ w'.node? ks = some (.file []) ∧ w'.Leaf ks := by
  unfold createNew at h
  rw [get?_rooted w hks, key_rooted hks] at h
  split at h
  · cases h
  · split at h
    · cases h
    · rename_i hfree
      cases h
      refine ⟨hfree, shift_place hw hks _, node?_place w hks _, ?_⟩
      refine (hw.leaf hfree).of_sameOn (sameOn_place w hks (fun ps hps => ?_) _)
      -- a name above `ks` is not strictly below it
      have hps' : ∀ k ∈ ps, IsName k := fun k hk => hks k (hps.subset hk)
      by_cases hpk : ps = ks
      · subst hpk
        simp
      · have hnot : ¬ ks <+: ps := fun h' => hpk (h'.eq_of_length (le_antisymm h'.length_le hps.length_le)).symm
        simp [under_rooted hps', hnot]

theorem append_rooted (hw : w.Sound) (hks : ∀ k ∈ ks, IsName k) {d : Bytes}
    (h : w.append (rooted ks) d = .ok w') :
    Shift (· = rooted ks) w w' ∧ ∀ d₀, w.node? ks = some (.file d₀) → w'.node? ks = some (.file (d₀ ++ d)) := by
  unfold append at h
  rw [get?_rooted w hks, key_rooted hks] at h
  split at h
  · cases h
  · split at h
    · rename_i d₁ hd₁
      cases h
      refine ⟨shift_put_of_isSome hw hks (by rw [hd₁]; rfl) _, fun d₀ hd₀ => ?_⟩
      rw [hd₁] at hd₀
      cases hd₀
      simp [node?_put]
    · rename_i n hnotfile hn
      cases h
      refine ⟨Shift.refl hw, fun d₀ hd₀ => ?_⟩
      rw [hn] at hd₀
      exact absurd (Option.some.inj hd₀) (hnotfile d₀)
    · cases h

theorem chmod_eq {p : Bytes} (h : w.chmod p = .ok w') : w' = w := by
  unfold chmod at h
  split at h
  · cases h
  · split at h <;> cases h
    rfl

theorem lookup_filter_self (l : List (Bytes × Node)) (k : Bytes) :
    (l.filter fun e => e.1 != k).lookup k = none := by
  refine List.lookup_eq_none_iff.2 fun e he => ?_
  have hne := (List.mem_filter.1 he).2
  simp only [bne_iff_ne, ne_eq] at hne ⊢
  exact Ne.symm hne

theorem parentKey_of_mem_children {k k' : Bytes} (h : k' ∈ w.children k) : parentKey k' = k := by
  obtain ⟨e, he, rfl⟩ := List.mem_map.1 h
  have hlisted := (List.mem_filter.1 he).2
  simp only [Bool.and_eq_true, bne_iff_ne, ne_eq, beq_iff_eq] at hlisted
  exact hlisted.1.2

theorem remove_leaf (hw : w.Sound) (hks : ∀ k ∈ ks, IsName k) (hleaf : w.Leaf ks)
    (h : w.remove (rooted ks) = .ok w') : Shift (· = rooted ks) w w' ∧ w'.node? ks = none := by
  unfold remove at h
  rw [key_rooted hks] at h
  split at h
  · cases h
  · dsimp only at h
    split at h
    · cases h
      refine ⟨⟨⟨fun e he => hw.rooted e (List.mem_filter.1 he).1, ?_⟩, rfl, fun P hP => ?_,
        fun k _ _ hpk => ?_⟩, lookup_filter_self _ _⟩
      · intro e he _ qs y hqs hq
        have he' := List.mem_filter.1 he
        -- the directory of a kept name is not the removed name, as nothing lies below that
        have hne : rooted qs ≠ rooted ks := by
          intro hqk
          have hqk' := rooted_inj (fun k hk => hqs k (List.mem_append_left _ hk)) hks hqk
          subst hqk'
          have hself := hleaf.eq he'.1 hqs hq (List.prefix_append _ _)
          simp at hself
        show (List.lookup _ _).isSome
        rw [lookup_filter (Q := fun b => b != rooted ks) (by simpa using hne)]
        exact hw.parent he'.1 hqs hq
      · unfold SameOn
        rw [List.filter_filter]
        refine List.filter_congr fun e _ => ?_
        by_cases he : e.1 = rooted ks
        · simp [he, hP _ rfl]
        · simp [he]
      · -- what the removed name listed lies in it, and `k` is in another directory
        have hnot : k ∉ w.children (rooted ks) := fun h => hpk (parentKey_of_mem_children h)
        simp [hnot]
    · cases h

/-! ### Renaming a name with nothing below it -/

section Rename

variable {os ns : List Bytes}

theorem moved_of_leaf (hw : w.Rooted) (hos : ∀ k ∈ os, IsName k) (hleaf : w.Leaf os)
    {e : Bytes × Node} (he : e ∈ w.nodes) (kn : Bytes) :
    moved (rooted os) kn e.1 = if e.1 = rooted os then kn else e.1 := by
  obtain ⟨ks, hks, hk⟩ := hw e he
  unfold moved
  by_cases heq : e.1 = rooted os
  · simp [heq]
  · have hnot : Bytes.startsWith e.1 (rooted os ++ [slash]) = false := by
      by_contra hs
      have hpre := prefix_of_startsWith hos hks (by rw [← hk]; simpa using hs)
      exact heq (by rw [hk, hleaf.eq he hks hk hpre])
    simp [heq, hnot]

theorem movedNodes_of_leaf (hw : w.Rooted) (hos : ∀ k ∈ os, IsName k) (hleaf : w.Leaf os)
    {kn : Bytes} (hkn : kn ≠ rooted os) :
    ((w.nodes.filter fun e => moved (rooted os) kn e.1 != e.1).map fun e =>
        (moved (rooted os) kn e.1, e.2)) =
      (w.nodes.filter fun e => e.1 == rooted os).map fun e => (kn, e.2) := by
  have hf : (w.nodes.filter fun e => moved (rooted os) kn e.1 != e.1) =
      w.nodes.filter fun e => e.1 == rooted os := by
    refine List.filter_congr fun e he => ?_
    rw [moved_of_leaf hw hos hleaf he]
    by_cases heq : e.1 = rooted os
    · simp [heq, hkn]
    · simp [heq]
  rw [hf]
  refine List.map_congr_left fun e he => ?_
  have heq : e.1 = rooted os := by simpa using (List.mem_filter.1 he).2
  rw [moved_of_leaf hw hos hleaf (List.mem_filter.1 he).1, if_pos heq]

theorem any_map_key (l : List (Bytes × Node)) (kn k : Bytes) :
    (l.map fun e => (kn, e.2)).any (fun e => e.1 == k) = (!l.isEmpty && kn == k) := by
  cases l <;> simp [List.any_map]

theorem rest_of_leaf (hw : w.Rooted) (hos : ∀ k ∈ os, IsName k) (hleaf : w.Leaf os)
    (kn : Bytes) (hheld : (w.nodes.filter fun e => e.1 == rooted os) ≠ []) :
    (w.nodes.filter fun e => moved (rooted os) kn e.1 == e.1 &&
        !((w.nodes.filter fun e => e.1 == rooted os).map fun e => (kn, e.2)).any (·.1 == e.1)) =
      w.nodes.filter fun e => e.1 != rooted os && e.1 != kn := by
  refine List.filter_congr fun e he => ?_
  have hfull : (w.nodes.filter fun e => e.1 == rooted os).isEmpty = false :=
    List.isEmpty_eq_false_iff.2 hheld
  rw [moved_of_leaf hw hos hleaf he, any_map_key, hfull]
  by_cases heq : e.1 = rooted os
  · simp [heq]
  · by_cases hek : e.1 = kn
    · simp [hek]
    · have hkne : (kn == e.1) = false := by simpa using Ne.symm hek
      simp [heq, hek, hkne]

theorem sameOn_renamed {P : Bytes → Bool} {ko kn : Bytes} (hko : P ko = false) (hkn : P kn = false)
    (l : List (Bytes × Node)) :
    (((l.filter fun e => e.1 == ko).map fun e => (kn, e.2)) ++
        l.filter fun e => e.1 != ko && e.1 != kn).filter (fun e => P e.1) =
      l.filter fun e => P e.1 := by
  rw [List.filter_append, List.filter_filter]
  have hnil : (((l.filter fun e => e.1 == ko).map fun e => (kn, e.2)).filter fun e => P e.1) = [] :=
    List.filter_eq_nil_iff.2 fun e he => by
      obtain ⟨e₀, -, rfl⟩ := List.mem_map.1 he
      simp [hkn]
  rw [hnil, List.nil_append]
  refine List.filter_congr fun e _ => ?_
  by_cases h₁ : e.1 = ko
  · simp [h₁, hko]
  · by_cases h₂ : e.1 = kn
    · simp [h₂, hkn]
    · simp [h₁, h₂]

theorem lookup_renamed_new (ko kn : Bytes) (l : List (Bytes × Node)) :
    (((l.filter fun e => e.1 == ko).map fun e => (kn, e.2)) ++
        l.filter fun e => e.1 != ko && e.1 != kn).lookup kn = l.lookup ko := by
  have hrest : (l.filter fun e => e.1 != ko && e.1 != kn).lookup kn = none :=
    List.lookup_eq_none_iff.2 fun e he => by
      have := (List.mem_filter.1 he).2
      simp only [Bool.and_eq_true, bne_iff_ne, ne_eq] at this
      simpa using Ne.symm this.2
  rw [List.lookup_append, hrest, Option.or_none]
  clear hrest
  induction l with
  | nil => rfl
  | cons e l ih =>
    obtain ⟨k, n⟩ := e
    by_cases h₁ : k = ko
    · subst h₁
      simp
    · have hne : (ko == k) = false := by simpa using Ne.symm h₁
      simpa [List.filter_cons, h₁, List.lookup_cons, hne] using ih

theorem lookup_renamed_old {ko kn : Bytes} (hkn : kn ≠ ko) (l : List (Bytes × Node)) :
    (((l.filter fun e => e.1 == ko).map fun e => (kn, e.2)) ++
        l.filter fun e => e.1 != ko && e.1 != kn).lookup ko = none := by
  refine List.lookup_eq_none_iff.2 fun e he => ?_
  rcases List.mem_append.1 he with he | he
  · obtain ⟨e₀, -, rfl⟩ := List.mem_map.1 he
    simpa using hkn.symm
  · have := (List.mem_filter.1 he).2
    simp only [Bool.and_eq_true, bne_iff_ne, ne_eq] at this
    simpa using Ne.symm this.1

theorem rename_leaf_eq {w w' : Memory} (hw : w.Rooted) (hos : ∀ k ∈ os, IsName k)
    (hns : ∀ k ∈ ns, IsName k) (hleaf : w.Leaf os) (hkn : rooted ns ≠ rooted os)
    (h : w.rename (rooted os) (rooted ns) = .ok w') :
    (w.node? os).isSome ∧ ∃ M : Memory,
      M.nodes = ((w.nodes.filter fun e => e.1 == rooted os).map fun e => (rooted ns, e.2)) ++
        w.nodes.filter (fun e => e.1 != rooted os && e.1 != rooted ns) ∧
      M.readOnly = w.readOnly ∧
      (∀ k, k ≠ rooted ns → parentKey k ≠ rooted ns → M.unlisted.contains k = w.unlisted.contains k) ∧
      w' = M.attach (rooted ns) ((rooted ns).length + 1) := by
  unfold rename at h
  rw [key_rooted hos, key_rooted hns] at h
  dsimp only at h
  split at h
  · cases h
  rw [if_neg (by simpa using hkn.symm)] at h
  split at h
  · cases h
  rename_i n₀ hn₀
  have hheld : (w.node? os).isSome := by
    rw [node?, hn₀]
    rfl
  -- the entries under the old name are those that move, and they are not empty
  have hmoving : (w.nodes.filter fun e => e.1 == rooted os) ≠ [] := by
    obtain ⟨e, he, hk⟩ := List.lookup_isSome_iff.1 hheld
    exact List.ne_nil_of_mem (List.mem_filter.2 ⟨he, beq_iff_eq.2 (beq_iff_eq.1 hk).symm⟩)
  rw [movedNodes_of_leaf hw hos hleaf hkn, rest_of_leaf hw hos hleaf _ hmoving] at h
  cases h
  refine ⟨hheld, _, ?_, ?_, ?_, rfl⟩
  · rfl
  · rfl
  intro k hkn' hpk
  -- what the replaced node listed is in the new name, and what moved is the new name
  simp [Ne.symm hkn', hpk]

theorem Rooted.renamed {M : Memory} (hw : w.Rooted) (hns : ∀ k ∈ ns, IsName k) {ko : Bytes}
    (hM : M.nodes = ((w.nodes.filter fun e => e.1 == ko).map fun e => (rooted ns, e.2)) ++
      w.nodes.filter fun e => e.1 != ko && e.1 != rooted ns) : M.Rooted := by
  intro e he
  rw [hM] at he
  rcases List.mem_append.1 he with he | he
  · obtain ⟨e₀, -, rfl⟩ := List.mem_map.1 he
    exact ⟨ns, hns, rfl⟩
  · exact hw e (List.mem_filter.1 he).1

theorem closedBut_renamed {M : Memory} (hw : w.Sound) (hos : ∀ k ∈ os, IsName k) (hleaf : w.Leaf os)
    (hkn : rooted ns ≠ rooted os) (hheld : (w.node? os).isSome)
    (hM : M.nodes = ((w.nodes.filter fun e => e.1 == rooted os).map fun e => (rooted ns, e.2)) ++
      w.nodes.filter fun e => e.1 != rooted os && e.1 != rooted ns) : M.ClosedBut (some (rooted ns)) := by
  intro e he hek qs y hqs hq
  rw [hM] at he
  rcases List.mem_append.1 he with he | he
  · obtain ⟨e₀, -, rfl⟩ := List.mem_map.1 he
    exact absurd rfl hek
  have he' := (List.mem_filter.1 he).1
  by_cases hqn : rooted qs = rooted ns
  · rw [node?, hqn, hM, lookup_renamed_new]
    exact hheld
  by_cases hqo : rooted qs = rooted os
  · -- the old name has nothing below it
    have hqo' := rooted_inj (fun k hk => hqs k (List.mem_append_left _ hk)) hos hqo
    subst hqo'
    have hself := hleaf.eq he' hqs hq (List.prefix_append _ _)
    simp at hself
  · have hsame : SameOn (· == rooted qs) w M := by
      unfold SameOn
      rw [hM]
      exact sameOn_renamed (P := (· == rooted qs)) (by simpa using Ne.symm hqo) (by simpa using Ne.symm hqn) w.nodes
    rw [node?, hsame.lookup_eq (by simp)]
    exact hw.parent he' hqs hq

theorem rename_leaf {w w' : Memory} (hw : w.Sound) (hos : ∀ k ∈ os, IsName k)
    (hns : ∀ k ∈ ns, IsName k) (hleaf : w.Leaf os) (hnot : ¬ os <+: ns)
    (h : w.rename (rooted os) (rooted ns) = .ok w') :
    Shift (fun k => Above ns k ∨ k = rooted os) w w' ∧ w'.node? ns = w.node? os ∧
      w'.node? os = none := by
  have hkn : rooted ns ≠ rooted os := by
    intro h'
    exact hnot (rooted_inj hns hos h' ▸ List.prefix_refl os)
  obtain ⟨hheld, M, hM, hro, hlisted, rfl⟩ := rename_leaf_eq hw.rooted hos hns hleaf hkn h
  have hsame : ∀ P : Bytes → Bool, P (rooted os) = false → P (rooted ns) = false → SameOn P w M :=
    fun P h₁ h₂ => by rw [SameOn, hM]; exact sameOn_renamed h₁ h₂ w.nodes
  have hnew : M.node? ns = w.node? os := by rw [node?, hM, lookup_renamed_new]; rfl
  have hold : M.node? os = none := by rw [node?, hM, lookup_renamed_old hkn]
  have hclosed : M.ClosedBut (some (rooted ns)) :=
    closedBut_renamed hw hos hleaf hkn hheld hM
  -- the directories above the new name are made
  have hattach : ∀ P : Bytes → Bool, (∀ ps, ps <+: ns → ps ≠ ns → P (rooted ps) = false) →
      SameOn P M (M.attach (rooted ns) ((rooted ns).length + 1)) :=
    fun P hP => sameOn_attach _ M hns hP
  refine ⟨⟨sound_attach _ (hw.rooted.renamed hns hM) hns (by have := length_le_rooted ns; omega) hclosed,
    (readOnly_attach _ _ _).trans hro,
    fun P hP => (hsame P (hP _ (Or.inr rfl)) (hP _ (Or.inl ⟨ns, List.prefix_refl ns, rfl⟩))).trans
      (hattach P fun ps hps _ => hP _ (Or.inl ⟨ps, hps, rfl⟩)),
    fun k _ hk hpk => ?_⟩, ?_, ?_⟩
  · have hnew : ∀ k, k = rooted ns → Above ns k ∨ k = rooted os := fun _ h => .inl ⟨ns, List.prefix_refl ns, h⟩
    rw [contains_unlisted_attach _ _ hns k fun h => hk (.inl h)]
    exact hlisted k (fun h => hk (hnew k h)) fun h => hpk (hnew _ h)
  · have hs := hattach (· == rooted ns) fun ps hps hne => by
      simpa using fun h' => hne (rooted_inj (fun k hk => hns k (hps.subset hk)) hns h')
    rw [node?, hs.lookup_eq (by simp), ← node?, hnew]
  · have hs := hattach (· == rooted os) fun ps hps _ => by
      simpa using fun h' => hnot (rooted_inj (fun k hk => hns k (hps.subset hk)) hos h' ▸ hps)
    rw [node?, hs.lookup_eq (by simp), ← node?, hold]

end Rename

end Changes

end Memory

end ResourceSymbols
