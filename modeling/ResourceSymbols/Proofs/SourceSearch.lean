import ResourceSymbols.Proofs.Compiled

namespace ResourceSymbols.Compile

open ResourceSymbols.Path

variable {σ : Type} [Host (StateM σ)]

def prefixAt (ks : List Bytes) (i : Nat) : Bytes := if i = 0 then [] else rooted (ks.take i)

def dispatch {m : Type → Type} [Monad m] [MonadFinally m] [Host m] (s : Settings) (j : Journal m) (src dst head : Bytes)
    (whole : Bool) : Kind → m (Option Failure)
  | .directory => do
    if !whole then return some (notFound head (Bytes.dropPrefix src head))
    match ← compileDir s j head dst with
    | none => return none
    | some e => return some (.within (Bytes.ofString "unable to process directory: ") e)
  | .regular => do
    match ← isArchive s.config.extensions head with
    | .error e => return some (.within (Bytes.ofString "unable to check archive type: ") e)
    | .ok true =>
      let inner := Bytes.dropPrefix (Bytes.dropPrefix src head) [slash]
      match ← compileArchive s j head inner [] dst with
      | none => return none
      | some e => return some (.within (Bytes.ofString "unable to process archive: ") e)
    | .ok false =>
      if !whole then return some (notFound head (Bytes.dropPrefix src head))
      compileFile s j head (Path.base head) dst
  | _ => return some (.note (Bytes.ofString "unexpected path mode for (" ++ head ++ Bytes.ofString ") => ("
      ++ Bytes.dropPrefix src head ++ Bytes.ofString ")"))

section Step

variable (hkeep : ∀ p (x : σ), (Host.stat (m := StateM σ) p x).2 = x)
include hkeep

theorem stat_bind {β : Type} (p : Bytes) (f : Except FsError Kind → StateM σ β) (x : σ) :
    (Host.stat p >>= f) x = f (Host.stat (m := StateM σ) p x).1 x := by
  rw [StateM.bind_apply, hkeep]

variable {s : Settings} {j : Journal (StateM σ)} {src dst head tail : Bytes} {fuel : Nat} {x : σ}

theorem locate_missing (hhead : head ≠ []) {e : FsError}
    (he : (Host.stat (m := StateM σ) (Bytes.dropSuffix head [slash]) x).1 = .error e) :
    locate s j src dst head tail (fuel + 1) x =
      locate s j src dst (split (Bytes.dropSuffix head [slash])).1 (split (Bytes.dropSuffix head [slash])).2
        fuel x := by
  rw [locate, if_neg (by simpa using hhead)]
  dsimp only
  rw [stat_bind hkeep, he]

theorem locate_found (hhead : head ≠ []) {k : Kind}
    (hk : (Host.stat (m := StateM σ) (Bytes.dropSuffix head [slash]) x).1 = .ok k) :
    locate s j src dst head tail (fuel + 1) x =
      dispatch s j src dst (Bytes.dropSuffix head [slash]) tail.isEmpty k x := by
  rw [locate, if_neg (by simpa using hhead)]
  dsimp only
  rw [stat_bind hkeep, hk]
  cases k <;> rfl

end Step

/-! ### The prefixes of a source -/

section Prefixes

variable {ks : List Bytes} (hks : ∀ k ∈ ks, IsName k)
include hks

theorem dropSuffix_rooted_eq_prefixAt : Bytes.dropSuffix (rooted ks) [slash] = prefixAt ks ks.length := by
  rw [dropSuffix_rooted hks, prefixAt, List.take_length]
  simp

theorem split_prefixAt {i : Nat} (hi : i < ks.length) :
    (split (prefixAt ks (i + 1))).1 ≠ [] ∧
      Bytes.dropSuffix (split (prefixAt ks (i + 1))).1 [slash] = prefixAt ks i ∧
      (split (prefixAt ks (i + 1))).2 ≠ [] := by
  have hk : IsName ks[i] := hks _ (List.getElem_mem hi)
  rw [prefixAt, if_neg (Nat.succ_ne_zero i), List.take_succ_eq_append_getElem hi,
    split_rooted_concat _ hk]
  dsimp only
  refine ⟨by split <;> simp, ?_, hk.1⟩
  by_cases h0 : i = 0
  · subst h0
    rw [List.take_zero, if_pos rfl, prefixAt, if_pos rfl]
    exact dropSuffix_append_slash []
  · have hne : ks.take i ≠ [] := by simp [h0, List.ne_nil_of_length_pos (by omega : 0 < ks.length)]
    rw [if_neg hne, dropSuffix_append_slash, prefixAt, if_neg h0]

end Prefixes

theorem isEmpty_of_iff {tail : Bytes} {i n : Nat} (h : tail = [] ↔ i = n) : tail.isEmpty = (i == n) := by
  rw [Bool.eq_iff_iff, List.isEmpty_iff, beq_iff_eq]
  exact h

/-! ### The whole search -/

section Run

variable (hkeep : ∀ p (x : σ), (Host.stat (m := StateM σ) p x).2 = x)
  {s : Settings} {j : Journal (StateM σ)} {dst : Bytes} {ks : List Bytes} (hks : ∀ k ∈ ks, IsName k)
  {x : σ}
include hkeep hks

theorem locate_found_run {i₀ : Nat} {k : Kind} (hk : (Host.stat (m := StateM σ) (prefixAt ks i₀) x).1 = .ok k) :
    ∀ i, i₀ ≤ i → i ≤ ks.length →
      (∀ i', i₀ < i' → i' ≤ i → ∃ e, (Host.stat (m := StateM σ) (prefixAt ks i') x).1 = .error e) →
      ∀ fuel head tail, i < fuel → head ≠ [] → Bytes.dropSuffix head [slash] = prefixAt ks i →
        (tail = [] ↔ i = ks.length) →
        locate s j (rooted ks) dst head tail fuel x =
          dispatch s j (rooted ks) dst (prefixAt ks i₀) (i₀ == ks.length) k x := by
  intro i
  induction i with
  | zero =>
    intro h0 _ _ fuel head tail hfuel hhead hdrop htail
    obtain rfl : i₀ = 0 := by omega
    obtain ⟨fuel, rfl⟩ : ∃ f, fuel = f + 1 := ⟨fuel - 1, by omega⟩
    rw [locate_found hkeep hhead (by rwa [hdrop]), hdrop, isEmpty_of_iff htail]
  | succ i ih =>
    intro hle hin hmiss fuel head tail hfuel hhead hdrop htail
    obtain ⟨fuel, rfl⟩ : ∃ f, fuel = f + 1 := ⟨fuel - 1, by omega⟩
    by_cases hi : i₀ = i + 1
    · subst hi
      rw [locate_found hkeep hhead (by rwa [hdrop]), hdrop, isEmpty_of_iff htail]
    · -- the prefix with `i + 1` names is missing: the search goes on one name up
      obtain ⟨e, he⟩ := hmiss (i + 1) (by omega) le_rfl
      obtain ⟨hne, hdrop', htail'⟩ := split_prefixAt hks (by omega : i < ks.length)
      rw [locate_missing hkeep hhead (by rwa [hdrop]), hdrop]
      exact ih (by omega) (by omega) (fun i' h1 h2 => hmiss i' h1 (by omega)) fuel _ _ (by omega) hne hdrop'
        (iff_of_false htail' (by omega))

theorem locate_missing_run (hnone : ∀ i ≤ ks.length, ∃ e, (Host.stat (m := StateM σ) (prefixAt ks i) x).1 = .error e) :
    ∀ i, i ≤ ks.length → ∀ fuel head tail, i < fuel → head ≠ [] → Bytes.dropSuffix head [slash] = prefixAt ks i →
      locate s j (rooted ks) dst head tail fuel x =
        (some (.note (Bytes.ofString "input source was not found (" ++ rooted ks ++ Bytes.ofString ")")), x) := by
  intro i
  induction i with
  | zero =>
    intro _ fuel head tail hfuel hhead hdrop
    obtain ⟨fuel, rfl⟩ : ∃ f, fuel = f + 1 := ⟨fuel - 1, by omega⟩
    obtain ⟨e, he⟩ := hnone 0 (Nat.zero_le _)
    rw [locate_missing hkeep hhead (by rwa [hdrop]), hdrop]
    cases fuel with
    | zero => rfl
    | succ fuel => rfl
  | succ i ih =>
    intro hin fuel head tail hfuel hhead hdrop
    obtain ⟨fuel, rfl⟩ : ∃ f, fuel = f + 1 := ⟨fuel - 1, by omega⟩
    obtain ⟨e, he⟩ := hnone (i + 1) hin
    obtain ⟨hne, hdrop', -⟩ := split_prefixAt hks (by omega : i < ks.length)
    rw [locate_missing hkeep hhead (by rwa [hdrop]), hdrop]
    exact ih (by omega) fuel _ _ (by omega) hne hdrop'

end Run

/-- The search for a source tries its prefixes at name boundaries from the longest down to the
root, asked for as the empty path, and acts on the first one the filesystem holds. -/
theorem compileSource_stops_at_longest {σ : Type} [Host (StateM σ)]
    (hkeep : ∀ p (x : σ), (Host.stat (m := StateM σ) p x).2 = x) (s : Settings) (j : Journal (StateM σ))
    (dst : Bytes) {ks : List Bytes} (hks : ∀ k ∈ ks, IsName k) (x : σ) :
    (∀ i k, i ≤ ks.length → (Host.stat (m := StateM σ) (prefixAt ks i) x).1 = .ok k →
      (∀ i', i < i' → i' ≤ ks.length → ∃ e, (Host.stat (m := StateM σ) (prefixAt ks i') x).1 = .error e) →
      compileSource s j (rooted ks) dst x = dispatch s j (rooted ks) dst (prefixAt ks i) (i == ks.length) k x) ∧
    ((∀ i, i ≤ ks.length → ∃ e, (Host.stat (m := StateM σ) (prefixAt ks i) x).1 = .error e) →
      compileSource s j (rooted ks) dst x =
        (some (.note (Bytes.ofString "input source was not found (" ++ rooted ks ++ Bytes.ofString ")")), x)) := by
  -- the search starts at the whole source, with a step for each name and one past the root
  have hfuel : ks.length < (rooted ks).length + 2 := by
    have := Memory.length_le_rooted ks
    omega
  have hdrop := dropSuffix_rooted_eq_prefixAt hks
  constructor
  · intro i k hi hk hlonger
    exact locate_found_run hkeep hks hk ks.length hi le_rfl hlonger _ _ _ hfuel (rooted_ne_nil ks) hdrop
      (iff_of_true rfl rfl)
  · intro hnone
    exact locate_missing_run hkeep hks hnone ks.length le_rfl _ _ _ hfuel (rooted_ne_nil ks) hdrop

/-- In memory with nothing but the root, the search for `/x` stops at the root, asked for as the
empty path, and fails naming it. -/
theorem compileSource_stops_at_root :
    let s : Settings :=
      { config := Config.defaults, tableName := [82], package := [], finalIds := false, noDirs := false,
        charset := none }
    let w : Memory := {}
    w.stat [] = .ok .directory ∧ (∃ e, w.stat (rooted [[120]]) = .error e) ∧
      compileSource (m := InMemory) s Journal.silent (rooted [[120]]) (rooted [[111, 117, 116]]) w =
        (some (notFound [] (rooted [[120]])), w) := by
  intro s w
  have hks : ∀ k ∈ [[(120 : UInt8)]], IsName k := by
    simp only [IsName]
    decide
  have hroot : w.stat [] = .ok .directory := rfl
  have hx : ∃ e, w.stat (rooted [[120]]) = .error e := ⟨_, rfl⟩
  refine ⟨hroot, hx, ?_⟩
  rw [(compileSource_stops_at_longest (σ := Memory) (fun _ _ => rfl) s Journal.silent (rooted [[111, 117, 116]])
    hks w).1 0 .directory (Nat.zero_le _) hroot fun i' h1 h2 => by
      obtain rfl : i' = 1 := by simp at h2; omega
      exact hx]
  rfl

end ResourceSymbols.Compile
