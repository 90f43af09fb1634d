import ResourceSymbols.Proofs.Compiled

namespace ResourceSymbols

open ResourceSymbols.Path Memory Compile

theorem Bytes.startsWith_iff {b p : Bytes} : Bytes.startsWith b p = true ↔ p <+: b := by
  rw [Bytes.startsWith, beq_iff_eq, List.prefix_iff_eq_take, eq_comm]

namespace Archive

def atOrBelow (p name : Bytes) : Bool := name == p || Bytes.startsWith name (p ++ [slash])

def namedBy (n p : Bytes) (ms : List Zip.Member) : List Zip.Member :=
  ms.filter fun m => !m.isDir && baseNameIs n m.name && atOrBelow p m.name

theorem startsWith_of_atOrBelow {p name : Bytes} (h : atOrBelow p name = true) :
    Bytes.startsWith name p = true := by
  rw [Bytes.startsWith_iff]
  simp only [atOrBelow, Bool.or_eq_true, beq_iff_eq, Bytes.startsWith_iff] at h
  rcases h with rfl | h
  · exact List.prefix_refl _
  · exact (List.prefix_append p [slash]).trans h

theorem select_namedBy {archive : ByteArray} {ms : List Zip.Member} {n p : Bytes}
    (hsafe : ∀ m ∈ ms, isSafePath m.name = true)
    (hsep : ∀ m ∈ ms, Bytes.startsWith m.name p = true → atOrBelow p m.name = true) :
    select archive ms p (some (baseNameIs n)) =
      .ok (namedBy n p ms, ⟨archive, ms.filter fun m => !m.isDir⟩) := by
  have hnone : ms.find? (fun m => !isSafePath m.name) = none :=
    List.find?_eq_none.2 fun m hm => by simp [hsafe m hm]
  rw [select, hnone]
  -- the walk's test and the test by elements agree on every member
  have htest : ∀ m ∈ ms, (!m.isDir && Bytes.startsWith m.name p && baseNameIs n m.name) =
      (!m.isDir && baseNameIs n m.name && atOrBelow p m.name) := by
    intro m hm
    cases hs : Bytes.startsWith m.name p
    · have ha : atOrBelow p m.name = false := by
        cases ha : atOrBelow p m.name
        · rfl
        · rw [startsWith_of_atOrBelow ha] at hs
          exact absurd hs (by simp)
      simp [ha]
    · simp [hsep m hm hs, Bool.and_comm]
  simp only [Option.map_some, Option.getD_some, namedBy, List.filter_congr htest]

end Archive

section Search

variable {s : Settings} {w : Memory} {ks : List Bytes} (hks : ∀ k ∈ ks, IsName k) (hne : ks ≠ [])
  (hleaf : w.Leaf ks)
include hks hleaf

theorem stat_below_leaf {qs : List Bytes} (hqs : ∀ k ∈ qs, IsName k) (hq : qs ≠ []) :
    ∃ e, w.stat (rooted (ks ++ qs)) = .error e := by
  have hnames : ∀ k ∈ ks ++ qs, IsName k := List.forall_mem_append.2 ⟨hks, hqs⟩
  have hnone : w.node? (ks ++ qs) = none := by
    cases h : w.node? (ks ++ qs) with
    | none => rfl
    | some n =>
      obtain ⟨e, he, hk⟩ := List.lookup_isSome_iff.1 (show (w.nodes.lookup (rooted (ks ++ qs))).isSome from by
        rw [← node?, h]; rfl)
      have hk' : e.1 = rooted (ks ++ qs) := (show rooted (ks ++ qs) = e.1 by simpa using hk).symm
      exact absurd (by simpa using hleaf.eq he hnames hk' (List.prefix_append ks qs)) hq
  exact ⟨missing "open" (key (rooted (ks ++ qs))), by simp [stat, find, get?_rooted w hnames, hnone, Except.map]⟩

include hne

variable (harc : w.answer (isArchive s.config.extensions (rooted ks)) = .ok true)
  (hkind : w.stat (rooted ks) = .ok .regular)
include harc hkind

theorem locatePlan_in_archive (src : Bytes) : ∀ qs : List Bytes, (∀ k ∈ qs, IsName k) →
    ∀ fuel head tail, qs.length < fuel → head ≠ [] → Bytes.dropSuffix head [slash] = rooted (ks ++ qs) →
      locatePlan s w src head tail fuel =
        archivePlan s w (rooted ks) (Bytes.dropPrefix (Bytes.dropPrefix src (rooted ks)) [slash]) [] := by
  intro qs
  induction qs using List.reverseRecOn with
  | nil =>
    intro _ fuel head tail hfuel hhead hdrop
    obtain ⟨fuel, rfl⟩ : ∃ f, fuel = f + 1 := ⟨fuel - 1, by omega⟩
    rw [locatePlan, if_neg (by simpa using hhead)]
    dsimp only
    rw [hdrop, List.append_nil, hkind]
    dsimp only
    rw [harc]
  | append_singleton qs k ih =>
    intro hqs fuel head tail hfuel hhead hdrop
    obtain ⟨fuel, rfl⟩ : ∃ f, fuel = f + 1 := ⟨fuel - 1, by omega⟩
    have hqs' : ∀ k ∈ qs, IsName k := fun k' hk' => hqs k' (List.mem_append_left _ hk')
    have hk : IsName k := hqs k (by simp)
    obtain ⟨e, he⟩ := stat_below_leaf hks hleaf hqs (by simp)
    rw [locatePlan, if_neg (by simpa using hhead)]
    dsimp only
    rw [hdrop, he]
    dsimp only
    rw [← List.append_assoc, split_rooted_concat (ks ++ qs) hk, if_neg (by simp [hne])]
    exact ih hqs' fuel _ _ (by simp only [List.length_append, List.length_singleton] at hfuel; omega)
      (by simp) (dropSuffix_append_slash _)

variable {qs : List Bytes} (hqs : ∀ k ∈ qs, IsName k)
include hqs

omit hleaf harc hkind in
theorem start_below_archive : qs.length < (rooted (ks ++ qs)).length + 2 ∧
    Bytes.dropSuffix (rooted (ks ++ qs)) [slash] = rooted (ks ++ qs) := by
  have hlen := length_le_rooted (ks ++ qs)
  simp only [List.length_append] at hlen
  exact ⟨by omega, by rw [dropSuffix_rooted (List.forall_mem_append.2 ⟨hks, hqs⟩), if_neg (by simp [hne])]⟩

theorem plan_below_archive :
    plan s w (rooted (ks ++ qs)) = archivePlan s w (rooted ks) (Bytes.join [slash] qs) [] := by
  obtain ⟨hfuel, hdrop⟩ := start_below_archive hks hne hqs
  rw [plan, locatePlan_in_archive hks hne hleaf harc hkind _ qs hqs _ _ _ hfuel (rooted_ne_nil _) hdrop,
    dropPrefix_rooted hqs]

end Search

namespace Compile

def noneFound (p : Bytes) : Failure :=
  .note (Bytes.ofString "no symbol files found in archive under (" ++ p ++ Bytes.ofString ")")

/-- Failures collected behind member names: never a note alone. -/
def Collected (errs : Option Failure) : Prop := ∀ msg, errs ≠ some (.note msg)

theorem Collected.none : Collected none := fun _ h => Option.some_ne_none _ h.symm

theorem Collected.append {errs : Option Failure} (h : Collected errs) (lead : Bytes) (e : Failure) :
    Collected (Failure.append errs (some (.within lead e))) := by
  intro msg
  cases errs with
  | none => simp [Failure.append]
  | some f =>
    show Failure.combine (f.parts ++ [.within lead e]) ≠ _
    cases f.parts with
    | nil => simp [Failure.combine]
    | cons g gs => cases gs <;> simp [Failure.combine]

section Plan

variable {s : Settings} {w : Memory} {path pfx pathOut bytes : Bytes} {ms : List Zip.Member}
  (hread : w.read path = .ok ⟨bytes, none⟩) (hms : Zip.members ⟨bytes.toArray⟩ = .ok ms)
include hread hms

theorem archivePlan_selected {visited : List Zip.Member} {ix : Archive.Index}
    (hsel : Archive.select ⟨bytes.toArray⟩ ms pfx (some (Archive.baseNameIs s.config.input.symbolFileName)) =
      .ok (visited, ix)) :
    archivePlan s w path pfx pathOut = visited.map (memberInput s ix pathOut) := by
  rw [archivePlan, hread]
  dsimp only
  rw [hms]
  dsimp only
  rw [hsel]

theorem archivePlan_refused {f : Failure}
    (hsel : Archive.select ⟨bytes.toArray⟩ ms pfx (some (Archive.baseNameIs s.config.input.symbolFileName)) =
      .error f) :
    archivePlan s w path pfx pathOut = [] := by
  rw [archivePlan, hread]
  dsimp only
  rw [hms]
  dsimp only
  rw [hsel]

end Plan

end Compile

end ResourceSymbols
