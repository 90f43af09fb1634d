import Mathlib.Data.List.Induction
import ResourceSymbols.Proofs.Builder
import ResourceSymbols.Report

namespace ResourceSymbols

namespace Bytes

theorem lt_trans' {a b c : Bytes} (hab : Bytes.lt a b = true) (hbc : Bytes.lt b c = true) :
    Bytes.lt a c = true := by
  rw [Bytes.lt_iff_lt] at *
  exact List.lt_trans hab hbc

theorem lt_of_not_le {a b : Bytes} (h : Bytes.le a b = false) : Bytes.lt b a = true := by
  simpa [Bytes.le] using h

theorem lt_of_le_of_ne {a b : Bytes} (h : Bytes.le a b = true) (hne : a ≠ b) : Bytes.lt a b = true := by
  simp only [Bytes.le, Bool.not_eq_eq_eq_not, Bool.not_true] at h
  rcases Bytes.lt_trichotomy a b with hab | rfl | hba
  · exact Bytes.lt_iff_lt.2 hab
  · exact absurd rfl hne
  · rw [← Bytes.lt_iff_lt, h] at hba
    cases hba

end Bytes

namespace Report

/-! ### Items in order of names -/

/-- Items each under its own name, in byte order of names. -/
def Sorted (items : List (Bytes × Item)) : Prop := items.Pairwise fun a b => Bytes.lt a.1 b.1 = true

theorem mem_insert {name : Bytes} {item : Item} {items : List (Bytes × Item)} {e : Bytes × Item}
    (h : e ∈ insert name item items) : e = (name, item) ∨ e ∈ items := by
  fun_induction insert name item items with
  | case1 => simpa using h
  | case2 k v rest heq =>
    rcases List.mem_cons.1 h with h | h
    · exact .inl h
    · exact .inr (List.mem_cons_of_mem _ h)
  | case3 k v rest _ _ => simpa using h
  | case4 k v rest _ _ ih =>
    rcases List.mem_cons.1 h with h | h
    · exact .inr (h ▸ List.mem_cons_self)
    · rcases ih h with h | h
      · exact .inl h
      · exact .inr (List.mem_cons_of_mem _ h)

theorem self_mem_insert (name : Bytes) (item : Item) (items : List (Bytes × Item)) :
    (name, item) ∈ insert name item items := by
  fun_induction insert name item items <;> simp_all

theorem mem_insert_of_ne {name : Bytes} {item : Item} {items : List (Bytes × Item)} {e : Bytes × Item}
    (he : e ∈ items) (hne : e.1 ≠ name) : e ∈ insert name item items := by
  fun_induction insert name item items with
  | case1 => simp at he
  | case2 k v rest heq =>
    rcases List.mem_cons.1 he with rfl | h
    · exact absurd (by simpa using heq : name = k).symm hne
    · exact List.mem_cons_of_mem _ h
  | case3 k v rest _ _ => exact List.mem_cons_of_mem _ he
  | case4 k v rest _ _ ih =>
    rcases List.mem_cons.1 he with rfl | h
    · exact List.mem_cons_self
    · exact List.mem_cons_of_mem _ (ih h)

theorem insert_sorted (name : Bytes) (item : Item) {items : List (Bytes × Item)} (h : Sorted items) :
    Sorted (insert name item items) := by
  induction items with
  | nil => simp [insert, Sorted]
  | cons e rest ih =>
    obtain ⟨k, v⟩ := e
    obtain ⟨hk, hrest⟩ := List.pairwise_cons.1 h
    rw [insert]
    split
    · rename_i heq
      obtain rfl : name = k := by simpa using heq
      exact List.pairwise_cons.2 ⟨hk, hrest⟩
    · split
      · rename_i hne hle
        have hlt := Bytes.lt_of_le_of_ne hle (by simpa using hne)
        refine List.pairwise_cons.2 ⟨fun e he => ?_, h⟩
        rcases List.mem_cons.1 he with rfl | he
        · exact hlt
        · exact Bytes.lt_trans' hlt (hk e he)
      · rename_i _ hle
        have hlt := Bytes.lt_of_not_le (by simpa using hle)
        refine List.pairwise_cons.2 ⟨fun e he => ?_, ih hrest⟩
        rcases mem_insert he with rfl | he
        · exact hlt
        · exact hk e he

def Item.isFile : Item → Bool
  | .data _ _ => false
  | .file _ _ => true

theorem has_iff {r : Report} {name : Bytes} : r.has name = true ↔ ∃ e ∈ r.items, e.1 = name := by
  simp [has]

theorem mem_of_lookup {items : List (Bytes × Item)} {name : Bytes} {item : Item}
    (h : items.lookup name = some item) : (name, item) ∈ items := by
  obtain ⟨l₁, l₂, rfl, -⟩ := List.lookup_eq_some_iff.1 h
  simp

theorem lookup_of_mem {items : List (Bytes × Item)} (hs : Sorted items) {e : Bytes × Item}
    (he : e ∈ items) : items.lookup e.1 = some e.2 := by
  induction items with
  | nil => cases he
  | cons x rest ih =>
    obtain ⟨hx, hrest⟩ := List.pairwise_cons.1 hs
    obtain ⟨k, v⟩ := x
    rcases List.mem_cons.1 he with rfl | he
    · exact List.lookup_cons_self
    · -- a later item has a greater name
      have hne : e.1 ≠ k := fun h => by
        have := Bytes.lt_iff_lt.1 (hx e he)
        rw [h] at this
        exact List.lt_irrefl _ this
      rw [List.lookup_cons, beq_false_of_ne hne]
      exact ih hrest he

/-! ### Calls -/

/-- A call made on a report: keep the file at a path, or keep bytes with the time read for a suffix
and the time they are stamped with. -/
inductive Call
  | store (name path : Bytes)
  | storeData (name data : Bytes) (suffix stamp : Nat)

namespace Call

def apply (cwd : Bytes) (r : Report) : Call → Report
  | store name path => r.putFile cwd name path
  | storeData name data suffix stamp => r.storeData name data suffix stamp

def perform (cwd : Bytes) (r : Report) : Call → Except Panic Report
  | store name path => r.storeFile cwd name path
  | storeData name data suffix stamp => .ok (r.storeData name data suffix stamp)

def key (r : Report) : Call → Bytes
  | store name _ => name
  | storeData name _ suffix _ => if r.has name then name ++ [45] ++ Bytes.ofNat suffix else name

def item (cwd : Bytes) : Call → Item
  | store _ path => .file path (Path.abs cwd path)
  | storeData _ data _ stamp => .data data stamp

theorem apply_items (cwd : Bytes) (r : Report) (c : Call) :
    (c.apply cwd r).items = insert (c.key r) (c.item cwd) r.items := by
  cases c <;> rfl

theorem apply_file (cwd : Bytes) (r : Report) (c : Call) : (c.apply cwd r).file = r.file := by
  cases c <;> rfl

def Calm (r : Report) : Call → Prop
  | store name path => ∀ e ∈ r.items, e.1 = name → e.2.original = path
  | storeData _ _ _ _ => True

def Plain (r : Report) : Call → Prop
  | store name _ => ∀ e ∈ r.items, e.1 = name → e.2.isFile = true
  | storeData name data suffix _ =>
    data ≠ [] ∧ (r.has name = true → r.has (name ++ [45] ++ Bytes.ofNat suffix) = false)

instance (r : Report) : (c : Call) → Decidable (c.Calm r)
  | store name path => inferInstanceAs (Decidable (∀ e ∈ r.items, e.1 = name → e.2.original = path))
  | storeData _ _ _ _ => inferInstanceAs (Decidable True)

instance (r : Report) : (c : Call) → Decidable (c.Plain r)
  | store name _ => inferInstanceAs (Decidable (∀ e ∈ r.items, e.1 = name → e.2.isFile = true))
  | storeData name data suffix _ => inferInstanceAs (Decidable
      (data ≠ [] ∧ (r.has name = true → r.has (name ++ [45] ++ Bytes.ofNat suffix) = false)))

theorem perform_of_calm {cwd : Bytes} {r : Report} {c : Call} (h : c.Calm r) :
    c.perform cwd r = .ok (c.apply cwd r) := by
  cases c with
  | store name path =>
    simp only [perform, storeFile, apply]
    cases hl : r.items.lookup name with
    | none => rfl
    | some old =>
      have hpath : old.original = path := h _ (mem_of_lookup hl) rfl
      simp [hpath]
  | storeData => rfl

theorem perform_panics {cwd name path : Bytes} {r : Report} (hs : Sorted r.items) {e : Bytes × Item}
    (he : e ∈ r.items) (hname : e.1 = name) (hpath : e.2.original ≠ path) :
    (store name path).perform cwd r = .error ⟨Bytes.ofString "Attempt to overwrite file in the report for ["
      ++ name ++ Bytes.ofString "]: was " ++ e.2.original ++ Bytes.ofString ", now " ++ path⟩ := by
  subst hname
  simp [perform, storeFile, lookup_of_mem hs he, hpath]

end Call

def run (cwd : Bytes) (r : Report) (cs : List Call) : Report := cs.foldl (Call.apply cwd) r

theorem run_concat (cwd : Bytes) (r : Report) (cs : List Call) (c : Call) :
    run cwd r (cs ++ [c]) = c.apply cwd (run cwd r cs) := by
  simp [run]

def performAll (cwd : Bytes) (r : Report) (cs : List Call) : Except Panic Report :=
  cs.foldlM (Call.perform cwd) r

theorem performAll_of_calm {cwd : Bytes} {r : Report} (cs : List Call)
    (hcalm : ∀ i (h : i < cs.length), cs[i].Calm (run cwd r (cs.take i))) :
    performAll cwd r cs = .ok (run cwd r cs) := by
  induction cs using List.reverseRecOn with
  | nil => rfl
  | append_singleton cs c ih =>
    have hlast := hcalm cs.length (by simp)
    simp only [List.getElem_concat_length, List.take_left'] at hlast
    have hprev : performAll cwd r cs = .ok (run cwd r cs) := ih fun i hi => by
      have := hcalm i (by simp; omega)
      simpa [List.getElem_append_left hi, List.take_append_of_le_length (Nat.le_of_lt hi)] using this
    rw [performAll, List.foldlM_append, ← performAll, hprev, run_concat]
    simp only [List.foldlM_cons, List.foldlM_nil, bind_pure]
    exact Call.perform_of_calm hlast

theorem run_file (cwd : Bytes) (r : Report) (cs : List Call) : (run cwd r cs).file = r.file := by
  induction cs using List.reverseRecOn with
  | nil => rfl
  | append_singleton cs c ih => rw [run_concat, Call.apply_file, ih]

/-- What the calls `cs`, made on an empty report, have kept in `items`: each item under its own
name, in byte order of names; every item kept by a call; and the item of every call still there. -/
structure Kept (cwd file : Bytes) (cs : List Call) (items : List (Bytes × Item)) : Prop where
  sorted : Sorted items
  made : ∀ e ∈ items, ∃ i, ∃ h : i < cs.length, e = (cs[i].key (run cwd ⟨file, []⟩ (cs.take i)), cs[i].item cwd)
  kept : ∀ i (h : i < cs.length), (cs[i].key (run cwd ⟨file, []⟩ (cs.take i)), cs[i].item cwd) ∈ items

theorem Call.item_file {cwd o a : Bytes} {c : Call} (h : c.item cwd = .file o a) :
    a = Path.abs cwd o := by
  cases c with
  | store name path =>
    simp only [Call.item, Item.file.injEq] at h
    rw [← h.1, h.2]
  | storeData => cases h

theorem Call.keeps {cwd : Bytes} {r : Report} {c : Call} (hcalm : c.Calm r) (hplain : c.Plain r)
    {e : Bytes × Item} (he : e ∈ r.items)
    (hmade : ∀ o a, e.2 = .file o a → a = Path.abs cwd o) :
    e ∈ (c.apply cwd r).items := by
  rw [Call.apply_items]
  by_cases hk : e.1 = c.key r
  swap
  · exact mem_insert_of_ne he hk
  cases c with
  | store name path =>
    -- a file under a name in use: the same path, so the same item
    obtain ⟨name', item'⟩ := e
    cases item' with
    | data bytes stamp => cases hplain _ he hk
    | file o a =>
      have hpath : o = path := hcalm _ he hk
      have hname : name' = name := hk
      rw [hmade o a rfl, hpath, hname]
      exact self_mem_insert _ _ _
  | storeData name data suffix stamp =>
    -- bytes go under a name not in use
    obtain ⟨-, hfresh⟩ := hplain
    have hused : r.has (Call.key r (.storeData name data suffix stamp)) = true := has_iff.2 ⟨e, he, hk⟩
    simp only [Call.key] at hused
    split at hused
    · rename_i hname
      rw [hfresh hname] at hused
      cases hused
    · rename_i hname
      exact absurd hused hname

theorem kept_nil (cwd file : Bytes) : Kept cwd file [] [] :=
  ⟨List.Pairwise.nil, by simp, by simp⟩

theorem Kept.concat {cwd file : Bytes} {cs : List Call} {c : Call}
    (h : Kept cwd file cs (run cwd ⟨file, []⟩ cs).items)
    (hcalm : c.Calm (run cwd ⟨file, []⟩ cs)) (hplain : c.Plain (run cwd ⟨file, []⟩ cs)) :
    Kept cwd file (cs ++ [c]) (run cwd ⟨file, []⟩ (cs ++ [c])).items := by
  rw [run_concat, Call.apply_items]
  refine ⟨insert_sorted _ _ h.sorted, fun e he => ?_, fun i hi => ?_⟩
  · -- an item is the new call's or was kept before it
    rcases mem_insert he with rfl | he
    · exact ⟨cs.length, by simp, by simp⟩
    · obtain ⟨i, hi, rfl⟩ := h.made e he
      exact ⟨i, by simp; omega, by simp [List.getElem_append_left hi, List.take_append_of_le_length (Nat.le_of_lt hi)]⟩
  · rw [List.length_append, List.length_singleton] at hi
    by_cases hlt : i < cs.length
    · simp only [List.getElem_append_left hlt, List.take_append_of_le_length (Nat.le_of_lt hlt)]
      rw [← Call.apply_items]
      exact Call.keeps hcalm hplain (h.kept i hlt) fun o a ho => Call.item_file ho
    · obtain rfl : i = cs.length := by omega
      simpa using self_mem_insert _ _ _

theorem kept_run {cwd file : Bytes} (cs : List Call)
    (hcalls : ∀ i (h : i < cs.length),
      cs[i].Calm (run cwd ⟨file, []⟩ (cs.take i)) ∧ cs[i].Plain (run cwd ⟨file, []⟩ (cs.take i))) :
    Kept cwd file cs (run cwd ⟨file, []⟩ cs).items := by
  induction cs using List.reverseRecOn with
  | nil => exact kept_nil cwd file
  | append_singleton cs c ih =>
    have hlast := hcalls cs.length (by simp)
    simp only [List.getElem_concat_length, List.take_left'] at hlast
    refine (ih fun i hi => ?_).concat hlast.1 hlast.2
    have := hcalls i (by simp; omega)
    simpa [List.getElem_append_left hi, List.take_append_of_le_length (Nat.le_of_lt hi)] using this

end Report

end ResourceSymbols
