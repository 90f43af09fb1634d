import ResourceSymbols.Proofs.Plan
import ResourceSymbols.Proofs.AtomicWrite

namespace ResourceSymbols

open ResourceSymbols.Path Memory

/-! ### Exporting a table -/

section Export

variable {w₀ : Memory} (hw : w₀.Sound) (hwr : w₀.readOnly = false)
include hw hwr

theorem exportJava_answer (D : List Bytes) (t : Table) (finalIds : Bool) :
    Triple (· = w₀) (Compile.exportJava t (rooted D) finalIds) fun res _ =>
      (∀ T, res = .ok T → T = Path.join [rooted D, t.javaPath]) ∧
      ∀ e, res = .error e → ∃ e', e = .within (Bytes.ofString "unable to write java source (" ++
        Path.join [rooted D, t.javaPath] ++ Bytes.ofString "): ") e' := by
  unfold Compile.exportJava
  dsimp only
  -- making directories in such a memory never fails
  refine Triple.bind (Q := fun res _ => res = .ok ()) (Triple.change (fun _ _ _ _ => rfl) fun w hw' e hc => ?_)
    fun res => ?_
  · subst hw'
    unfold Memory.makeDirs at hc
    rw [if_neg (by simp [hwr])] at hc
    split at hc <;> cases hc
  rcases res with e | ⟨⟩
  · exact fun _ h => absurd h (by simp)
  refine Triple.bind (Q := fun _ _ => True) (fun _ _ => trivial) fun r => ?_
  rcases r with e | ⟨⟩
  · refine Triple.pure fun _ _ => ⟨fun _ h => ?_, fun _ h => ?_⟩
    · cases h
    · cases h
      exact ⟨_, rfl⟩
  · refine Triple.pure fun _ _ => ⟨fun _ h => ?_, fun _ h => ?_⟩
    · cases h
      rfl
    · cases h

theorem exportJava_run {D : List Bytes} (hD : ∀ k ∈ D, IsName k) {t : Table}
    (ht : Java.isIdentifier t.name = true) (finalIds : Bool) :
    Triple (· = w₀) (Compile.exportJava t (rooted D) finalIds) fun res w =>
      Replaced (Path.join [rooted D, t.javaPath]) (t.java finalIds)
          (res = .ok (Path.join [rooted D, t.javaPath])) w₀ w ∧
        (∀ T, res = .ok T → T = Path.join [rooted D, t.javaPath]) ∧
        ∀ e, res = .error e → ∃ e', e = .within (Bytes.ofString "unable to write java source (" ++
          Path.join [rooted D, t.javaPath] ++ Bytes.ofString "): ") e' := by
  have h := exportJava_faulty (fun _ => none) (fun _ => rfl) hw hD ht finalIds
  rw [Faulty.exportJava_run_none] at h
  exact h.and (exportJava_answer hw hwr D t finalIds)

end Export

/-! ### Failures told -/

/-- The failure `f` shows `g`: `f` is `g`, or has it behind a note, or among failures met one after
another. -/
inductive Failure.Shows : Failure → Failure → Prop
  | self (f : Failure) : Failure.Shows f f
  | within {lead : Bytes} {c g : Failure} : Failure.Shows c g → Failure.Shows (.within lead c) g
  | several {cs : List Failure} {c g : Failure} : c ∈ cs → Failure.Shows c g → Failure.Shows (.several cs) g

namespace Failure

theorem Shows.part {f g : Failure} (h : f.Shows g) (hg : ∀ cs, g ≠ .several cs) :
    ∃ c ∈ f.parts, c.Shows g := by
  match f, h with
  | .several cs, .self _ => exact absurd rfl (hg cs)
  | .symbol e, .self _ => exact ⟨_, List.mem_singleton_self _, .self _⟩
  | .note m, .self _ => exact ⟨_, List.mem_singleton_self _, .self _⟩
  | .within l c, .self _ => exact ⟨_, List.mem_singleton_self _, .self _⟩
  | .within l c, .within hc => exact ⟨_, List.mem_singleton_self _, .within hc⟩
  | .several cs, .several hc hcg => exact ⟨_, hc, hcg⟩

theorem shows_combine {cs : List Failure} {c g : Failure} (hc : c ∈ cs) (h : c.Shows g) :
    ∃ f, combine cs = some f ∧ f.Shows g := by
  match cs, hc with
  | [c'], hc =>
    obtain rfl := List.mem_singleton.1 hc
    exact ⟨c, rfl, h⟩
  | c₁ :: c₂ :: cs, hc => exact ⟨_, rfl, .several hc h⟩

end Failure

/-- The failure a compilation returns tells that the Java source at `path` could not be written. -/
def Compile.ToldUnwritten (r : Option Failure) (path : Bytes) : Prop :=
  ∃ f e, r = some f ∧ f.Shows (.within (Bytes.ofString "unable to write java source (" ++ path ++
    Bytes.ofString "): ") e)

namespace Compile.ToldUnwritten

variable {r r' : Option Failure} {path : Bytes}

theorem within (h : ToldUnwritten (some f) path) (lead : Bytes) :
    ToldUnwritten (some (.within lead f)) path := by
  obtain ⟨f', e, hf, hs⟩ := h
  cases hf
  exact ⟨_, e, rfl, .within hs⟩

theorem append_left (h : ToldUnwritten r path) (r' : Option Failure) :
    ToldUnwritten (Failure.append r r') path := by
  obtain ⟨f, e, rfl, hs⟩ := h
  cases r' with
  | none => exact ⟨f, e, rfl, hs⟩
  | some g =>
    obtain ⟨c, hc, hcs⟩ := hs.part fun cs h => by cases h
    obtain ⟨f', hf', hs'⟩ := Failure.shows_combine (List.mem_append_left _ hc) hcs
    exact ⟨f', e, hf', hs'⟩

theorem append_right (h : ToldUnwritten r' path) (r : Option Failure) :
    ToldUnwritten (Failure.append r r') path := by
  obtain ⟨g, e, rfl, hs⟩ := h
  cases r with
  | none => exact ⟨g, e, rfl, hs⟩
  | some f =>
    obtain ⟨c, hc, hcs⟩ := hs.part fun cs h => by cases h
    obtain ⟨f', hf', hs'⟩ := Failure.shows_combine (List.mem_append_right _ hc) hcs
    exact ⟨f', e, hf', hs'⟩

end Compile.ToldUnwritten

/-! ### Compiling a table -/

/-- A journal that leaves the memory as it is. -/
def Journal.Inert (j : Journal InMemory) : Prop :=
  (∀ e w, (j.log e).run w = ((), w)) ∧ (∀ n d w, (j.keepData n d).run w = ((), w)) ∧
    ∀ n p w, (j.keepFile n p).run w = ((), w)

theorem Journal.silent_inert : (Journal.silent : Journal InMemory).Inert :=
  ⟨fun _ _ => rfl, fun _ _ _ => rfl, fun _ _ _ => rfl⟩

namespace Journal.Inert

variable {j : Journal InMemory} (hj : j.Inert) {P : Memory → Prop}
include hj

theorem triple_log (e : Log.Entry) : Triple P (j.log e) fun _ w => P w := fun w hw => by
  rw [hj.1 e w]
  exact hw

theorem triple_say (logger : List String) (site : String) (level : Log.Level) (message : String)
    (fields : List Log.Field) : Triple P (j.say logger site level message fields) fun _ w => P w :=
  hj.triple_log _

theorem triple_keepData (n d : Bytes) : Triple P (j.keepData n d) fun _ w => P w := fun w hw => by
  rw [hj.2.1 n d w]
  exact hw

theorem triple_keepFile (n p : Bytes) : Triple P (j.keepFile n p) fun _ w => P w := fun w hw => by
  rw [hj.2.2 n p w]
  exact hw

end Journal.Inert

theorem triple_now {P : Memory → Prop} : Triple P (Host.now : InMemory Nat) fun _ w => P w :=
  fun _ hw => hw

namespace Compile

/-- What compiling the input `inp` did to `w`, leaving `w'`: with a table, it wrote the table's Java
source at the target, or `Told` says it could not, and made directories only where nothing was. -/
def Exported (s : Settings) (dst : Bytes) (Told : Bytes → Prop) (inp : Input) (w w' : Memory) : Prop :=
  match inp.table with
  | none => w' = w
  | some t => Java.isIdentifier t.name = true ∧ Shift (Above (elements (inp.target s dst t))) w w' ∧
      DirsOnly (· = inp.target s dst t) w w' ∧
      (w'.get? (inp.target s dst t) = some (.file (t.java s.finalIds)) ∨ Told (inp.target s dst t))

def Exports (s : Settings) (dst : Bytes) (Told : Bytes → Prop) : List Input → Memory → Memory → Prop
  | [], w, w' => w' = w
  | inp :: ins, w, w' => ∃ w₁, Exported s dst Told inp w w₁ ∧ Exports s dst Told ins w₁ w'

theorem outputDir_rooted_of (s : Settings) (src : Bytes) {ds : List Bytes} (hds : ∀ k ∈ ds, IsName k) :
    ∃ D, (∀ k ∈ D, IsName k) ∧ outputDir s src (rooted ds) = rooted D := by
  unfold outputDir
  split
  · exact ⟨ds, hds, rfl⟩
  · by_cases hd : Path.dir src = []
    · rw [hd, join_pair_nil (rooted_ne_nil ds), clean_rooted hds]
      exact ⟨ds, hds, rfl⟩
    · rw [join_pair (rooted_ne_nil ds) hd]
      exact rooted_names_of_isAbs (by simp [isAbs, rooted])

section Table

variable {j : Journal InMemory} (hj : j.Inert) {s : Settings} (hs : Java.isIdentifier s.tableName = true)
  {ds : List Bytes} (hds : ∀ k ∈ ds, IsName k) {w₀ : Memory} (hw : w₀.Sound) (hwr : w₀.readOnly = false)
include hj hs hds hw hwr

theorem compileTable_run (input : Delivery) (src pkg : Bytes) :
    Triple (· = w₀) (compileTable s j input src pkg (rooted ds)) fun r w =>
      Exported s (rooted ds) (ToldUnwritten r) ⟨src, tableOf s pkg input⟩ w₀ w := by
  obtain ⟨D, hD, hout⟩ := outputDir_rooted_of s src hds
  unfold compileTable
  refine Triple.bind (hj.triple_say _ _ _ _ _) fun _ => Triple.bind triple_now fun _ => ?_
  extract_lets completed
  -- logging the end changes nothing
  have hdone : ∀ written (P : Memory → Prop), Triple P (completed written) fun _ w => P w := fun _ _ =>
    Triple.bind triple_now fun _ => hj.triple_say _ _ _ _ _
  clear_value completed
  have htarget : ∀ t, Input.target s (rooted ds) ⟨src, some t⟩ t = Path.join [rooted D, t.javaPath] := by
    intro t
    simp [Input.target, hout]
  split
  · rename_i e hread
    have htab : tableOf s pkg input = none := by
      rw [tableOf, hread]
      rfl
    refine Triple.bind (hdone _ _) fun _ => Triple.pure fun w hw => ?_
    simp only [Exported, htab]
    exact hw
  · rename_i t hread
    have htab : tableOf s pkg input = some t := by
      rw [tableOf, hread]
      rfl
    have ht : Java.isIdentifier t.name = true := read_isIdentifier hs hread
    refine Triple.bind (hj.triple_say _ _ _ _ _) fun _ => Triple.bind (hj.triple_keepData _ _) fun _ => ?_
    rw [hout]
    refine Triple.bind (exportJava_run hw hwr hD ht s.finalIds) fun res => ?_
    rcases res with e | T
    · dsimp only
      refine Triple.bind (hdone _ _) fun _ => Triple.pure ?_
      rintro w ⟨hrep, -, herr⟩
      obtain ⟨e', he⟩ := herr e rfl
      simp only [Exported, htab, htarget]
      refine ⟨ht, hrep.shift, hrep.dirs, Or.inr ?_⟩
      subst he
      exact ToldUnwritten.within ⟨_, e', rfl, .self _⟩ _
    · dsimp only
      rw [tryFinally_stateM]
      refine Triple.bind (Triple.bind (hj.triple_keepFile _ _) fun _ => Triple.bind (hdone _ _) fun _ =>
        Triple.pure fun w hw => hw) fun _ => Triple.pure ?_
      rintro w ⟨hrep, hT, -⟩
      have hT' := hT T rfl
      simp only [Exported, htab, htarget]
      exact ⟨ht, hrep.shift, hrep.dirs, Or.inl (hrep.written (by rw [hT']))⟩

end Table

section Exports

variable {s : Settings} {dst : Bytes} {Told : Bytes → Prop}

theorem Exports.single {inp : Input} {w w' : Memory} (h : Exported s dst Told inp w w') :
    Exports s dst Told [inp] w w' :=
  ⟨w', h, rfl⟩

theorem Exports.append : ∀ {ins ins' : List Input} {w w₁ w' : Memory}, Exports s dst Told ins w w₁ →
    Exports s dst Told ins' w₁ w' → Exports s dst Told (ins ++ ins') w w'
  | [], _, _, _, _, h, h' => by
    cases h
    exact h'
  | _ :: _, _, _, _, _, ⟨w₂, h₁, h₂⟩, h' => ⟨w₂, h₁, Exports.append h₂ h'⟩

theorem Exported.mono {Told' : Bytes → Prop} (hT : ∀ p, Told p → Told' p) {inp : Input} {w w' : Memory}
    (h : Exported s dst Told inp w w') : Exported s dst Told' inp w w' := by
  unfold Exported at h ⊢
  split at h
  · exact h
  · exact ⟨h.1, h.2.1, h.2.2.1, h.2.2.2.imp_right (hT _)⟩

theorem Exports.mono {Told' : Bytes → Prop} (hT : ∀ p, Told p → Told' p) :
    ∀ {ins : List Input} {w w' : Memory}, Exports s dst Told ins w w' → Exports s dst Told' ins w w'
  | [], _, _, h => h
  | _ :: _, _, _, ⟨w₁, h₁, h₂⟩ => ⟨w₁, h₁.mono hT, Exports.mono hT h₂⟩

theorem Exports.sound : ∀ {ins : List Input} {w w' : Memory}, Exports s dst Told ins w w' → w.Sound →
    w'.Sound ∧ w'.readOnly = w.readOnly
  | [], _, _, h, hw => by
    cases h
    exact ⟨hw, rfl⟩
  | inp :: _, w, _, ⟨w₁, h₁, h₂⟩, hw => by
    have hw₁ : w₁.Sound ∧ w₁.readOnly = w.readOnly := by
      unfold Exported at h₁
      split at h₁
      · subst h₁
        exact ⟨hw, rfl⟩
      · exact ⟨h₁.2.1.sound, h₁.2.1.readOnly⟩
    obtain ⟨hs, hr⟩ := Exports.sound h₂ hw₁.1
    exact ⟨hs, hr.trans hw₁.2⟩

theorem Exported.alikeBelow {inp : Input} {w w' : Memory} (h : Exported s dst Told inp w w') {ks : List Bytes}
    (hP : ∀ t, inp.table = some t → ∀ k, Above (elements (inp.target s dst t)) k → under ks k = false) :
    AlikeBelow ks w w' := by
  unfold Exported at h
  split at h
  · subst h
    exact AlikeBelow.refl _ _
  · rename_i t ht
    exact h.2.1.alikeBelow (hP t ht)

theorem Exported.isIdentifier {inp : Input} {w w' : Memory} (h : Exported s dst Told inp w w') {t : Table}
    (ht : inp.table = some t) : Java.isIdentifier t.name = true := by
  unfold Exported at h
  rw [ht] at h
  exact h.1

end Exports

theorem Input.target_rooted (s : Settings) {ds : List Bytes} (hds : ∀ k ∈ ds, IsName k) (inp : Input)
    (t : Table) : ∃ Us, (∀ k ∈ Us, IsName k) ∧ inp.target s (rooted ds) t = rooted Us := by
  obtain ⟨D, hD, hout⟩ := outputDir_rooted_of s inp.src hds
  rw [Input.target, hout]
  by_cases hj : t.javaPath = []
  · rw [hj, join_pair_nil (rooted_ne_nil D), clean_rooted hD]
    exact ⟨D, hD, rfl⟩
  · rw [join_pair (rooted_ne_nil D) hj]
    exact rooted_names_of_isAbs (by simp [isAbs, rooted])

section LastWrite

variable {s : Settings} {ds : List Bytes} (hds : ∀ k ∈ ds, IsName k) {Told : Bytes → Prop}
include hds

theorem Exports.alikeBelow {ks : List Bytes} :
    ∀ {ins : List Input} {w w' : Memory}, Exports s (rooted ds) Told ins w w' →
      (∀ inp ∈ ins, ∀ t, inp.table = some t → ¬ ks <+: elements (inp.target s (rooted ds) t)) →
      AlikeBelow ks w w'
  | [], _, _, h, _ => by
    cases h
    exact AlikeBelow.refl _ _
  | inp :: ins, w, w', ⟨w₁, h₁, h₂⟩, hout => by
    -- a name at or above a target outside the tree is not in the tree
    have halike : AlikeBelow ks w w₁ := h₁.alikeBelow fun t ht k ⟨us, hus, hk⟩ => by
      have hnot := hout inp List.mem_cons_self t ht
      obtain ⟨Us, hUs, hT⟩ := Input.target_rooted s hds inp t
      rw [hT, elements_rooted hUs] at hnot hus
      subst hk
      rw [Bool.eq_false_iff, ne_eq, under_rooted (fun k hk => hUs k (hus.subset hk))]
      exact fun h => hnot (h.trans hus)
    exact halike.trans (Exports.alikeBelow h₂ fun inp' hinp' => hout inp' (List.mem_cons_of_mem _ hinp'))

end LastWrite

end Compile

end ResourceSymbols
