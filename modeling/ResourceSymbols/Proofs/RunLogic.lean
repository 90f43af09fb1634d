import ResourceSymbols.Proofs.Watch

namespace ResourceSymbols

/-- A host lists names in a directory: none holds a slash and none is `..`. -/
def Host.ListsNames {σ : Type} (H : Host (StateM σ)) : Prop :=
  ∀ s p names, ((H.readDir p).run s).1 = .ok names → ∀ n ∈ names, Path.slash ∉ n ∧ n ≠ [46, 46]

/-- The rules a logic of runs in `m` obeys: `holds x Q` says that `x`, started where the logic's
invariant holds, ends where it holds, and that its answer, if it gives one, satisfies `Q`. -/
structure RunLogic (m : Type → Type) [Monad m] [MonadFinally m] [Host m] where
  holds {α : Type} : m α → (α → Prop) → Prop
  conseq {α : Type} {x : m α} {Q R : α → Prop} : holds x Q → (∀ a, Q a → R a) → holds x R
  pure {α : Type} {a : α} {Q : α → Prop} : Q a → holds (Pure.pure a) Q
  bind {α β : Type} {x : m α} {f : α → m β} {Q : α → Prop} {R : β → Prop} :
    holds x Q → (∀ a, Q a → holds (f a) R) → holds (x >>= f) R
  map {α β : Type} {f : α → β} {x : m α} {Q : α → Prop} :
    holds x Q → holds (f <$> x) fun b => ∃ a, Q a ∧ f a = b
  tryFinally' {α β : Type} {x : m α} {h : Option α → m β} {Q : α → Prop} {R : β → Prop} :
    holds x Q → (∀ o, (∀ a, o = some a → Q a) → holds (h o) R) →
      holds (tryFinally' x h) fun p => Q p.1 ∧ R p.2
  stat (p : Bytes) : holds (Host.stat p) fun _ => True
  lstat (p : Bytes) : holds (Host.lstat p) fun _ => True
  readFile (p : Bytes) : holds (Host.readFile p) fun _ => True
  readDir (p : Bytes) : holds (Host.readDir p) fun r =>
    ∀ names, r = .ok names → ∀ n ∈ names, Path.slash ∉ n ∧ n ≠ [46, 46]
  now : holds Host.now fun _ => True
  random : holds Host.random fun _ => True

namespace RunLogic

variable {m : Type → Type} [Monad m] [MonadFinally m] [Host m] (L : RunLogic m) {α β : Type}

theorem pure_bind {a : α} {f : α → m β} {R : β → Prop} (h : L.holds (f a) R) :
    L.holds (Pure.pure a >>= f) R :=
  L.bind (L.pure (Q := (· = a)) rfl) fun _ ha => ha ▸ h

theorem tryFinally {x : m α} {h : m β} {Q : α → Prop} (hx : L.holds x Q) (hh : L.holds h fun _ => True) :
    L.holds (tryFinally x h) Q :=
  L.conseq (L.map (L.tryFinally' hx fun _ _ => hh)) fun _ ⟨_, hp, he⟩ => he ▸ hp.1

/-- The changes a logic lets a run ask for: those satisfying `P`. -/
structure Allows (P : Change → Prop) : Prop where
  makeDirs (p : Bytes) : P (.makeDirs p) → L.holds (Host.makeDirs p) fun _ => True
  createNew (p : Bytes) : P (.createNew p) → L.holds (Host.createNew p) fun _ => True
  append (p d : Bytes) : P (.append p) → L.holds (Host.append p d) fun _ => True
  chmod (p : Bytes) : P (.chmod p) → L.holds (Host.chmod p) fun _ => True
  rename (a b : Bytes) : P (.rename a b) → L.holds (Host.rename a b) fun _ => True
  remove (p : Bytes) : P (.remove p) → L.holds (Host.remove p) fun _ => True

/-- A journal whose entries and kept bytes keep the logic's invariant. -/
structure Steady (j : Journal m) : Prop where
  log (e : Log.Entry) : L.holds (j.log e) fun _ => True
  keepData (n d : Bytes) : L.holds (j.keepData n d) fun _ => True

/-- A steady journal whose kept files keep the invariant too. -/
structure Quiet (j : Journal m) : Prop extends L.Steady j where
  keepFile (n p : Bytes) : L.holds (j.keepFile n p) fun _ => True

variable {L}

theorem Steady.say {j : Journal m} (hj : L.Steady j) (logger : List String) (site : String)
    (level : Log.Level) (message : String) (fields : List Log.Field) :
    L.holds (j.say logger site level message fields) fun _ => True :=
  hj.log _

/-- A logic that allows the changes `P` allows every change stronger than one of them. -/
theorem Allows.mono {P Q : Change → Prop} (hA : L.Allows P) (h : ∀ c, Q c → P c) : L.Allows Q where
  makeDirs p hp := hA.makeDirs p (h _ hp)
  createNew p hp := hA.createNew p (h _ hp)
  append p d hp := hA.append p d (h _ hp)
  chmod p hp := hA.chmod p (h _ hp)
  rename a b hp := hA.rename a b (h _ hp)
  remove p hp := hA.remove p (h _ hp)

variable (L)

/-- From every state kept beside it, `x` keeps the logic's invariant. -/
def HoldsT {S : Type} (x : StateT S m α) : Prop := ∀ s, L.holds (x.run s) fun _ => True

namespace HoldsT

variable {L} {S : Type}

theorem pure {a : α} : L.HoldsT (Pure.pure a : StateT S m α) := fun _ => L.pure trivial

theorem bind {x : StateT S m α} {f : α → StateT S m β} (hx : L.HoldsT x) (hf : ∀ a, L.HoldsT (f a)) :
    L.HoldsT (x >>= f) := by
  intro s
  rw [StateT.run_bind]
  exact L.bind (hx s) fun r _ => hf r.1 r.2

theorem lift_holds {x : m α} {Q : α → Prop} {f : α → StateT S m β} (hx : L.holds x Q)
    (hf : ∀ a, Q a → L.HoldsT (f a)) : L.HoldsT (monadLift x >>= f) := by
  intro s
  rw [StateT.run_bind]
  -- the lifted run answers as `x` does and keeps the state beside
  refine L.bind (L.bind hx fun a ha => L.pure (Q := fun p : α × S => p.2 = s ∧ Q p.1) ⟨rfl, ha⟩) ?_
  rintro ⟨a, s'⟩ ⟨rfl, ha⟩
  exact hf a ha s'

theorem lift {x : m α} (hx : L.holds x fun _ => True) : L.HoldsT (monadLift x : StateT S m α) :=
  fun _ => L.bind hx fun _ _ => L.pure trivial

theorem modify {f : S → S} : L.HoldsT (modify f : StateT S m PUnit) := fun _ => L.pure trivial

theorem forIn {xs : List β} {init : α} {f : β → α → StateT S m (ForInStep α)}
    (hf : ∀ b ∈ xs, ∀ a, L.HoldsT (f b a)) : L.HoldsT (forIn xs init f) := by
  induction xs generalizing init with
  | nil => exact pure
  | cons b xs ih =>
    rw [List.forIn_cons]
    refine bind (hf b List.mem_cons_self init) fun r => ?_
    cases r with
    | done a => exact pure
    | yield a => exact ih (fun b' hb' => hf b' (List.mem_cons_of_mem _ hb'))

theorem foldlM {xs : List β} {init : α} {f : α → β → StateT S m α}
    (hf : ∀ a, ∀ b ∈ xs, L.HoldsT (f a b)) : L.HoldsT (xs.foldlM f init) := by
  induction xs generalizing init with
  | nil => exact pure
  | cons b xs ih =>
    rw [List.foldlM_cons]
    exact bind (hf init b List.mem_cons_self) fun a =>
      ih (fun a' b' hb' => hf a' b' (List.mem_cons_of_mem _ hb'))

end HoldsT

/-! ### Logics of lifted runs -/

section Beside

variable {S : Type} (J : S → Prop)

theorem lift_stateT {y : m α} {Q : α → Prop} (hy : L.holds y Q) :
    ∀ s, J s → L.holds ((monadLift y : StateT S m α).run s) fun p => J p.2 ∧ Q p.1 :=
  fun _ hs => L.bind hy fun _ ha => L.pure ⟨hs, ha⟩

/-- The logic `L` of runs that keep a state beside, on which `J` is kept too. -/
def stateT : RunLogic (StateT S m) where
  holds x Q := ∀ s, J s → L.holds (x.run s) fun p => J p.2 ∧ Q p.1
  conseq hx hq s hs := L.conseq (hx s hs) fun p hp => ⟨hp.1, hq _ hp.2⟩
  pure hq _ hs := L.pure ⟨hs, hq⟩
  bind hx hf s hs := L.bind (hx s hs) fun p hp => hf p.1 hp.2 p.2 hp.1
  map hx s hs := L.bind (hx s hs) fun p hp => L.pure ⟨hp.1, p.1, hp.2, rfl⟩
  tryFinally' {_ _ x h Q R} hx hh s hs := by
    -- the finalizer starts where `x` ended, or from `s` if `x` gave no answer
    refine L.bind (L.tryFinally' (R := fun p => J p.2 ∧ R p.1) (hx s hs) fun o ho => ?_) fun r hr => ?_
    · rcases o with _ | ⟨a, s'⟩
      · exact hh none (fun _ h => by cases h) s hs
      · obtain ⟨hs', ha⟩ := ho _ rfl
        exact hh (some a) (fun _ h => Option.some.inj h ▸ ha) s' hs'
    · obtain ⟨⟨a, _⟩, ⟨b, s''⟩⟩ := r
      exact L.pure ⟨hr.2.1, hr.1.2, hr.2.2⟩
  stat p := lift_stateT L J (L.stat p)
  lstat p := lift_stateT L J (L.lstat p)
  readFile p := lift_stateT L J (L.readFile p)
  readDir p := lift_stateT L J (L.readDir p)
  now := lift_stateT L J L.now
  random := lift_stateT L J L.random

variable {L J}

theorem Allows.stateT {P : Change → Prop} (hA : L.Allows P) : (L.stateT J).Allows P where
  makeDirs p hp := lift_stateT L J (hA.makeDirs p hp)
  createNew p hp := lift_stateT L J (hA.createNew p hp)
  append p d hp := lift_stateT L J (hA.append p d hp)
  chmod p hp := lift_stateT L J (hA.chmod p hp)
  rename a b hp := lift_stateT L J (hA.rename a b hp)
  remove p hp := lift_stateT L J (hA.remove p hp)

theorem stateT_lift {y : m α} {Q : α → Prop} (hy : L.holds y Q) :
    (L.stateT J).holds (monadLift y : StateT S m α) Q :=
  lift_stateT L J hy

theorem stateT_get : (L.stateT J).holds (get : StateT S m S) J := fun _ hs => L.pure ⟨hs, hs⟩

theorem stateT_modify {f : S → S} (hf : ∀ s, J s → J (f s)) :
    (L.stateT J).holds (modify f : StateT S m PUnit) fun _ => True :=
  fun s hs => L.pure ⟨hf s hs, trivial⟩

end Beside

section Failing

variable {ε : Type}

theorem lift_exceptT {y : m α} {Q : α → Prop} (hy : L.holds y Q) :
    L.holds (monadLift y : ExceptT ε m α).run fun r => ∀ a, r = .ok a → Q a :=
  L.conseq (L.map hy) fun _ ⟨_, ha, he⟩ _ hb => by
    subst he
    cases hb
    exact ha

/-- The logic `L` of runs that may fail with an `ε`: a failed run keeps the invariant and gives no
answer. -/
def exceptT : RunLogic (ExceptT ε m) where
  holds x Q := L.holds x.run fun r => ∀ a, r = .ok a → Q a
  conseq hx hq := L.conseq hx fun _ hr a ha => hq a (hr a ha)
  pure hq := L.pure fun _ h => by
    cases h
    exact hq
  bind hx hf := L.bind hx fun r hr => by
    rcases r with e | a
    · exact L.pure fun _ h => by cases h
    · exact hf a (hr a rfl)
  map hx := L.bind hx fun r hr => by
    rcases r with e | a
    · exact L.pure fun _ h => by cases h
    · exact L.pure fun _ h => by
        cases h
        exact ⟨a, hr a rfl, rfl⟩
  tryFinally' {_ _ x h Q R} hx hh := by
    -- the finalizer is told the answer of `x` only when `x` gave one
    refine L.bind (L.tryFinally' (R := fun r => ∀ b, r = .ok b → R b) hx fun o ho => ?_) fun r hr => ?_
    · rcases o with _ | e | a
      · exact hh none fun _ h => by cases h
      · exact hh none fun _ h => by cases h
      · exact hh (some a) fun _ h => Option.some.inj h ▸ ho _ rfl _ rfl
    · obtain ⟨ra, rb⟩ := r
      rcases ra with e | a <;> rcases rb with e' | b
      · exact L.pure fun _ h => by cases h
      · exact L.pure fun _ h => by cases h
      · exact L.pure fun _ h => by cases h
      · exact L.pure fun _ h => by
          cases h
          exact ⟨hr.1 a rfl, hr.2 b rfl⟩
  stat p := lift_exceptT L (L.stat p)
  lstat p := lift_exceptT L (L.lstat p)
  readFile p := lift_exceptT L (L.readFile p)
  readDir p := lift_exceptT L (L.readDir p)
  now := lift_exceptT L L.now
  random := lift_exceptT L L.random

variable {L}

theorem Allows.exceptT {P : Change → Prop} (hA : L.Allows P) : (L.exceptT (ε := ε)).Allows P where
  makeDirs p hp := lift_exceptT L (hA.makeDirs p hp)
  createNew p hp := lift_exceptT L (hA.createNew p hp)
  append p d hp := lift_exceptT L (hA.append p d hp)
  chmod p hp := lift_exceptT L (hA.chmod p hp)
  rename a b hp := lift_exceptT L (hA.rename a b hp)
  remove p hp := lift_exceptT L (hA.remove p hp)

theorem exceptT_lift {y : m α} {Q : α → Prop} (hy : L.holds y Q) :
    (L.exceptT (ε := ε)).holds (monadLift y : ExceptT ε m α) Q :=
  lift_exceptT L hy

theorem exceptT_throw {e : ε} {Q : α → Prop} : L.exceptT.holds (throw e : ExceptT ε m α) Q :=
  L.pure fun _ h => by cases h

end Failing

end RunLogic

namespace Watch

variable {σ : Type} {H : Host (StateM σ)} {I : σ × List Change → Prop}

/-- The logic of a recorded run on a host that lists names: what keeps `I`. -/
def logic (I : σ × List Change → Prop) (hq : Asks H I) (hnames : H.ListsNames) : RunLogic (Watch H) where
  holds x Q := Holds I x Q
  conseq hx hq' st hst := ⟨(hx st hst).1, hq' _ (hx st hst).2⟩
  pure := Holds.pure
  bind := Holds.bind
  map hx st hst := ⟨(hx st hst).1, _, (hx st hst).2, rfl⟩
  tryFinally' hx hh st hst := by
    obtain ⟨hI, hQ⟩ := hx st hst
    obtain ⟨hI', hR⟩ := hh _ (fun _ ha => Option.some.inj ha ▸ hQ) _ hI
    exact ⟨hI', hQ, hR⟩
  stat := hq.holds_stat
  lstat := hq.holds_lstat
  readFile := hq.holds_readFile
  readDir p := hq.holds_readDir p fun s names h => hnames s p names h
  now := hq.holds_now
  random := Holds.ask_true hq.random

theorem asks_recorded (P : Change → Prop) : Asks H (Recorded P) := asks_of_record fun cs => ∀ c ∈ cs, P c

/-- The logic of a run whose recorded changes all satisfy `P`. -/
abbrev recorded (P : Change → Prop) (hnames : H.ListsNames) : RunLogic (Watch H) :=
  logic (Recorded P) (asks_recorded P) hnames

variable {P : Change → Prop} (hnames : H.ListsNames)

theorem recorded_allows : (recorded P hnames).Allows P where
  makeDirs _ := keeps_makeDirs
  createNew _ := keeps_createNew
  append _ _ := keeps_append
  chmod _ := keeps_chmod
  rename _ _ := keeps_rename
  remove _ := keeps_remove

end Watch

theorem Journal.Quiet.logic {σ : Type} {H : Host (StateM σ)} {j : Journal (Watch H)} (hj : j.Quiet)
    {P : Change → Prop} (hnames : H.ListsNames) : (Watch.recorded P hnames).Quiet j where
  log := hj.keeps_log
  keepData := hj.keeps_keepData
  keepFile := hj.keeps_keepFile

end ResourceSymbols
