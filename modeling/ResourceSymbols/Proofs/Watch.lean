import ResourceSymbols.Proofs.Hoare
import ResourceSymbols.Log.Entry

namespace ResourceSymbols

/-- A change of the filesystem that a run asks for. -/
inductive Change
  | makeDirs (path : Bytes)
  | createNew (path : Bytes)
  | create (path : Bytes)
  | openAppend (path : Bytes)
  | append (path : Bytes)
  | chmod (path : Bytes)
  | rename (old new : Bytes)
  | remove (path : Bytes)

def Change.paths : Change → List Bytes
  | .makeDirs p | .createNew p | .create p | .openAppend p | .append p | .chmod p | .remove p => [p]
  | .rename old new => [old, new]

def Watch {σ : Type} (_H : Host (StateM σ)) (α : Type) : Type := StateM (σ × List Change) α

namespace Watch

variable {σ : Type} {H : Host (StateM σ)} {α β : Type}

instance : Monad (Watch H) := inferInstanceAs (Monad (StateM (σ × List Change)))

instance : LawfulMonad (Watch H) := inferInstanceAs (LawfulMonad (StateM (σ × List Change)))

instance : MonadFinally (Watch H) := inferInstanceAs (MonadFinally (StateM (σ × List Change)))

def run (x : Watch H α) (st : σ × List Change) : α × (σ × List Change) :=
  (show StateM (σ × List Change) α from x).run st

def ask (x : StateM σ α) : Watch H α := fun st =>
  let r := x.run st.1
  (r.1, (r.2, st.2))

def change (c : Change) (x : StateM σ α) : Watch H α := fun st =>
  let r := x.run st.1
  (r.1, (r.2, c :: st.2))

instance : Host (Watch H) where
  stat p := ask (H.stat p)
  lstat p := ask (H.lstat p)
  statTime p := ask (H.statTime p)
  readFile p := ask (H.readFile p)
  readDir p := ask (H.readDir p)
  makeDirs p := change (.makeDirs p) (H.makeDirs p)
  createNew p := change (.createNew p) (H.createNew p)
  create p := change (.create p) (H.create p)
  openAppend p := change (.openAppend p) (H.openAppend p)
  append p d := change (.append p) (H.append p d)
  chmod p := change (.chmod p) (H.chmod p)
  rename a b := change (.rename a b) (H.rename a b)
  remove p := change (.remove p) (H.remove p)
  toStdout d := ask (H.toStdout d)
  toStderr d := ask (H.toStderr d)
  workDir := ask H.workDir
  tempDir := ask H.tempDir
  now := ask H.now
  random := ask H.random

@[simp] theorem run_pure (a : α) (st : σ × List Change) : (pure a : Watch H α).run st = (a, st) := rfl

@[simp] theorem run_bind (x : Watch H α) (f : α → Watch H β) (st : σ × List Change) :
    (x >>= f).run st = (f (x.run st).1).run (x.run st).2 := rfl

@[simp] theorem run_ask (x : StateM σ α) (st : σ × List Change) :
    (ask x : Watch H α).run st = ((x.run st.1).1, ((x.run st.1).2, st.2)) := rfl

@[simp] theorem run_change (c : Change) (x : StateM σ α) (st : σ × List Change) :
    (change c x : Watch H α).run st = ((x.run st.1).1, ((x.run st.1).2, c :: st.2)) := rfl

/-- Started in a state satisfying `I`, `x` ends in one, and its answer satisfies `Q`. -/
def Holds (I : σ × List Change → Prop) (x : Watch H α) (Q : α → Prop) : Prop :=
  Triple I x fun a st => I st ∧ Q a

variable {I : σ × List Change → Prop} {Q : α → Prop} {x : Watch H α}

namespace Holds

theorem pure {a : α} (h : Q a) : Holds I (Pure.pure a : Watch H α) Q :=
  Triple.pure fun _ hst => ⟨hst, h⟩

theorem bind {Q' : β → Prop} {f : α → Watch H β} (hx : Holds I x Q) (hf : ∀ a, Q a → Holds I (f a) Q') :
    Holds I (x >>= f) Q' :=
  Triple.bind hx fun a st ⟨hst, hq⟩ => hf a hq st hst

theorem pure_bind {a : α} {f : α → Watch H β} {Q' : β → Prop} (h : Holds I (f a) Q') :
    Holds I (Pure.pure a >>= f) Q' := by
  rw [LawfulMonad.pure_bind]
  exact h

theorem ask {y : StateM σ α} (hI : ∀ st, I st → I ((y.run st.1).2, st.2)) (hq : ∀ s, Q (y.run s).1) :
    Holds I (Watch.ask y : Watch H α) Q :=
  fun st hst => ⟨hI st hst, hq st.1⟩

theorem ask_true {y : StateM σ α} (hI : ∀ st, I st → I ((y.run st.1).2, st.2)) :
    Holds I (Watch.ask y : Watch H α) fun _ => True :=
  ask hI fun _ => trivial

theorem change {c : Change} {y : StateM σ α} (hI : ∀ st, I st → I ((y.run st.1).2, c :: st.2)) :
    Holds I (Watch.change c y : Watch H α) fun _ => True :=
  fun st hst => ⟨hI st hst, trivial⟩

end Holds

/-! ### Changes asked for -/

/-- Every change written down satisfies `P`. -/
def Recorded (P : Change → Prop) (st : σ × List Change) : Prop := ∀ c ∈ st.2, P c

/-- Every change `x` asks for satisfies `P`. -/
abbrev Keeps (P : Change → Prop) (x : Watch H α) : Prop := Holds (Recorded P) x fun _ => True

variable {P : Change → Prop}

namespace Keeps

theorem pure {a : α} : Keeps P (Pure.pure a : Watch H α) := Holds.pure trivial

theorem bind {f : α → Watch H β} (hx : Keeps P x) (hf : ∀ a, Keeps P (f a)) : Keeps P (x >>= f) :=
  Holds.bind hx fun a _ => hf a

theorem ask {y : StateM σ α} : Keeps P (Watch.ask y : Watch H α) := Holds.ask_true fun _ h => h

theorem change {c : Change} {y : StateM σ α} (hc : P c) : Keeps P (Watch.change c y : Watch H α) :=
  Holds.change fun _ hst c' hc' => (List.mem_cons.1 hc').elim (· ▸ hc) (hst c')

end Keeps

/-! ### The host's operations -/

theorem keeps_makeDirs {p : Bytes} (h : P (.makeDirs p)) : Keeps P (Host.makeDirs p : Watch H _) :=
  Keeps.change h

theorem keeps_createNew {p : Bytes} (h : P (.createNew p)) : Keeps P (Host.createNew p : Watch H _) :=
  Keeps.change h

theorem keeps_append {p d : Bytes} (h : P (.append p)) : Keeps P (Host.append p d : Watch H _) :=
  Keeps.change h

theorem keeps_chmod {p : Bytes} (h : P (.chmod p)) : Keeps P (Host.chmod p : Watch H _) :=
  Keeps.change h

theorem keeps_rename {a b : Bytes} (h : P (.rename a b)) : Keeps P (Host.rename a b : Watch H _) :=
  Keeps.change h

theorem keeps_remove {p : Bytes} (h : P (.remove p)) : Keeps P (Host.remove p : Watch H _) :=
  Keeps.change h

/-- The questions a run asks of the host `H` leave `I` as it is. -/
structure Asks (H : Host (StateM σ)) (I : σ × List Change → Prop) : Prop where
  stat : ∀ p st, I st → I (((H.stat p).run st.1).2, st.2)
  lstat : ∀ p st, I st → I (((H.lstat p).run st.1).2, st.2)
  readFile : ∀ p st, I st → I (((H.readFile p).run st.1).2, st.2)
  readDir : ∀ p st, I st → I (((H.readDir p).run st.1).2, st.2)
  workDir : ∀ st, I st → I ((H.workDir.run st.1).2, st.2)
  now : ∀ st, I st → I ((H.now.run st.1).2, st.2)
  random : ∀ st, I st → I ((H.random.run st.1).2, st.2)

theorem asks_of_record (P : List Change → Prop) : Asks H fun st => P st.2 :=
  ⟨fun _ _ h => h, fun _ _ h => h, fun _ _ h => h, fun _ _ h => h, fun _ h => h, fun _ h => h, fun _ h => h⟩

namespace Asks

variable (hq : Asks H I)
include hq

theorem holds_stat (p : Bytes) : Holds I (Host.stat p : Watch H _) fun _ => True :=
  Holds.ask (hq.stat p) fun _ => trivial

theorem holds_lstat (p : Bytes) : Holds I (Host.lstat p : Watch H _) fun _ => True :=
  Holds.ask (hq.lstat p) fun _ => trivial

theorem holds_readFile (p : Bytes) : Holds I (Host.readFile p : Watch H _) fun _ => True :=
  Holds.ask (hq.readFile p) fun _ => trivial

theorem holds_readDir (p : Bytes) {Q : Except FsError (List Bytes) → Prop}
    (hQ : ∀ s, Q ((H.readDir p).run s).1) : Holds I (Host.readDir p : Watch H _) Q :=
  Holds.ask (hq.readDir p) hQ

theorem holds_now : Holds I (Host.now : Watch H _) fun _ => True :=
  Holds.ask hq.now fun _ => trivial

end Asks

end Watch

/-- A journal that keeps the record as it is: its entries and what it keeps for the report are not
changes asked of the filesystem by the run. -/
def Journal.Quiet {σ : Type} {H : Host (StateM σ)} (j : Journal (Watch H)) : Prop :=
  (∀ e st, ((j.log e).run st).2.2 = st.2) ∧ (∀ n d st, ((j.keepData n d).run st).2.2 = st.2) ∧
    ∀ n p st, ((j.keepFile n p).run st).2.2 = st.2

namespace Journal.Quiet

variable {σ : Type} {H : Host (StateM σ)} {j : Journal (Watch H)} {P : Change → Prop}

theorem keeps_log (hj : j.Quiet) (e : Log.Entry) : Watch.Keeps P (j.log e) := fun st hst =>
  ⟨fun c (hc : c ∈ ((j.log e).run st).2.2) => hst c (hj.1 e st ▸ hc), trivial⟩

theorem keeps_keepData (hj : j.Quiet) (n d : Bytes) : Watch.Keeps P (j.keepData n d) := fun st hst =>
  ⟨fun c (hc : c ∈ ((j.keepData n d).run st).2.2) => hst c (hj.2.1 n d st ▸ hc), trivial⟩

theorem keeps_keepFile (hj : j.Quiet) (n p : Bytes) : Watch.Keeps P (j.keepFile n p) := fun st hst =>
  ⟨fun c (hc : c ∈ ((j.keepFile n p).run st).2.2) => hst c (hj.2.2 n p st ▸ hc), trivial⟩

end Journal.Quiet

theorem Journal.silent_quiet {σ : Type} {H : Host (StateM σ)} : (Journal.silent : Journal (Watch H)).Quiet :=
  ⟨fun _ _ => rfl, fun _ _ _ => rfl, fun _ _ _ => rfl⟩

end ResourceSymbols
