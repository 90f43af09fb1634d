import ResourceSymbols.Files.Node

namespace ResourceSymbols

/-- The operations a run asks of the machine it runs on. -/
class Host (m : Type → Type) where
  stat : Bytes → m (Except FsError Kind)
  lstat : Bytes → m (Except FsError Kind)
  statTime : Bytes → m (Except FsError (Kind × Nat))
  readFile : Bytes → m (Except FsError Delivery)
  readDir : Bytes → m (Except FsError (List Bytes))
  makeDirs : Bytes → m (Except FsError Unit)
  createNew : Bytes → m (Except FsError Unit)
  create : Bytes → m (Except FsError Unit)
  openAppend : Bytes → m (Except FsError Unit)
  append : Bytes → Bytes → m (Except FsError Unit)
  chmod : Bytes → m (Except FsError Unit)
  rename : Bytes → Bytes → m (Except FsError Unit)
  remove : Bytes → m (Except FsError Unit)
  toStdout : Bytes → m (Except FsError Unit)
  toStderr : Bytes → m Unit
  workDir : m Bytes
  tempDir : m Bytes
  now : m Nat
  random : m Nat

def StateM.change {σ : Type} (f : σ → Except FsError σ) : StateM σ (Except FsError Unit) :=
  fun s => match f s with
    | .ok s' => (.ok (), s')
    | .error e => (.error e, s)

/-- The operations of a host, asked from computations that the host's computations lift into. -/
@[reducible] def Host.lift (m : Type → Type) {n : Type → Type} [Host m] [MonadLiftT m n] : Host n where
  stat p := monadLift (Host.stat (m := m) p)
  lstat p := monadLift (Host.lstat (m := m) p)
  statTime p := monadLift (Host.statTime (m := m) p)
  readFile p := monadLift (Host.readFile (m := m) p)
  readDir p := monadLift (Host.readDir (m := m) p)
  makeDirs p := monadLift (Host.makeDirs (m := m) p)
  createNew p := monadLift (Host.createNew (m := m) p)
  create p := monadLift (Host.create (m := m) p)
  openAppend p := monadLift (Host.openAppend (m := m) p)
  append p d := monadLift (Host.append (m := m) p d)
  chmod p := monadLift (Host.chmod (m := m) p)
  rename a b := monadLift (Host.rename (m := m) a b)
  remove p := monadLift (Host.remove (m := m) p)
  toStdout d := monadLift (Host.toStdout (m := m) d)
  toStderr d := monadLift (Host.toStderr (m := m) d)
  workDir := monadLift (Host.workDir (m := m))
  tempDir := monadLift (Host.tempDir (m := m))
  now := monadLift (Host.now (m := m))
  random := monadLift (Host.random (m := m))

instance {σ : Type} {m : Type → Type} [Monad m] [Host m] : Host (StateT σ m) := Host.lift m

instance {ε : Type} {m : Type → Type} [Monad m] [Host m] : Host (ExceptT ε m) := Host.lift m

end ResourceSymbols
