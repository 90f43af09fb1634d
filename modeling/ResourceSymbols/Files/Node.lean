import ResourceSymbols.Path
import ResourceSymbols.Failure

namespace ResourceSymbols

/-- What a path holds. -/
inductive Node
  | file (data : Bytes)
  | dir
  | link (target : Bytes)
  | sink
  | full
deriving DecidableEq, Repr

/-- What a path is, as a status query tells. -/
inductive Kind
  | regular
  | directory
  | symlink
  | device
deriving DecidableEq, Repr

def Node.kind : Node → Kind
  | .file _ => .regular
  | .dir => .directory
  | .link _ => .symlink
  | .sink => .device
  | .full => .device

/-- A failed filesystem operation. -/
structure FsError where
  message : Bytes
  missing : Bool := false
  taken : Bool := false
deriving Repr

def FsError.toFailure (e : FsError) : Failure := .note e.message

def FsError.onPath (op path reason : Bytes) (missing : Bool := false) : FsError :=
  { message := op ++ [32] ++ path ++ Bytes.ofString ": " ++ reason, missing := missing }

def FsError.onPaths (op old new reason : Bytes) : FsError :=
  { message := op ++ [32] ++ old ++ [32] ++ new ++ Bytes.ofString ": " ++ reason }

end ResourceSymbols
