import ResourceSymbols.Files.Host

namespace ResourceSymbols.Files

def inDir (dir name : Bytes) : Bytes :=
  if dir.getLast? == some Path.slash then dir ++ name else dir ++ [Path.slash] ++ name

def createTempIn {m : Type → Type} [Monad m] [Host m] (dir head tail : Bytes) :
    Nat → m (Except FsError Bytes)
  | 0 =>
    return .error (FsError.onPath (Bytes.ofString "createtemp") (inDir dir head ++ [42] ++ tail)
      (Bytes.ofString "file exists"))
  | tries + 1 => do
    let r ← Host.random
    let name := inDir dir head ++ Bytes.ofNat r ++ tail
    match ← Host.createNew name with
    | .ok () => return .ok name
    | .error e => if e.taken then createTempIn dir head tail tries else return .error e

def createTemp {m : Type → Type} [Monad m] [Host m] (head tail : Bytes) : m (Except FsError Bytes) := do
  let dir ← Host.tempDir
  createTempIn dir head tail 10000

end ResourceSymbols.Files
