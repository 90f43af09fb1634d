import ResourceSymbols.Files.Host

namespace ResourceSymbols.Files

/-- The nine digits of a random name: the number below 10^9 it leaves, zero-padded. -/
def nineDigits (r : Nat) : Bytes :=
  let s := Bytes.ofNat (1000000000 + r % 1000000000)
  s.drop 1

/-- Make a new file named `dir/head<digits>tail` that did not exist before, trying new random
digits while the name is taken, at most `tries` times. -/
def createFresh {m : Type → Type} [Monad m] [Host m] (dir head tail : Bytes) :
    Nat → m (Except FsError Bytes)
  | 0 => return .error { message := Bytes.ofString "no fresh name" }
  | tries + 1 => do
    let r ← Host.random
    let name := Path.join [dir, head ++ nineDigits r ++ tail]
    match ← Host.createNew name with
    | .ok () => return .ok name
    | .error e =>
      if e.taken && tries != 0 then createFresh dir head tail tries else return .error e

/-- Write bytes to a file by way of a temporary file renamed over it. -/
def replaceFile {m : Type → Type} [Monad m] [Host m] (path data : Bytes) : m (Except FsError Unit) := do
  let tmp ← match ← createFresh (Path.dir path) ([46] ++ Path.base path ++ [46]) (Bytes.ofString ".tmp") 10000 with
    | .ok t => pure t
    | .error e => return .error e
  let fail (e : FsError) : m (Except FsError Unit) := do
    let _ ← Host.remove tmp
    return .error e
  match ← Host.append tmp data with
  | .error e => fail e
  | .ok () =>
    match ← Host.chmod tmp with
    | .error e => fail e
    | .ok () =>
      match ← Host.rename tmp path with
      | .error e => fail e
      | .ok () => return .ok ()

end ResourceSymbols.Files
