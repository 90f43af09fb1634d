import ResourceSymbols.Zip.Archive
import ResourceSymbols.Path
import ResourceSymbols.Text.Quote
import ResourceSymbols.Files.Host

namespace ResourceSymbols.Archive

open Zip

/-- Whether a member name stays inside the directory an archive would be unpacked into. -/
def isSafePath (name : Bytes) : Bool :=
  name.head? != some 47 && name.head? != some 92 && !((Bytes.splitOn name 47).any (· == [46, 46]))

/-- The refusal of an archive for a member name that could escape. -/
def unsafePath (name : Bytes) : Failure :=
  .note (Bytes.ofString "zip entry " ++ Quote.quote name
    ++ Bytes.ofString ": unsafe path (absolute or contains path traversal)")

/-- The non-directory members of an archive, in archive order, with the archive they are read from. -/
structure Index where
  archive : ByteArray
  members : List Member

def Index.find? (ix : Index) (name : Bytes) : Option Member :=
  ix.members.reverse.find? fun m => m.name == name

/-- The member with base name `name` in the directory of member `m`. -/
def Index.sibling? (ix : Index) (m : Member) (name : Bytes) : Option Member :=
  let dir := Path.dir m.name
  if dir == [46] then ix.find? name else ix.find? (Path.join [dir, name])

def Index.names (ix : Index) : List Bytes :=
  ((ix.members.map Member.name).eraseDups).mergeSort Bytes.le

def Index.read (ix : Index) (m : Member) (intake : Zip.Intake) : Except Failure Delivery :=
  m.read ix.archive intake

/-- A match that accepts member names with a given base name. -/
def baseNameIs (n : Bytes) (entry : Bytes) : Bool := Path.base entry == n

/-- The members a walk visits, with the index every visit sees, or the refusal of the archive. -/
def select (archive : ByteArray) (ms : List Member) (pfx : Bytes) (accept : Option (Bytes → Bool)) :
    Except Failure (List Member × Index) :=
  match ms.find? fun m => !isSafePath m.name with
  | some m => .error (unsafePath m.name)
  | none =>
    let index : Index := ⟨archive, ms.filter fun m => !m.isDir⟩
    let visited := ms.filter fun m =>
      !m.isDir && m.name.startsWith pfx && (accept.map (· m.name)).getD true
    .ok (visited, index)

/-- Visit the selected members in order until a visit fails; the failure ends the walk. -/
def walk {m : Type → Type} [Monad m] (archive : ByteArray) (ms : List Member) (pfx : Bytes)
    (accept : Option (Bytes → Bool)) (visit : Member → Index → m (Option Failure)) :
    m (Option Failure) :=
  match select archive ms pfx accept with
  | .error f => pure (some f)
  | .ok (visited, index) =>
    visited.foldlM (fun acc mem => match acc with
      | some f => pure (some f)
      | none => visit mem index) none

/-- Read the archive stored at a path of the host and walk it. -/
def walkFile {m : Type → Type} [Monad m] [Host m] (path pfx : Bytes)
    (accept : Option (Bytes → Bool)) (visit : Member → Index → m (Option Failure)) :
    m (Option Failure) := do
  match ← Host.readFile path with
  | .error e => pure (some e.toFailure)
  | .ok { stop := some f, .. } => pure (some f)
  | .ok d =>
    let archive := ByteArray.mk d.bytes.toArray
    match members archive with
    | .error f => pure (some f)
    | .ok ms => walk archive ms pfx accept visit

end ResourceSymbols.Archive
