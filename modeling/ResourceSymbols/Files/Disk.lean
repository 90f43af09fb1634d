import ResourceSymbols.Files.Host

namespace ResourceSymbols

/-- Why a system call failed. -/
inductive Errno
  | noEntry
  | notDir
  | isDir
  | already
  | noSpace
  | nameTooLong
  | loop
  | notEmpty
deriving DecidableEq, Repr

def Errno.text : Errno → Bytes
  | .noEntry => Bytes.ofString "no such file or directory"
  | .notDir => Bytes.ofString "not a directory"
  | .isDir => Bytes.ofString "is a directory"
  | .already => Bytes.ofString "file exists"
  | .noSpace => Bytes.ofString "no space left on device"
  | .nameTooLong => Bytes.ofString "file name too long"
  | .loop => Bytes.ofString "too many levels of symbolic links"
  | .notEmpty => Bytes.ofString "directory not empty"

def Errno.on (e : Errno) (op : String) (p : Bytes) : FsError :=
  FsError.onPath (Bytes.ofString op) p e.text (e == .noEntry)

/-- A disk and the streams of the run that uses it. -/
structure Disk where
  nodes : List (Bytes × Node)
  workDir : Bytes
  tempDir : Bytes
  stdout : Bytes := []
  stderr : Bytes := []
  stdoutFull : Bool := false
  clock : Nat := 0
  pace : Nat := 0
  readings : Nat := 0
  drawn : Nat := 0
  stamps : List (Bytes × Nat) := []

namespace Disk

def nameMax : Nat := 255

def node? (d : Disk) (k : Bytes) : Option Node := d.nodes.lookup k

def child (dir name : Bytes) : Bytes := if dir == [Path.slash] then dir ++ name else dir ++ [Path.slash] ++ name

def parentOf (k : Bytes) : Bytes := Path.dir k

/-- Where a path leads: the absolute name of its last element and the node there, if any. -/
structure Place where
  name : Bytes
  node : Option Node

def walk (d : Disk) (follow : Bool) (fuel : Nat) (cur : Bytes) (els : List Bytes) :
    Except Errno Place :=
  match els with
  | [] => .ok ⟨cur, d.node? cur⟩
  | e :: rest =>
    if e == [46] then walk d follow fuel cur rest
    else if e == [46, 46] then walk d follow fuel (parentOf cur) rest
    else if e.length > nameMax then .error .nameTooLong
    else
      let full := child cur e
      match d.node? full with
      | none => if rest.isEmpty then .ok ⟨full, none⟩ else .error .noEntry
      | some (.link t) =>
        if rest.isEmpty && !follow then .ok ⟨full, some (.link t)⟩
        else match fuel with
          | 0 => .error .loop
          | fuel' + 1 =>
            let start := if Path.isAbs t then [Path.slash] else cur
            walk d follow fuel' start (Path.elements t ++ rest)
      | some .dir => walk d follow fuel full rest
      | some n => if rest.isEmpty then .ok ⟨full, some n⟩ else .error .notDir
termination_by (fuel, els.length)

def resolve (d : Disk) (p : Bytes) (follow : Bool) : Except Errno Place := do
  if p.isEmpty then throw .noEntry
  let start := if Path.isAbs p then [Path.slash] else d.workDir
  let trailing := p.getLast? == some Path.slash
  let place ← walk d (follow || trailing) 40 start (Path.elements p)
  if trailing then
    match place.node with
    | some .dir | none => pure place
    | some _ => throw .notDir
  else pure place

def put (d : Disk) (k : Bytes) (n : Node) : Disk :=
  { d with nodes := (k, n) :: d.nodes.filter (·.1 != k) }

/-- Put a file's content under an absolute name, noting the time. -/
def write (d : Disk) (k b : Bytes) : Disk :=
  { d.put k (.file b) with stamps := (k, d.clock) :: d.stamps }

def stat (d : Disk) (op : String) (p : Bytes) (follow : Bool) : Except FsError Kind :=
  match d.resolve p follow with
  | .error e => .error (e.on op p)
  | .ok ⟨_, none⟩ => .error (Errno.noEntry.on op p)
  | .ok ⟨_, some n⟩ => .ok n.kind

/-- The kind of node a path leads to, with the time its content last changed. -/
def statTime (d : Disk) (p : Bytes) : Except FsError (Kind × Nat) :=
  match d.resolve p true with
  | .error e => .error (e.on "stat" p)
  | .ok ⟨_, none⟩ => .error (Errno.noEntry.on "stat" p)
  | .ok ⟨k, some n⟩ => .ok (n.kind, (d.stamps.lookup k).getD 0)

def read (d : Disk) (p : Bytes) : Except FsError Delivery :=
  match d.resolve p true with
  | .error e => .error (e.on "open" p)
  | .ok ⟨_, none⟩ => .error (Errno.noEntry.on "open" p)
  | .ok ⟨_, some (.file b)⟩ => .ok { bytes := b }
  | .ok ⟨_, some .dir⟩ => .ok { bytes := [], stop := some (Errno.isDir.on "read" p).toFailure }
  | .ok _ => .ok { bytes := [] }

def list (d : Disk) (p : Bytes) : Except FsError (List Bytes) :=
  match d.resolve p true with
  | .error e => .error (e.on "open" p)
  | .ok ⟨_, none⟩ => .error (Errno.noEntry.on "open" p)
  | .ok ⟨k, some .dir⟩ =>
    .ok (((d.nodes.filter fun e => e.1 != k && parentOf e.1 == k).map fun e => Path.base e.1).mergeSort
      Bytes.le)
  | .ok _ => .error (Errno.notDir.on "readdirent" p)

def mkdir (d : Disk) (p : Bytes) : Except FsError Disk :=
  match d.resolve p false with
  | .error e => .error (e.on "mkdir" p)
  | .ok ⟨_, some _⟩ => .error (Errno.already.on "mkdir" p)
  | .ok ⟨k, none⟩ => .ok (d.put k .dir)

def textParent (p : Bytes) : Bytes :=
  let trimmed := (p.reverse.dropWhile (· == Path.slash))
  (trimmed.dropWhile (· != Path.slash)).reverse

def makeDirs (d : Disk) (p : Bytes) : Nat → Except FsError Disk
  | 0 => d.mkdir p
  | fuel + 1 =>
    match d.stat "stat" p true with
    | .ok .directory => .ok d
    | .ok _ => .error (Errno.notDir.on "mkdir" p)
    | .error _ =>
      let parent := textParent p
      let parent := if parent.isEmpty then parent else parent.take (parent.length - 1)
      let above : Except FsError Disk :=
        if !parent.isEmpty then
          d.makeDirs parent fuel
        else .ok d
      match above with
      | .error e => .error e
      | .ok d' =>
        match d'.mkdir p with
        | .ok d'' => .ok d''
        | .error e =>
          match d'.stat "lstat" p false with
          | .ok .directory => .ok d'
          | _ => .error e

def openWrite (d : Disk) (p : Bytes) (truncate exclusive : Bool) : Except FsError Disk :=
  match d.resolve p (!exclusive) with
  | .error e => .error (e.on "open" p)
  | .ok ⟨k, none⟩ => .ok (d.write k [])
  | .ok ⟨k, some n⟩ =>
    if exclusive then .error { Errno.already.on "open" p with taken := true }
    else match n with
      | .dir => .error (Errno.isDir.on "open" p)
      | .file _ => if truncate then .ok (d.write k []) else .ok d
      | _ => .ok d

def append (d : Disk) (p : Bytes) (data : Bytes) : Except FsError Disk :=
  match d.resolve p true with
  | .error e => .error (e.on "write" p)
  | .ok ⟨k, some (.file b)⟩ => .ok (d.write k (b ++ data))
  | .ok ⟨_, some .full⟩ => .error (Errno.noSpace.on "write" p)
  | .ok ⟨_, some _⟩ => .ok d
  | .ok ⟨_, none⟩ => .error (Errno.noEntry.on "write" p)

def chmod (d : Disk) (p : Bytes) : Except FsError Disk :=
  match d.resolve p true with
  | .error e => .error (e.on "chmod" p)
  | .ok ⟨_, none⟩ => .error (Errno.noEntry.on "chmod" p)
  | .ok _ => .ok d

def moved (old new k : Bytes) : Bytes :=
  if k == old then new
  else if k.startsWith (old ++ [Path.slash]) then new ++ k.drop old.length
  else k

def renameError (old new : Bytes) (e : Errno) : FsError :=
  FsError.onPaths (Bytes.ofString "rename") old new e.text

def rename (d : Disk) (old new : Bytes) : Except FsError Disk :=
  match d.resolve new false with
  | .ok ⟨_, some .dir⟩ =>
    match d.resolve old false with
    | .ok ⟨_, some _⟩ => .error (renameError old new .already)
    | .ok ⟨_, none⟩ => .error (renameError old new .noEntry)
    | .error e => .error (renameError old new e)
  | _ =>
    match d.resolve old false with
    | .error e => .error (renameError old new e)
    | .ok ⟨_, none⟩ => .error (renameError old new .noEntry)
    | .ok ⟨ko, some n⟩ =>
      match d.resolve new false with
      | .error e => .error (renameError old new e)
      | .ok ⟨kn, target⟩ =>
        if n == .dir && target.isSome then .error (renameError old new .notDir)
        else if ko == kn then .ok d
        else
          let movedNodes := (d.nodes.filter fun e => moved ko kn e.1 != e.1).map fun e =>
            (moved ko kn e.1, e.2)
          let rest := d.nodes.filter fun e => moved ko kn e.1 == e.1 && e.1 != kn
          -- a moved file keeps the time its content changed
          let stamps := (d.stamps.filter fun e => moved ko kn e.1 != e.1).map fun e => (moved ko kn e.1, e.2)
          .ok { d with nodes := movedNodes ++ rest, stamps := stamps ++ d.stamps }

def remove (d : Disk) (p : Bytes) : Except FsError Disk :=
  match d.resolve p false with
  | .error e => .error (e.on "remove" p)
  | .ok ⟨_, none⟩ => .error (Errno.noEntry.on "remove" p)
  | .ok ⟨k, some n⟩ =>
    if n == .dir && d.nodes.any (fun e => e.1 != k && parentOf e.1 == k) then
      .error (Errno.notEmpty.on "remove" p)
    else .ok { d with nodes := d.nodes.filter (·.1 != k) }

def filesUnder (d : Disk) (dir : Bytes) : List (Bytes × Bytes) :=
  (d.nodes.filterMap fun
    | (k, .file b) => if k.startsWith (dir ++ [Path.slash]) then some (k, b) else none
    | _ => none).mergeSort fun a b => Bytes.le a.1 b.1

end Disk

abbrev OnDisk := StateM Disk

instance : Host OnDisk where
  stat p := fun d => (d.stat "stat" p true, d)
  lstat p := fun d => (d.stat "lstat" p false, d)
  statTime p := fun d => (d.statTime p, d)
  readFile p := fun d => (d.read p, d)
  readDir p := fun d => (d.list p, d)
  makeDirs p := StateM.change fun d => d.makeDirs p (p.length + 1)
  createNew p := StateM.change fun d => d.openWrite p true true
  create p := StateM.change fun d => d.openWrite p true false
  openAppend p := StateM.change fun d => d.openWrite p false false
  append p b := StateM.change fun d => d.append p b
  chmod p := StateM.change fun d => d.chmod p
  rename a b := StateM.change fun d => d.rename a b
  remove p := StateM.change fun d => d.remove p
  toStdout b := fun d =>
    if d.stdoutFull then (.error (Errno.noSpace.on "write" (Bytes.ofString "/dev/stdout")), d)
    else (.ok (), { d with stdout := d.stdout ++ b })
  toStderr b := fun d => ((), { d with stderr := d.stderr ++ b })
  workDir := fun d => (d.workDir, d)
  tempDir := fun d => (d.tempDir, d)
  now := fun d =>
    let step := if d.pace == 0 then 0 else d.pace + (d.readings * 2654435761 + 40503) % d.pace
    (d.clock, { d with clock := d.clock + step, readings := d.readings + 1 })
  random := fun d => ((d.drawn * 2654435761 + 1000003) % 4294967296, { d with drawn := d.drawn + 1 })

end ResourceSymbols
