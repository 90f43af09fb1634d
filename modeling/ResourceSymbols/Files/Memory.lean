import ResourceSymbols.Files.Host

namespace ResourceSymbols

/-- A filesystem in memory, with what was written to the standard output. -/
structure Memory where
  nodes : List (Bytes × Node) := [([Path.slash], .dir)]
  readOnly : Bool := false
  stdout : Bytes := []
  workDir : Bytes := [Path.slash]
  tempDir : Bytes := [Path.slash]
  drawn : Nat := 0
  unlisted : List Bytes := []

namespace Memory

def key (p : Bytes) : Bytes :=
  let c := Path.clean p
  if c == [46] || c == [46, 46] then [Path.slash] else c

def parentKey (k : Bytes) : Bytes := key (Path.split k).1

def get? (w : Memory) (p : Bytes) : Option Node := w.nodes.lookup (key p)

def put (w : Memory) (k : Bytes) (n : Node) : Memory :=
  { w with nodes := (k, n) :: w.nodes.filter (·.1 != k) }

/-- List a kept name in its directory again. -/
def enlist (w : Memory) (k : Bytes) : Memory :=
  { w with unlisted := w.unlisted.filter (· != k) }

/-- Register a kept name with its directory: the node there lists it, whatever its kind, and a
missing directory is made and registered in turn. -/
def attach (w : Memory) (k : Bytes) : Nat → Memory
  | 0 => w
  | fuel + 1 =>
    let pk := parentKey k
    if pk == k then w.enlist k
    else match w.nodes.lookup pk with
      | some _ => w.enlist k
      | none => ((w.enlist k).put pk .dir).attach pk fuel

def place (w : Memory) (k : Bytes) (n : Node) : Memory := (w.put k n).attach k (k.length + 1)

def refused : FsError := { message := Bytes.ofString "operation not permitted" }

def missing (op : String) (p : Bytes) : FsError :=
  FsError.onPath (Bytes.ofString op) p (Bytes.ofString "file does not exist") true

def find (w : Memory) (p : Bytes) : Except FsError Node :=
  match w.get? p with
  | some n => .ok n
  | none => .error (missing "open" (key p))

def stat (w : Memory) (p : Bytes) : Except FsError Kind := (w.find p).map Node.kind

def read (w : Memory) (p : Bytes) : Except FsError Delivery :=
  (w.find p).map fun
    | .file d => { bytes := d }
    | _ => { bytes := [] }

/-- The kept names a node lists. -/
def children (w : Memory) (k : Bytes) : List Bytes :=
  (w.nodes.filter fun e => e.1 != k && parentKey e.1 == k && !w.unlisted.contains e.1).map (·.1)

/-- The names directly in a directory, in byte order. -/
def list (w : Memory) (p : Bytes) : Except FsError (List Bytes) := do
  let k := key p
  let n ← w.find p
  let names := (w.children k).map Path.base
  if n == .dir || !names.isEmpty then pure (names.mergeSort Bytes.le)
  else throw (FsError.onPath (Bytes.ofString "readdir") k (Bytes.ofString "not a dir"))

def makeDirs (w : Memory) (p : Bytes) : Except FsError Memory :=
  if w.readOnly then .error refused
  else match w.get? p with
    | some _ => .ok w
    | none => .ok (w.place (key p) .dir)

def createNew (w : Memory) (p : Bytes) : Except FsError Memory :=
  if w.readOnly then .error refused
  else match w.get? p with
    | some _ => .error { FsError.onPath (Bytes.ofString "open") p (Bytes.ofString "file already exists") with taken := true }
    | none => .ok (w.place (key p) (.file []))

def create (w : Memory) (p : Bytes) : Except FsError Memory :=
  if w.readOnly then .error refused
  else match w.get? p with
    | some .dir => .ok w
    | some _ => .ok (w.put (key p) (.file []))
    | none => .ok (w.place (key p) (.file []))

def openAppend (w : Memory) (p : Bytes) : Except FsError Memory :=
  if w.readOnly then .error refused
  else match w.get? p with
    | some _ => .ok w
    | none => .ok (w.place (key p) (.file []))

def append (w : Memory) (p : Bytes) (data : Bytes) : Except FsError Memory :=
  if w.readOnly then .error refused
  else match w.get? p with
    | some (.file d) => .ok (w.put (key p) (.file (d ++ data)))
    | some _ => .ok w
    | none => .error (missing "write" p)

def chmod (w : Memory) (p : Bytes) : Except FsError Memory :=
  if w.readOnly then .error refused
  else match w.get? p with
    | some _ => .ok w
    | none => .error (missing "chmod" (key p))

def moved (old new k : Bytes) : Bytes :=
  if k == old then new
  else if k.startsWith (old ++ [Path.slash]) then new ++ k.drop old.length
  else k

/-- Move a path and its descendants to a new name, replacing what is there. -/
def rename (w : Memory) (old new : Bytes) : Except FsError Memory :=
  if w.readOnly then .error refused
  else
    let ko := key old
    let kn := key new
    if ko == kn then .ok w
    else match w.nodes.lookup ko with
      | none => .error (missing "rename" ko)
      | some _ =>
        let movedNodes := (w.nodes.filter fun e => moved ko kn e.1 != e.1).map fun e =>
          (moved ko kn e.1, e.2)
        let rest := w.nodes.filter fun e =>
          moved ko kn e.1 == e.1 && !movedNodes.any (·.1 == e.1)
        -- what the replaced node listed stays, unlisted; what moved is listed where it went
        let orphans := (rest.filter fun e => e.1 != kn && parentKey e.1 == kn).map (·.1)
        let unlisted := orphans ++ w.unlisted.filter fun k => !movedNodes.any (·.1 == k)
        .ok (({ w with nodes := movedNodes ++ rest, unlisted } : Memory).attach kn (kn.length + 1))

/-- Remove the node at a path. -/
def remove (w : Memory) (p : Bytes) : Except FsError Memory :=
  if w.readOnly then .error refused
  else
    let k := key p
    match w.nodes.lookup k with
    | some _ => .ok { w with nodes := w.nodes.filter (·.1 != k), unlisted := w.children k ++ w.unlisted }
    | none => .error (missing "remove" k)

def files (w : Memory) : List (Bytes × Bytes) :=
  (w.nodes.filterMap fun
    | (k, .file d) => some (k, d)
    | _ => none).mergeSort fun a b => Bytes.le a.1 b.1

end Memory

/-- A run in memory: the filesystem is the state, the clock stands still and random numbers count
up. -/
abbrev InMemory := StateM Memory

instance : Host InMemory where
  stat p := fun w => (w.stat p, w)
  lstat p := fun w => (w.stat p, w)
  statTime p := fun w => ((w.stat p).map fun k => (k, 0), w)
  readFile p := fun w => (w.read p, w)
  readDir p := fun w => (w.list p, w)
  makeDirs p := StateM.change (·.makeDirs p)
  createNew p := StateM.change (·.createNew p)
  create p := StateM.change (·.create p)
  openAppend p := StateM.change (·.openAppend p)
  append p d := StateM.change (·.append p d)
  chmod p := StateM.change (·.chmod p)
  rename a b := StateM.change (·.rename a b)
  remove p := StateM.change (·.remove p)
  toStdout d := fun w => (.ok (), { w with stdout := w.stdout ++ d })
  toStderr _ := pure ()
  workDir := fun w => (w.workDir, w)
  tempDir := fun w => (w.tempDir, w)
  now := pure 0
  random := fun w => (w.drawn, { w with drawn := w.drawn + 1 })

end ResourceSymbols
