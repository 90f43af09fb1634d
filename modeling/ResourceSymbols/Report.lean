import ResourceSymbols.Zip.Writer
import ResourceSymbols.Files.Buffer
import ResourceSymbols.Files.Temp

namespace ResourceSymbols

/-- A fault of the program: the run stops, the steps it put off are taken, and the program ends
with status 2 after printing the message. -/
structure Panic where
  message : Bytes

/-- Something kept in the report. -/
inductive Report.Item
  | data (bytes : Bytes) (stamp : Nat)
  | file (original actual : Bytes)

/-- A report being gathered. -/
structure Report where
  file : Bytes
  items : List (Bytes × Report.Item) := []

namespace Report

/-- Put an item under a name in a list ordered by names, replacing one of the same name. -/
def insert (name : Bytes) (item : Item) : List (Bytes × Item) → List (Bytes × Item)
  | [] => [(name, item)]
  | (k, v) :: rest =>
    if name == k then (name, item) :: rest
    else if Bytes.le name k then (name, item) :: (k, v) :: rest
    else (k, v) :: insert name item rest

def has (r : Report) (name : Bytes) : Bool := r.items.any (·.1 == name)

/-- The path an item was given as: empty for bytes. -/
def Item.original : Item → Bytes
  | .data _ _ => []
  | .file o _ => o

/-- Keep a file, given by a path relative to `cwd` or absolute, under a name, replacing what is
kept there. -/
def putFile (r : Report) (cwd name path : Bytes) : Report :=
  { r with items := insert name (.file path (Path.abs cwd path)) r.items }

/-- Keep a file under a name; a name in use for another path is a fault. -/
def storeFile (r : Report) (cwd name path : Bytes) : Except Panic Report :=
  match r.items.lookup name with
  | some old =>
    if old.original != path then
      .error ⟨Bytes.ofString "Attempt to overwrite file in the report for [" ++ name
        ++ Bytes.ofString "]: was " ++ old.original ++ Bytes.ofString ", now " ++ path⟩
    else .ok (r.putFile cwd name path)
  | none => .ok (r.putFile cwd name path)

/-- Keep bytes under a name at time `stamp`; a name in use gets the time `suffix` read before it as
a suffix. -/
def storeData (r : Report) (name data : Bytes) (suffix stamp : Nat) : Report :=
  let name := if r.has name then name ++ [45] ++ Bytes.ofNat suffix else name
  { r with items := insert name (.data data stamp) r.items }

/-- The manifest: one line per item, files stamped with `now`. -/
def manifest (r : Report) (now : Nat) : Bytes :=
  r.items.flatMap fun (name, item) =>
    let (stamp, original, actual) := match item with
      | .data _ t => (t, [], [])
      | .file o a => (now, o, a)
    Bytes.ofString (Clock.unixDate stamp) ++ [9] ++ name ++ [9] ++ original ++ Bytes.ofString " : "
      ++ actual ++ [10]

/-- The absolute path of the archive. -/
def location (r : Report) (cwd : Bytes) : Bytes := Path.abs cwd r.file

variable {m : Type → Type} [Monad m] [Host m]

/-- Open the archive file at a destination, or else a temporary one. -/
def create (destination : Bytes) : m (Except Failure Report) := do
  match ← Host.create destination with
  | .ok () => return .ok { file := destination }
  | .error _ =>
    match ← Files.createTemp (Bytes.ofString "rgen-report.") (Bytes.ofString ".zip") with
    | .ok name => return .ok { file := name }
    | .error e => return .error (.within (Bytes.ofString "unable to create report: ") e.toFailure)

/-- The member an item becomes, if any: its bytes, or the content of a regular file stamped when
that last changed. -/
def Item.member (name : Bytes) : Item → m (Except FsError (Option Zip.Item))
  | .data bytes stamp =>
    if bytes.isEmpty then return .ok none else return .ok (some (Zip.Item.ofData name stamp bytes 0))
  | .file _ actual => do
    match ← Host.statTime actual with
    | .ok (.regular, stamp) =>
      match ← Host.readFile actual with
      | .error e => return .error e
      | .ok { bytes, stop := none } => return .ok (some (Zip.Item.ofData name stamp bytes 32768))
      | .ok { stop := some f, .. } => return .error { message := f.message }
    | _ => return .ok none

/-- Add the members of items after `last`, stopping at the first failure, which is reported under
the item's name. -/
def addAll (buf : Files.Buffer) (added : List Zip.Item) (last : Option Zip.Item) :
    List (Bytes × Item) → m (Files.Buffer × List Zip.Item × Option Zip.Item × Option Failure)
  | [] => return (buf, added, last, none)
  | (name, item) :: rest => do
    let failed (e : FsError) : Failure :=
      .within (Bytes.ofString "unable to store " ++ name ++ Bytes.ofString " in report: ") e.toFailure
    match ← Item.member name item with
    | .error e => return (buf, added, last, some (failed e))
    | .ok none => addAll buf added last rest
    | .ok (some i) =>
      let buf ← buf.put (Zip.finish last ++ Zip.localHeader i)
      let buf ← buf.put i.early
      match buf.failed with
      | some e => return (buf, added, last, some (failed e))
      | none => addAll buf (added ++ [i]) (some i) rest

/-- Write the archive: the manifest, then every item, then the directory. -/
def close (r : Report) : m (Option Failure) := do
  -- the files are listed at one reading of the clock, taken only when there are items, and the
  -- manifest is stamped at the next
  let listed ← if r.items.isEmpty then pure 0 else Host.now
  let now ← Host.now
  let head := Zip.Item.ofData (Bytes.ofString "MANIFEST") now (r.manifest listed) 0
  let buf ← ({ path := r.file } : Files.Buffer).put (Zip.localHeader head)
  let buf ← buf.put head.early
  let (buf, added, last, failure) ←
    match buf.failed with
    | some e => pure (buf, [head], some head, some e.toFailure)
    | none => addAll buf [head] (some head) r.items
  let buf ← buf.put (Zip.closing added last)
  let buf ← buf.flush
  match failure, buf.failed with
  | some f, _ => return some f
  | none, some e => return some e.toFailure
  | none, none => return none

end Report

end ResourceSymbols
