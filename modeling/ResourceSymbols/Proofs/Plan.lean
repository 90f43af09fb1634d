import ResourceSymbols.Proofs.Tree
import ResourceSymbols.Compile.Sources

namespace ResourceSymbols

open ResourceSymbols.Path

def Memory.answer {α : Type} (w : Memory) (x : InMemory α) : α := (x.run w).1

namespace Compile

/-- One input of a compile run: the path of its symbol text relative to the source, and the table
read from it, if there is one. -/
structure Input where
  src : Bytes
  table : Option Table

def Input.target (s : Settings) (dst : Bytes) (inp : Input) (t : Table) : Bytes :=
  Path.join [outputDir s inp.src dst, t.javaPath]

def tableOf (s : Settings) (pkg : Bytes) (d : Delivery) : Option Table :=
  (Table.read { name := s.tableName, pkg } d.bytes d.stop).toOption

def fileInput (s : Settings) (w : Memory) (path rel : Bytes) : Input where
  src := rel
  table := do
    let pkg ← if !s.package.isEmpty then some s.package
      else (w.answer (Manifest.packageNextTo path s.config.input.manifestFileName)).toOption
    let d ← (w.read path).toOption
    tableOf s pkg d

def memberText (s : Settings) (mem : Zip.Member) : Bytes :=
  match s.charset with
  | some cs =>
    match cs.decoding with
    | some d => if !mem.nonUtf8 then mem.name else (d.decode mem.name).toOption.getD mem.name
    | none => mem.name
  | none => mem.name

def memberPackage (s : Settings) (ix : Archive.Index) (mem : Zip.Member) : Option Bytes :=
  if !s.package.isEmpty then some s.package
  else match ix.sibling? mem s.config.input.manifestFileName with
    | none => some []
    | some man => do
      let d ← (ix.read man .buffered).toOption
      (Manifest.package d.bytes (d.stop.map Failure.message)).toOption

def memberTable (s : Settings) (ix : Archive.Index) (mem : Zip.Member) : Option Table := do
  let pkg ← memberPackage s ix mem
  let d ← (ix.read mem .lines).toOption
  tableOf s pkg d

def memberInput (s : Settings) (ix : Archive.Index) (pathOut : Bytes) (mem : Zip.Member) : Input where
  src := Path.join [pathOut, memberText s mem]
  table := memberTable s ix mem

def archivePlan (s : Settings) (w : Memory) (path pfx pathOut : Bytes) : List Input :=
  match w.read path with
  | .error _ => []
  | .ok { stop := some _, .. } => []
  | .ok d =>
    let archive := ByteArray.mk d.bytes.toArray
    match Zip.members archive with
    | .error _ => []
    | .ok ms =>
      match Archive.select archive ms pfx (some (Archive.baseNameIs s.config.input.symbolFileName)) with
      | .error _ => []
      | .ok (visited, ix) => visited.map (memberInput s ix pathOut)

def visitPlan (s : Settings) (w : Memory) (dir path : Bytes) : Except FsError Kind → List Input
  | .error _ => []
  | .ok k =>
    if k != .regular then []
    else
      let rel := Bytes.dropPrefix (Bytes.dropPrefix path dir) [Path.slash]
      match w.answer (isArchive s.config.extensions path) with
      | .error _ => []
      | .ok true => archivePlan s w path [] (Path.dir rel)
      | .ok false =>
        if Path.base path != s.config.input.symbolFileName then [] else [fileInput s w path rel]

def walkPlan (s : Settings) (w : Memory) (dir path : Bytes) (kind : Kind) : Nat → List Input
  | 0 => []
  | depth + 1 =>
    visitPlan s w dir path (.ok kind) ++
      if kind != .directory && kind != .regular then []
      else match w.list path with
        | .error e => if kind == .directory then visitPlan s w dir path (.error e) else []
        | .ok names => names.flatMap fun name =>
            match w.stat (Path.join [path, name]) with
            | .error e => visitPlan s w dir (Path.join [path, name]) (.error e)
            | .ok k => walkPlan s w dir (Path.join [path, name]) k depth

def dirPlan (s : Settings) (w : Memory) (dir : Bytes) : List Input :=
  match w.stat dir with
  | .error e => visitPlan s w dir dir (.error e)
  | .ok k => walkPlan s w dir dir k walkLevels

def locatePlan (s : Settings) (w : Memory) (src : Bytes) : Bytes → Bytes → Nat → List Input
  | _, _, 0 => []
  | head, tail, fuel + 1 =>
    if head.isEmpty then []
    else
      let head := Bytes.dropSuffix head [Path.slash]
      match w.stat head with
      | .error _ => locatePlan s w src (Path.split head).1 (Path.split head).2 fuel
      | .ok .directory => if !tail.isEmpty then [] else dirPlan s w head
      | .ok .regular =>
        match w.answer (isArchive s.config.extensions head) with
        | .error _ => []
        | .ok true => archivePlan s w head (Bytes.dropPrefix (Bytes.dropPrefix src head) [Path.slash]) []
        | .ok false => if !tail.isEmpty then [] else [fileInput s w head (Path.base head)]
      | .ok _ => []

def plan (s : Settings) (w : Memory) (src : Bytes) : List Input :=
  locatePlan s w src src [] (src.length + 2)

end Compile

end ResourceSymbols
