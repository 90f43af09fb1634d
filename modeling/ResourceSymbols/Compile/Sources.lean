import ResourceSymbols.Config.Basic
import ResourceSymbols.Table.Text
import ResourceSymbols.Table.Java
import ResourceSymbols.Table.Dump
import ResourceSymbols.Archive.Walk
import ResourceSymbols.Charset.Registry
import ResourceSymbols.Manifest
import ResourceSymbols.Files.Replace
import ResourceSymbols.Log.Entry
import ResourceSymbols.Unicode.Case

namespace ResourceSymbols.Compile

/-- What a compilation run knows. -/
structure Settings where
  config : Config
  tableName : Bytes
  package : Bytes
  finalIds : Bool
  noDirs : Bool
  charset : Option Charset.Entry

def logger : List String := ["rgen", "compile"]

variable {m : Type → Type} [Monad m] [MonadFinally m] [Host m]

/-- The directory a table's source goes below. -/
def outputDir (s : Settings) (src dst : Bytes) : Bytes :=
  if s.noDirs then dst else Path.join [dst, Path.dir src]

/-- Write the Java source of a table below a directory, returning where it went. -/
def exportJava (t : Table) (dir : Bytes) (finalIds : Bool) : m (Except Failure Bytes) := do
  let target := Path.join [dir, t.javaPath]
  match ← Host.makeDirs (Path.dir target) with
  | .error e => return .error (.within (Bytes.ofString "unable to create output directory: ") e.toFailure)
  | .ok () =>
    match ← Files.replaceFile target (t.java finalIds) with
    | .error e =>
      return .error (.within (Bytes.ofString "unable to write java source (" ++ target ++ Bytes.ofString "): ")
        e.toFailure)
    | .ok () => return .ok target

/-- Compile the symbol text read for `src` (a path relative to the source) in a package. -/
def compileTable (s : Settings) (j : Journal m) (input : Delivery) (src pkg dst : Bytes) :
    m (Option Failure) := do
  j.say logger "Compile.compileTable" .info "Compilation starting" [⟨"from", .text src⟩, ⟨"package", .text pkg⟩]
  let start ← Host.now
  let completed (written : Bytes) : m Unit := do
    let finish ← Host.now
    j.say logger "Compile.compileTable" .info "Compilation completed"
      [⟨"elapsed", .elapsed (finish - start)⟩, ⟨"to", .text written⟩]
  match Table.read { name := s.tableName, pkg } input.bytes input.stop with
  | .error e =>
    completed []
    return some (Failure.within (Bytes.ofString "unable to parse symbols (" ++ src ++ Bytes.ofString "): ") e)
  | .ok t =>
    j.say logger "Compile.compileTable" .debug "Symbols loaded" [⟨"count", .count t.len⟩, ⟨"classes", .texts t.classes⟩]
    j.keepData (Path.join [Bytes.ofString "tables", src]) t.dump
    match ← exportJava t (outputDir s src dst) s.finalIds with
    | .error e =>
      completed []
      return some (Failure.within (Bytes.ofString "unable to generate sources: ") e)
    | .ok target =>
      tryFinally (j.keepFile (Path.join [Bytes.ofString "results", Path.dir src, t.javaPath]) target)
        (completed target)
      return none

/-- Compile a symbol file on the host; `src` is its path relative to the source. -/
def compileFile (s : Settings) (j : Journal m) (path src dst : Bytes) : m (Option Failure) := do
  let pkg ← if !s.package.isEmpty then pure s.package else
    match ← Manifest.packageNextTo path s.config.input.manifestFileName with
    | .ok p => pure p
    | .error e => return some e
  match ← Host.readFile path with
  | .error e => return some e.toFailure
  | .ok d => compileTable s j d src pkg dst

/-- A member's name as text: decoded from the forced character set when the archive does not mark
it as UTF-8. -/
def memberName (s : Settings) (j : Journal m) (mem : Zip.Member) : m Bytes := do
  match s.charset with
  | some cs =>
    match cs.decoding with
    | some d =>
      if !mem.nonUtf8 then return mem.name
      match d.decode mem.name with
      | .ok n => return n
      | .error e =>
        j.say logger "Compile.memberName" .warn "Unable to convert archive name from specified encoding"
          [⟨"charset", .text (Bytes.ofString cs.name)⟩, ⟨"path", .text mem.name⟩, ⟨"error", .failure (.note e)⟩]
        return mem.name
    | none => return mem.name
  | none => return mem.name

/-- Compile a member of an archive; `src` is its path relative to the source. -/
def compileMember (s : Settings) (j : Journal m) (ix : Archive.Index) (mem : Zip.Member) (src dst : Bytes) :
    m (Option Failure) := do
  let pkg ← if !s.package.isEmpty then pure s.package else
    match ix.sibling? mem s.config.input.manifestFileName with
    | none => pure []
    | some man =>
      match ix.read man .buffered with
      | .error e => return some e
      | .ok d =>
        match Manifest.package d.bytes (d.stop.map Failure.message) with
        | .ok p => pure p
        | .error e => return some e
  match ix.read mem .lines with
  | .error e => return some e
  | .ok d => compileTable s j d src pkg dst

/-- Compile the symbol files of the archive at `path` below `pathIn`; `pathOut` is the directory of
the archive relative to the source. -/
def compileArchive (s : Settings) (j : Journal m) (path pathIn pathOut dst : Bytes) :
    m (Option Failure) := do
  let visit (mem : Zip.Member) (ix : Archive.Index) : StateT (Nat × Option Failure) m (Option Failure) := do
    modify fun (n, errs) => (n + 1, errs)
    let name ← memberName (m := m) s j mem
    match ← compileMember (m := m) s j ix mem (Path.join [pathOut, name]) dst with
    | none => pure ()
    | some e =>
      j.say logger "Compile.compileArchive" .error "Unable to process file in archive"
        [⟨"archive", .text path⟩, ⟨"file", .text mem.name⟩, ⟨"error", .failure e⟩]
      modify fun (n, errs) => (n, Failure.append errs (some (.within (mem.name ++ Bytes.ofString ": ") e)))
    return none
  let (walked, (count, errs)) ← (Archive.walkFile path pathIn
    (some (Archive.baseNameIs s.config.input.symbolFileName)) visit).run (0, none)
  if walked.isNone && count == 0 && !pathIn.isEmpty then
    return some (.note (Bytes.ofString "no symbol files found in archive under (" ++ pathIn ++ Bytes.ofString ")"))
  let result := Failure.append walked errs
  if result.isNone && count == 0 then
    j.say logger "Compile.compileArchive" .debug "Nothing to process" [⟨"archive", .text path⟩]
  return result

/-- Whether a file is an archive to look into: its extension is one of the archive extensions,
compared without regard to case, and it starts like a zip archive. -/
def isArchive (exts : List Bytes) (path : Bytes) : m (Except Failure Bool) := do
  let ext := Bytes.toLower (Path.ext path)
  if !exts.any (fun e => Bytes.toLower e == ext) then return .ok false
  match ← Host.readFile path with
  | .error e => return .error e.toFailure
  | .ok d =>
    let head := d.bytes.take 262
    if head.length < 262 then
      if let some f := d.stop then return .error f
    match head with
    | 0x50 :: 0x4B :: b2 :: b3 :: _ =>
      return .ok ((b2 == 3 || b2 == 5 || b2 == 7) && (b3 == 4 || b3 == 6 || b3 == 8))
    | _ => return .ok false

/-- What a directory walk has done: the inputs it compiled and the failures met. -/
structure Tally where
  count : Nat := 0
  errs : Option Failure := none

/-- Visit one path met by the walk of the directory `dir`. -/
def visitPath (s : Settings) (j : Journal m) (dir dst path : Bytes) (kind : Except FsError Kind) :
    StateT Tally m Unit := do
  match kind with
  | .error e => j.say logger "Compile.visitPath" .warn "Skipping path" [⟨"path", .text path⟩, ⟨"error", .failure e.toFailure⟩]
  | .ok k =>
    if k != .regular then return
    let rel := Bytes.dropPrefix (Bytes.dropPrefix path dir) [Path.slash]
    match ← isArchive (m := m) s.config.extensions path with
    | .error e => j.say logger "Compile.visitPath" .warn "Skipping file" [⟨"file", .text path⟩, ⟨"error", .failure e⟩]
    | .ok true =>
      modify fun t => { t with count := t.count + 1 }
      match ← compileArchive (m := m) s j path [] (Path.dir rel) dst with
      | none => pure ()
      | some e =>
        j.say logger "Compile.visitPath" .error "Unable to process archive" [⟨"file", .text path⟩, ⟨"error", .failure e⟩]
        modify fun t => { t with errs := Failure.append t.errs (some (.within (path ++ Bytes.ofString ": ") e)) }
    | .ok false =>
      if Path.base path != s.config.input.symbolFileName then
        j.say logger "Compile.visitPath" .debug "Skipping file, not recognized as symbol file or archive" [⟨"file", .text path⟩]
      else
        modify fun t => { t with count := t.count + 1 }
        match ← compileFile (m := m) s j path rel dst with
        | none => pure ()
        | some e =>
          j.say logger "Compile.visitPath" .error "Unable to process file" [⟨"file", .text path⟩, ⟨"error", .failure e⟩]
          modify fun t => { t with errs := Failure.append t.errs (some (.within (path ++ Bytes.ofString ": ") e)) }

/-- Walk the tree at `path`, whose status is `kind`, visiting it and then the paths it lists in
name order. -/
def walkTree (visit : Bytes → Except FsError Kind → StateT Tally m Unit) (path : Bytes)
    (kind : Kind) : Nat → StateT Tally m Unit
  | 0 => pure ()
  | depth + 1 => do
    visit path (.ok kind)
    -- a regular file may list names registered under it; one that lists none is only a file
    if kind != .directory && kind != .regular then return
    match ← Host.readDir path with
    | .error e => if kind == .directory then visit path (.error e)
    | .ok names =>
      for name in names do
        let child := Path.join [path, name]
        match ← Host.lstat child with
        | .error e => visit child (.error e)
        | .ok k => walkTree visit child k depth

/-- More levels than a walk goes down: a path that deep holds at least two bytes a level, more than
any string holds. -/
def walkLevels : Nat := Nat.pow 2 63

/-- Compile every symbol file and archive in a directory. -/
def compileDir (s : Settings) (j : Journal m) (dir dst : Bytes) : m (Option Failure) := do
  let visit := visitPath s j dir dst
  let ((), tally) ← (do
    match ← Host.lstat dir with
    | .error e => visit dir (.error e)
    | .ok k => walkTree visit dir k walkLevels).run {}
  if tally.errs.isNone && tally.count == 0 then
    j.say logger "Compile.compileDir" .debug "Nothing to process" [⟨"dir", .text dir⟩]
  return tally.errs

/-- A failure naming a source that does not exist as asked. -/
def notFound (head rest : Bytes) : Failure :=
  .note (Bytes.ofString "input source was not found (" ++ head ++ Bytes.ofString ") => (" ++ rest ++ Bytes.ofString ")")

/-- Compile what the source path names, trying its prefixes from the longest. -/
def locate (s : Settings) (j : Journal m) (src dst : Bytes) : Bytes → Bytes → Nat → m (Option Failure)
  | _, _, 0 => return some (.note (Bytes.ofString "input source was not found (" ++ src ++ Bytes.ofString ")"))
  | head, tail, fuel + 1 => do
    if head.isEmpty then
      return some (.note (Bytes.ofString "input source was not found (" ++ src ++ Bytes.ofString ")"))
    let head := Bytes.dropSuffix head [Path.slash]
    let next := Path.split head
    match ← Host.stat head with
    | .error _ => locate s j src dst next.1 next.2 fuel
    | .ok .directory =>
      if !tail.isEmpty then return some (notFound head (Bytes.dropPrefix src head))
      match ← compileDir s j head dst with
      | none => return none
      | some e => return some (.within (Bytes.ofString "unable to process directory: ") e)
    | .ok .regular =>
      match ← isArchive s.config.extensions head with
      | .error e => return some (.within (Bytes.ofString "unable to check archive type: ") e)
      | .ok true =>
        let inner := Bytes.dropPrefix (Bytes.dropPrefix src head) [Path.slash]
        match ← compileArchive s j head inner [] dst with
        | none => return none
        | some e => return some (.within (Bytes.ofString "unable to process archive: ") e)
      | .ok false =>
        if !tail.isEmpty then return some (notFound head (Bytes.dropPrefix src head))
        compileFile s j head (Path.base head) dst
    | .ok _ =>
      return some (.note (Bytes.ofString "unexpected path mode for (" ++ head ++ Bytes.ofString ") => ("
        ++ Bytes.dropPrefix src head ++ Bytes.ofString ")"))

/-- Compile the source into the destination. -/
def compileSource (s : Settings) (j : Journal m) (src dst : Bytes) : m (Option Failure) :=
  locate s j src dst src [] (src.length + 2)

end ResourceSymbols.Compile
