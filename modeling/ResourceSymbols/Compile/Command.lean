import ResourceSymbols.Compile.Sources

namespace ResourceSymbols.Compile

/-- What a command line asks of `compile`. -/
structure Request where
  args : List Bytes
  name : Bytes := []
  package : Bytes := []
  charset : Bytes := []
  nonFinal : Bool := false
  noDirs : Bool := false

variable {m : Type → Type} [Monad m] [MonadFinally m] [Host m]

/-- Warn about arguments past the destination. -/
def warnExtra (j : Journal m) (logger : List String) (args : List Bytes) : m Unit := do
  if args.length > 2 then
    j.say logger "Compile.warnExtra" .warn "Mailformed command line, too many destinations" [⟨"ignoring", .texts (args.drop 2)⟩]

/-- The character set forced by name, if it is registered and readable; anything else is warned
about and ignored. -/
def forcedCharset (j : Journal m) (name : Bytes) : m (Option Charset.Entry) := do
  if name.isEmpty then return none
  match Charset.lookup name with
  | .ok (some e) =>
    j.say logger "Compile.forcedCharset" .debug "Forcefully converting all non UTF-8 file names in archives"
      [⟨"charset", .text (Bytes.ofString e.name)⟩]
    return some e
  | .ok none =>
    j.say logger "Compile.forcedCharset" .warn "Unknown character set specification. Ignoring..." [⟨"charset", .text name⟩]
    return none
  | .error e =>
    j.say logger "Compile.forcedCharset" .warn "Unknown character set specification. Ignoring..."
      [⟨"charset", .text name⟩, ⟨"error", .failure (.note e)⟩]
    return none

def Request.destination (r : Request) (cwd : Bytes) : Bytes :=
  let dst := match r.args[1]? with
    | some d => if d.isEmpty then cwd else d
    | none => cwd
  Path.abs cwd dst

/-- Run `compile` on the source `src` of a request, with the working directory `cwd`. -/
def compileFrom (cfg : Config) (j : Journal m) (r : Request) (src cwd : Bytes) : m (Option Failure) := do
  let src := Path.abs cwd src
  let dst := r.destination cwd
  warnExtra j logger r.args
  let tableName := if r.name.isEmpty then cfg.generator.tableName else r.name
  if !Java.isIdentifier tableName then
    return some (.note (Bytes.ofString "table name is not a valid java identifier: " ++ Quote.quote tableName))
  if !Java.isPackage r.package then
    return some (.note (Bytes.ofString "package is not a valid java package name: " ++ Quote.quote r.package))
  let charset ← forcedCharset j r.charset
  let s : Settings :=
    { config := cfg, tableName, package := r.package, finalIds := cfg.generator.finalIds && !r.nonFinal,
      noDirs := r.noDirs, charset }
  j.say logger "Compile.compile" .info "Processing starting"
    [⟨"source", .text src⟩, ⟨"destination", .text dst⟩, ⟨"table", .text tableName⟩, ⟨"final", .flag s.finalIds⟩]
  let start ← Host.now
  -- the end is logged also when the work panics
  tryFinally (compileSource s j src dst) do
    let finish ← Host.now
    j.say logger "Compile.compile" .info "Processing completed" [⟨"elapsed", .elapsed (finish - start)⟩]

/-- Run `compile` with a configuration. -/
def compile (cfg : Config) (j : Journal m) (r : Request) : m (Option Failure) := do
  let some src := r.args.head? | return some (.plain "no input source has been specified")
  if src.isEmpty then return some (.plain "no input source has been specified")
  compileFrom cfg j r src (← Host.workDir)

def normalizer : List String := ["rgen", "normalize"]

/-- Write a table's canonical text to a file by way of a temporary one. -/
def writeSymbols (t : Table) (path : Bytes) : m (Option Failure) := do
  match ← Host.makeDirs (Path.dir path) with
  | .error e => return some (.within (Bytes.ofString "unable to create directory for symbol file: ") e.toFailure)
  | .ok () =>
    match ← Files.replaceFile path t.write with
    | .error e => return some (.within (Bytes.ofString "unable to write symbol file: ") e.toFailure)
    | .ok () => return none

/-- Run `normalize`: the arguments are the source and the destination. -/
def normalize (j : Journal m) (args : List Bytes) : m (Option Failure) := do
  let some src := args.head? | return some (.plain "no input source has been specified")
  if src.isEmpty then return some (.plain "no input source has been specified")
  let cwd ← Host.workDir
  let src := Path.abs cwd src
  warnExtra j normalizer args
  let t ← match ← Host.readFile src with
    | .error e => return some (.within (Bytes.ofString "unable to open symbol file: ") e.toFailure)
    | .ok d =>
      match Table.read {} d.bytes d.stop with
      | .error e => return some (.within (Bytes.ofString "unable to parse symbol file (" ++ src ++ Bytes.ofString "): ") e)
      | .ok t => pure t
  j.say normalizer "Compile.normalize" .debug "Symbols loaded" [⟨"source", .text src⟩, ⟨"count", .count t.len⟩]
  let dst := (args[1]?).getD []
  if dst.isEmpty then
    j.say normalizer "Compile.normalize" .debug "Outputing normalized symbols" [⟨"file", .text (Bytes.ofString "STDOUT")⟩]
    match ← Host.toStdout t.write with
    | .error e => return some (.within (Bytes.ofString "unable to write symbols: ") e.toFailure)
    | .ok () => return none
  let dst := Path.abs cwd dst
  if let some e ← writeSymbols t dst then return some e
  j.say normalizer "Compile.normalize" .info "Outputing normalized symbols" [⟨"file", .text dst⟩]
  j.keepFile (Bytes.ofString "normalized/" ++ Path.base dst) dst
  return none

end ResourceSymbols.Compile
