import ResourceSymbols.Program.Commands
import ResourceSymbols.Log.Sink
import ResourceSymbols.Report
import ResourceSymbols.Config.Check

namespace ResourceSymbols.Program

/-- What a run has set up. -/
structure Session where
  start : Nat := 0
  config : Option Config := none
  sinks : Option Log.Sinks := none
  report : Option Report := none

/-- A computation of a run, on a host, with its session; a panic stops it and keeps the session. -/
abbrev Run (m : Type → Type) := ExceptT Panic (StateT Session m)

variable {m : Type → Type} [Monad m] [Host m]

def journal : Journal (Run m) where
  log e := do
    if let some s := (← get).sinks then s.write e
  keepData name data := do
    if let some r := (← get).report then
      let suffix ← if r.has name then Host.now else pure 0
      let stamp ← Host.now
      modify fun s => { s with report := some (r.storeData name data suffix stamp) }
  keepFile name path := do
    if let some r := (← get).report then
      let cwd ← Host.workDir
      match r.storeFile cwd name path with
      | .ok r => modify fun s => { s with report := some r }
      | .error p => throw p

def logger : List String := ["rgen"]

def logging : Run m Bool := do return (← get).sinks.isSome

def keepFile (name path : Bytes) : Run m Unit := (journal (m := m)).keepFile name path

/-- Start logging as a configuration says; with a report the log file shows everything and is
emptied first, and it is kept in the report with the panic log. -/
def startLogs (cfg : Config) : Run m (Option Failure) := do
  let s ← get
  let console := Log.consoleLevel cfg.logging.console.level
  let (level, mode) := if s.report.isSome then (Bytes.ofString "debug", Bytes.ofString "overwrite")
    else (cfg.logging.file.level, cfg.logging.file.mode)
  match Log.fileLevel level with
  | none =>
    set { s with sinks := some { console, start := s.start } }
    return none
  | some least =>
    match ← Log.openFileLog cfg.logging.file.destination (mode == Bytes.ofString "append") with
    | .error e => return some e
    | .ok f =>
      if let some p := f.panic then keepFile (Bytes.ofString "panic.log") p
      keepFile (Bytes.ofString "final.log") f.path
      let sinks : Log.Sinks := { console, file := some (f.path, least), start := s.start }
      modify fun s => { s with sinks := some sinks }
      if f.redirected then
        let moved : Log.Entry :=
          { logger := [], site := "Program.startLogs", level := .warn,
            message := "Log file was redirected to new location", fields := [⟨"location", .text f.path⟩] }
        sinks.write moved
      return none

/-- Set the session up for a run with arguments `argv`, given the configuration file named on the
command line (empty for none) and whether a report is asked for. -/
def begin (id : Identity) (argv : List Bytes) (configFile : Bytes) (debug : Bool) :
    Run m (Option Failure) := do
  let cfg ← match ← Config.load (if configFile.isEmpty then none else some configFile) with
    | .error e => return some (.within (Bytes.ofString "unable to prepare configuration: ") e)
    | .ok cfg => pure cfg
  modify fun s => { s with config := some cfg }
  if debug then
    match ← Report.create cfg.reporting.destination with
    | .error e => return some (.within (Bytes.ofString "unable to prepare debug reporter: ") e)
    | .ok r =>
      modify fun s => { s with report := some r }
      if !configFile.isEmpty then
        (journal (m := m)).keepData (Bytes.ofString "config/" ++ Path.base configFile) cfg.toYaml
  if let some e ← startLogs cfg then
    return some (.within (Bytes.ofString "unable to prepare logs: ") e)
  let j := journal (m := m)
  j.say logger "Program.begin" .debug "Program started"
    [⟨"args", .texts (Bytes.ofString "rgen" :: argv)⟩, ⟨"ver", .text (Bytes.ofString id.version)⟩,
     ⟨"runtime", .text (Bytes.ofString id.runtime)⟩, ⟨"hash", .text (Bytes.ofString id.revision)⟩]
  if let some r := (← get).report then
    let cwd ← Host.workDir
    j.say logger "Program.begin" .info "Creating debug report" [⟨"location", .text (r.location cwd)⟩]
  if configFile.isEmpty then
    j.say logger "Program.begin" .debug "Using defaults (no configuration file)" []
  return none

/-- Remove the panic log beside the log file's destination if it is an empty file. -/
def removeEmptyPanicLog (cfg : Config) : m (Option Failure) := do
  let dest := cfg.logging.file.destination
  if dest.isEmpty then return none
  let panic := Path.join [Path.dir dest, Bytes.ofString "rgen-panic.log"]
  match ← Host.stat panic with
  | .ok .regular =>
    match ← Host.readFile panic with
    | .ok { bytes := [], stop := none } =>
      match ← Host.remove panic with
      | .ok () => return none
      | .error e =>
        return some (.within (Bytes.ofString "unable to remove empty panic log file '" ++ panic
          ++ Bytes.ofString "': ") e.toFailure)
    | _ => return none
  | _ => return none

/-- Take the session down after a run whose program arguments were `args`. -/
def finish (args : List Bytes) : Run m (Option Failure) := do
  let s ← get
  if s.sinks.isSome then
    let t ← Host.now
    (journal (m := m)).say logger "Program.finish" .debug "Program ended"
      [⟨"elapsed", .elapsed (t - s.start)⟩, ⟨"parsed args", .texts args⟩]
  let s ← get
  let closed ← match s.report with
    | some r => do
      match ← r.close with
      | some e => pure (some (Failure.within (Bytes.ofString "unable to close debug report: ") e))
      | none => pure none
    | none => pure none
  let removed ← match s.config with
    | some cfg => removeEmptyPanicLog cfg
    | none => pure none
  return match closed, removed with
    | some a, some b => Failure.append (some a) (some b)
    | some a, none => some a
    | none, b => b

end ResourceSymbols.Program
