import ResourceSymbols.Log.Line
import ResourceSymbols.Files.Temp

namespace ResourceSymbols.Log

/-- The least level a console level word shows: `normal` shows information, `debug` shows
everything, anything else turns the console off. -/
def consoleLevel (word : Bytes) : Option Level :=
  if word == Bytes.ofString "normal" then some .info
  else if word == Bytes.ofString "debug" then some .debug
  else none

/-- The least level a file level word shows: `debug` shows everything, `normal` shows information,
anything else turns the file off. -/
def fileLevel (word : Bytes) : Option Level :=
  if word == Bytes.ofString "debug" then some .debug
  else if word == Bytes.ofString "normal" then some .info
  else none

/-- Where the lines of a run go. -/
structure Sinks where
  console : Option Level := none
  file : Option (Bytes × Level) := none
  start : Nat := 0

def Style.stdout : Style := ⟨false, true⟩

def Style.stderr : Style := ⟨false, false⟩

def Style.file : Style := ⟨true, true⟩

variable {m : Type → Type} [Monad m] [Host m]

def reportRefusal (start time : Nat) (e : FsError) : m Unit :=
  Host.toStderr (Bytes.ofString (Clock.full start time ++ " write error: ") ++ e.message ++ [10])

def Sinks.write (s : Sinks) (e : Entry) : m Unit := do
  let t ← Host.now
  if let some least := s.console then
    if e.level == .error then Host.toStderr (e.line Style.stderr t)
    else if least.rank ≤ e.level.rank then
      if let .error err ← Host.toStdout (e.line Style.stdout t) then reportRefusal s.start t err
  if let some (path, least) := s.file then
    if least.rank ≤ e.level.rank then
      if let .error err ← Host.append path (e.line Style.file t) then reportRefusal s.start t err

/-- The log file of a run as opened: where lines go, whether that is a temporary file because the
destination could not be opened, and the panic log, if one could be made. -/
structure FileLog where
  path : Bytes
  redirected : Bool
  panic : Option Bytes

def openLogFile (append : Bool) (path : Bytes) : m (Except FsError Unit) :=
  if append then Host.openAppend path else Host.create path

/-- Open the panic log and the log file for a destination. -/
def openFileLog (destination : Bytes) (append : Bool) : m (Except Failure FileLog) := do
  let panicPath := Path.join [Path.dir destination, Bytes.ofString "rgen-panic.log"]
  let panic ← match ← openLogFile append panicPath with
    | .ok () => pure (some panicPath)
    | .error _ =>
      match ← Files.createTemp (Bytes.ofString "rgen-panic.") (Bytes.ofString ".log") with
      | .ok p => pure (some p)
      | .error _ => pure none
  match ← openLogFile append destination with
  | .ok () => return .ok { path := destination, redirected := false, panic }
  | .error _ =>
    match ← Files.createTemp (Bytes.ofString "rgen.") (Bytes.ofString ".log") with
    | .ok p => return .ok { path := p, redirected := true, panic }
    | .error e =>
      return .error (.within (Bytes.ofString "unable to access file log destination (" ++ destination
        ++ Bytes.ofString "): ") e.toFailure)

end ResourceSymbols.Log
