import ResourceSymbols.Config.Yaml
import ResourceSymbols.Files.Host
import ResourceSymbols.Java.Name
import ResourceSymbols.Unicode.Space

namespace ResourceSymbols.Config

def prepareDestination {m : Type → Type} [Monad m] [Host m] (p : Bytes) : m (Except Bytes Bytes) := do
  if p.isEmpty then return .ok p
  let cleaned := Path.clean p
  let dir := Path.dir cleaned
  match ← Host.makeDirs dir with
  | .ok () => return .ok cleaned
  | .error e =>
    return .error (Bytes.ofString "failed to create directory '" ++ dir ++ Bytes.ofString "': " ++ e.message)

/-- The configuration with its destinations cleaned and their directories made. -/
def prepare {m : Type → Type} [Monad m] [Host m] (c : Config) : m (Except Bytes Config) := do
  let fileDest ← match ← prepareDestination c.logging.file.destination with
    | .ok d => pure d
    | .error e => return .error e
  let consoleDest ← match ← prepareDestination c.logging.console.destination with
    | .ok d => pure d
    | .error e => return .error e
  let reportDest ← match ← prepareDestination c.reporting.destination with
    | .ok d => pure d
    | .error e => return .error e
  return .ok { c with
    logging := { file := { c.logging.file with destination := fileDest },
                 console := { c.logging.console with destination := consoleDest } }
    reporting := { destination := reportDest } }

def failedCheck (key field tag : String) : Bytes :=
  Bytes.ofString ("Key: '" ++ key ++ "' Error:Field validation for '" ++ field ++ "' failed on the '"
    ++ tag ++ "' tag")

def canBeFile {m : Type → Type} [Monad m] [Host m] (p : Bytes) : m Bool := do
  if p.contains [0] then return false
  match ← Host.stat p with
  | .ok .directory => return false
  | .ok _ => return true
  | .error _ =>
    if (Bytes.trimSpace p).isEmpty then return false
    if p.getLast? == some Path.slash then return false
    return true

def checkLogger {m : Type → Type} [Monad m] [Host m] (key : String) (l : LoggerSection) :
    m (List Bytes) := do
  let levels := ["none", "debug", "normal"].map Bytes.ofString
  let modes := ["append", "overwrite"].map Bytes.ofString
  let level :=
    if l.level.isEmpty then [failedCheck (key ++ ".Level") "Level" "required"]
    else if !levels.contains l.level then [failedCheck (key ++ ".Level") "Level" "oneof"]
    else []
  let dest ← if l.destination.isEmpty then pure []
    else do
      if ← canBeFile l.destination then pure []
      else pure [failedCheck (key ++ ".Destination") "Destination" "filepath"]
  let mode :=
    if l.mode.isEmpty || modes.contains l.mode then [] else [failedCheck (key ++ ".Mode") "Mode" "oneof"]
  return level ++ dest ++ mode

/-- Every failed check of a configuration, in order. -/
def check {m : Type → Type} [Monad m] [Host m] (c : Config) : m (List Bytes) := do
  let version := if c.version == 1 then [] else [failedCheck "Config.Version" "Version" "eq"]
  let table :=
    if c.generator.tableName.isEmpty then [failedCheck "Config.Generator.TableName" "TableName" "required"]
    else []
  let symbols :=
    if c.input.symbolFileName.isEmpty then
      [failedCheck "Config.Input.SymbolFileName" "SymbolFileName" "required"]
    else []
  let manifest :=
    if c.input.manifestFileName.isEmpty then
      [failedCheck "Config.Input.ManifestFileName" "ManifestFileName" "required"]
    else []
  let exts := c.extensions.zipIdx.filterMap fun (e, i) =>
    let name := "ArchiveExtensions[" ++ toString i ++ "]"
    if e.isEmpty then some (failedCheck ("Config.Input." ++ name) name "required")
    else if !e.startsWith [46] then some (failedCheck ("Config.Input." ++ name) name "startswith")
    else none
  let fileLog ← checkLogger "Config.Logging.FileLogger" c.logging.file
  let consoleLog ← checkLogger "Config.Logging.ConsoleLogger" c.logging.console
  let report ←
    if c.reporting.destination.isEmpty then
      pure [failedCheck "Config.Reporting.Destination" "Destination" "required"]
    else do
      if ← canBeFile c.reporting.destination then pure []
      else pure [failedCheck "Config.Reporting.Destination" "Destination" "filepath"]
  let ident :=
    if Java.isIdentifier c.generator.tableName then []
    else [failedCheck "Config.Generator.TableName" "Generator.TableName" "java_identifier"]
  return version ++ table ++ symbols ++ manifest ++ exts ++ fileLog ++ consoleLog ++ report ++ ident

/-- Prepare a configuration and check it. -/
def settle {m : Type → Type} [Monad m] [Host m] (c : Config) : m (Except Bytes Config) := do
  match ← prepare c with
  | .error e => return .error e
  | .ok c =>
    let failed ← check c
    if failed.isEmpty then return .ok c else return .error (Bytes.join [10] failed)

/-- Load the configuration: the defaults, settled, when no file is given; otherwise the file's YAML
read over the defaults, settled. -/
def load {m : Type → Type} [Monad m] [Host m] (path : Option Bytes) : m (Except Failure Config) := do
  match path with
  | none =>
    match ← settle defaults with
    | .ok c => return .ok c
    | .error e => return .error (.note (Bytes.ofString "failed to process configuration template: " ++ e))
  | some p =>
    let fileFailure (e : Bytes) : Failure :=
      .note (Bytes.ofString "failed to process configuration file: " ++ e)
    match ← Host.readFile p with
    | .error e => return .error (.note (Bytes.ofString "failed to read config file: " ++ e.message))
    | .ok { stop := some f, .. } =>
      return .error (.note (Bytes.ofString "failed to read config file: " ++ f.message))
    | .ok d =>
      match ofYaml d.bytes defaults with
      | .error e => return .error (fileFailure (Bytes.ofString "failed to decode configuration data: " ++ e))
      | .ok c =>
        match ← settle c with
        | .ok c => return .ok c
        | .error e => return .error (fileFailure e)

end ResourceSymbols.Config
