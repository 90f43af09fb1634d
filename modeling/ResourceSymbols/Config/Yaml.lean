import ResourceSymbols.Config.Basic
import ResourceSymbols.Yaml.Decode
import ResourceSymbols.Yaml.Emit

namespace ResourceSymbols.Config

open Yaml

def textField {σ : Type} (key : String) (get : σ → Bytes) (put : σ → Bytes → σ) :
    Yaml.Field σ :=
  ⟨key, fun n c => do
    let (v, _) ← decodeString n (get c)
    pure (put c v)⟩

def generatorFields : List (Yaml.Field GeneratorSection) :=
  [ textField "table_name" (·.tableName) fun c v => { c with tableName := v },
    ⟨"final_ids", fun n c => do pure { c with finalIds := ← decodeBool n c.finalIds }⟩ ]

def inputFields : List (Yaml.Field InputSection) :=
  [ textField "symbol_file_name" (·.symbolFileName) fun c v => { c with symbolFileName := v },
    textField "manifest_file_name" (·.manifestFileName) fun c v => { c with manifestFileName := v },
    ⟨"archive_extensions", fun n c => do
      pure { c with archiveExtensions := ← decodeStrings n c.archiveExtensions }⟩ ]

def loggerFields : List (Yaml.Field LoggerSection) :=
  [ textField "level" (·.level) fun c v => { c with level := v },
    textField "destination" (·.destination) fun c v => { c with destination := v },
    textField "mode" (·.mode) fun c v => { c with mode := v } ]

def loggingFields (fuel : Nat) : List (Yaml.Field LoggingSection) :=
  [ ⟨"file", fun n c => do
      pure { c with file := ← decodeRecord fuel "config.LoggerConfig" loggerFields n c.file }⟩,
    ⟨"console", fun n c => do
      pure { c with console := ← decodeRecord fuel "config.LoggerConfig" loggerFields n c.console }⟩ ]

def reportingFields : List (Yaml.Field ReportingSection) :=
  [ textField "destination" (·.destination) fun c v => { c with destination := v } ]

def fields (fuel : Nat) : List (Yaml.Field Config) :=
  [ ⟨"version", fun n c => do pure { c with version := ← decodeInt n c.version }⟩,
    ⟨"generator", fun n c => do
      pure { c with generator :=
        ← decodeRecord fuel "config.GeneratorConfig" generatorFields n c.generator }⟩,
    ⟨"input", fun n c => do
      pure { c with input := ← decodeRecord fuel "config.InputConfig" inputFields n c.input }⟩,
    ⟨"logging", fun n c => do
      pure { c with logging :=
        ← decodeRecord fuel "config.LoggingConfig" (loggingFields fuel) n c.logging }⟩,
    ⟨"reporting", fun n c => do
      pure { c with reporting :=
        ← decodeRecord fuel "config.ReporterConfig" reportingFields n c.reporting }⟩ ]

/-- Read a configuration from YAML text over given values: the first document, whose problems of
form, of kind and of unknown keys are reported as the YAML reader words them. -/
def ofYaml (text : Bytes) (base : Config) : Except Bytes Config :=
  match parseText text with
  | .error p => .error p.message
  | .ok none => .error (Bytes.ofString "EOF")
  | .ok (some doc) =>
    -- reading goes down the document, or across an alias not yet being read
    let fuel := (text.length + 2) * (text.length + 2)
    match doc.decode (decodeRecord fuel "config.Config" (fields fuel) · base) with
    | .error e => .error e
    | .ok (c, st) =>
      let errs := st.errors
      if errs.isEmpty then .ok c
      else .error (Bytes.ofString "yaml: unmarshal errors:\n  " ++ Bytes.join (Bytes.ofString "\n  ") errs.toList)

def entry (indent : Nat) (key : String) (value : Bytes) : Bytes :=
  List.replicate indent 32 ++ Bytes.ofString key ++ [58] ++ blockValue value (indent + 4)

def heading (indent : Nat) (key : String) : Bytes :=
  List.replicate indent 32 ++ Bytes.ofString key ++ Bytes.ofString ":\n"

def loggerYaml (indent : Nat) (l : LoggerSection) : Bytes :=
  entry indent "level" l.level
    ++ (if l.destination.isEmpty then [] else entry indent "destination" l.destination)
    ++ (if l.mode.isEmpty then [] else entry indent "mode" l.mode)

/-- A configuration as YAML. -/
def toYaml (c : Config) : Bytes :=
  Bytes.ofString ("version: " ++ toString c.version ++ "\n")
    ++ heading 0 "generator"
    ++ entry 4 "table_name" c.generator.tableName
    ++ Bytes.ofString ("    final_ids: " ++ (if c.generator.finalIds then "true" else "false") ++ "\n")
    ++ heading 0 "input"
    ++ entry 4 "symbol_file_name" c.input.symbolFileName
    ++ entry 4 "manifest_file_name" c.input.manifestFileName
    ++ (match c.input.archiveExtensions with
        | none | some [] => Bytes.ofString "    archive_extensions: []\n"
        | some exts => heading 4 "archive_extensions"
            ++ exts.flatMap fun e => Bytes.ofString "        -" ++ blockValue e 10)
    ++ heading 0 "logging"
    ++ heading 4 "file" ++ loggerYaml 8 c.logging.file
    ++ heading 4 "console" ++ loggerYaml 8 c.logging.console
    ++ heading 0 "reporting"
    ++ entry 4 "destination" c.reporting.destination

end ResourceSymbols.Config
