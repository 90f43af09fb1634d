import ResourceSymbols.Bytes

namespace ResourceSymbols

/-- What is generated. -/
structure GeneratorSection where
  tableName : Bytes
  finalIds : Bool
deriving Repr, DecidableEq

/-- Which files are read. -/
structure InputSection where
  symbolFileName : Bytes
  manifestFileName : Bytes
  archiveExtensions : Option (List Bytes)
deriving Repr, DecidableEq

/-- One log: its level, and for a file its destination and whether it is appended to. -/
structure LoggerSection where
  level : Bytes
  destination : Bytes := []
  mode : Bytes := []
deriving Repr, DecidableEq

/-- The two logs. -/
structure LoggingSection where
  file : LoggerSection
  console : LoggerSection
deriving Repr, DecidableEq

/-- Where the debug report goes. -/
structure ReportingSection where
  destination : Bytes
deriving Repr, DecidableEq

/-- A configuration. -/
structure Config where
  version : Int
  generator : GeneratorSection
  input : InputSection
  logging : LoggingSection
  reporting : ReportingSection
deriving Repr, DecidableEq

namespace Config

/-- The built-in defaults. -/
def defaults : Config where
  version := 1
  generator := { tableName := Bytes.ofString "R", finalIds := true }
  input :=
    { symbolFileName := Bytes.ofString "R.txt"
      manifestFileName := Bytes.ofString "AndroidManifest.xml"
      archiveExtensions := some [Bytes.ofString ".aar", Bytes.ofString ".zip"] }
  logging :=
    { file := { level := Bytes.ofString "none", destination := Bytes.ofString "rgen.log",
                mode := Bytes.ofString "overwrite" }
      console := { level := Bytes.ofString "normal" } }
  reporting := { destination := Bytes.ofString "rgen-report.zip" }

/-- The annotated text of the built-in defaults, as offered for a user's configuration file. -/
def defaultsText : String :=
  "version: 1\n" ++
  "generator:\n" ++
  "    # name of the outer class of generated sources\n" ++
  "    table_name: R\n" ++
  "    # when false identifiers are generated as mutable static fields, so they\n" ++
  "    # could be patched after compilation\n" ++
  "    final_ids: true\n" ++
  "input:\n" ++
  "    # name of symbol files to look for in directories and archives\n" ++
  "    symbol_file_name: R.txt\n" ++
  "    # manifest used to find out package when it was not requested explicitly\n" ++
  "    manifest_file_name: AndroidManifest.xml\n" ++
  "    # zip based containers which will be searched for symbol files\n" ++
  "    archive_extensions: [\".aar\", \".zip\"]\n" ++
  "logging:\n" ++
  "    console:\n" ++
  "        level: normal\n" ++
  "    file:\n" ++
  "        level: none\n" ++
  "        destination: rgen.log\n" ++
  "        mode: overwrite\n" ++
  "reporting:\n" ++
  "    destination: rgen-report.zip\n"

def extensions (c : Config) : List Bytes := c.input.archiveExtensions.getD []

end Config

end ResourceSymbols
