import ResourceSymbols.Command.Help

namespace ResourceSymbols.Program

open Command

/-- What the program is: its version, the runtime it runs on and the revision it was built from. -/
structure Identity where
  version : String := "dev"
  runtime : String
  revision : String := "unknown"

def Identity.text (i : Identity) : String := i.version ++ " (" ++ i.runtime ++ ") : " ++ i.revision

def configFlag : Flag :=
  { names := ["config", "c"], placeholder := "FILE", usage := "load configuration from FILE (YAML)",
    inherited := true }

def debugFlag : Flag :=
  { names := ["debug", "d"],
    usage := "changes program behavior to help troubleshooting, produces report archive",
    inherited := true }

def helpFlag : Flag := { names := ["help", "h"], usage := "show help" }

def versionFlag : Flag := { names := ["version", "v"], usage := "print the version" }

def compileEpilogue : String :=
  "\nSOURCE:\n" ++
  "    path to symbol file(s) to process, following formats are supported:\n" ++
  "        path to a file: \"[path_to_file]R.txt\"\n" ++
  "        path to a directory: \"[path_to_directory]directory\" - recursively process all symbol " ++
  "files and archives under directory (symbolic links are not followed)\n" ++
  "        path to archive with path inside archive to a particular symbol file: " ++
  "\"[path_to_archive]library.aar[path_in_archive]/R.txt\"\n" ++
  "        path to archive with path inside archive: \"[path_to_archive]library.aar[path_in_archive]\" " ++
  "- recursively process all symbol files under archive path\n" ++
  "\n" ++
  "  Only files named as configured (R.txt by default) are considered when\n" ++
  "  looking into directories and archives, processing of archives inside\n" ++
  "  archives is not supported. Package is taken from AndroidManifest.xml\n" ++
  "  located next to symbol file unless requested explicitly.\n" ++
  "\n" ++
  "DESTINATION:\n" ++
  "    always a path, generated sources are placed in package directories under it\n" ++
  "    if absent - current working directory\n"

def compileCommand : Subcommand where
  name := "compile"
  usage := "Generates java R class(es) from symbol file(s)"
  argsUsage := "SOURCE [DESTINATION]"
  flags :=
    [ { names := ["package", "p"], placeholder := "PACKAGE",
        usage := "java PACKAGE of generated class, overrides package found in manifest" },
      { names := ["name", "n"], placeholder := "NAME",
        usage := "NAME of generated class (default from configuration, usually \"R\")" },
      { names := ["non-final"], usage := "generate mutable (non final) identifier fields" },
      { names := ["nodirs", "nd"], usage := "when producing output do not keep input directory structure" },
      { names := ["force-zip-cp"], placeholder := "ENCODING",
        usage := "Force ENCODING for ALL non UTF-8 file names in processed archives " ++
          "(see IANA.org for character set names)" },
      helpFlag ]
  epilogue := compileEpilogue

def normalizeCommand : Subcommand where
  name := "normalize"
  usage := "Rewrites symbol file in canonical (sorted) form"
  argsUsage := "SOURCE [DESTINATION]"
  flags := [helpFlag]
  epilogue :=
    "\nSOURCE:\n    path to symbol file\n\nDESTINATION:\n" ++
    "    file name to write normalized symbols to, if absent - STDOUT\n"

def dumpconfigCommand : Subcommand where
  name := "dumpconfig"
  usage := "Dumps either default or actual configuration (YAML)"
  argsUsage := "DESTINATION"
  flags := [{ names := ["default"], usage := "output default embedded configuration" }, helpFlag]
  epilogue :=
    "\n\nDESTINATION:\n    file name to write configuration to, if absent - STDOUT\n\n" ++
    "Produces file with actual \"active\" configuration values wich is composition of\n" ++
    "default values and values specified in configuration file. To see default\n" ++
    "configuration embedded into the program use --default flag.\n"

/-- The command line of the program. -/
def program (id : Identity) : Program where
  name := "rgen"
  usage := "compiler of android resource symbol tables (R.txt) into java R classes"
  version := id.text
  flags := [configFlag, debugFlag, helpFlag, versionFlag]
  commands := [compileCommand, normalizeCommand, dumpconfigCommand]

end ResourceSymbols.Program
