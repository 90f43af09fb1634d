import ResourceSymbols.Command.Line

namespace ResourceSymbols.Command

/-- A subcommand: its name, what it does, how its arguments are written, its flags, and text that
ends its help page. -/
structure Subcommand where
  name : String
  usage : String
  argsUsage : String := ""
  flags : List Flag := []
  epilogue : String := ""

/-- A program: its name, what it does, its version text, its flags and its subcommands. -/
structure Program where
  name : String
  usage : String
  version : String
  flags : List Flag
  commands : List Subcommand

def Program.isCommand (p : Program) (w : Bytes) : Bool :=
  p.commands.any fun c => Bytes.ofString c.name == w

def Program.command? (p : Program) (w : Bytes) : Option Subcommand :=
  p.commands.find? fun c => Bytes.ofString c.name == w

def Program.inherited (p : Program) : List Flag := p.flags.filter (·.inherited)

def Flag.title (f : Flag) : String :=
  ", ".intercalate <| f.names.map fun n =>
    (if n.length == 1 then "-" else "--") ++ n ++ (if f.placeholder.isEmpty then "" else " " ++ f.placeholder)

def columns (rows : List (String × String)) : List String :=
  let width := rows.foldl (fun w r => max w r.1.length) 0
  rows.map fun (a, b) => "   " ++ a ++ String.ofList (List.replicate (width + 2 - a.length) ' ') ++ b

def flagRows (flags : List Flag) : List String := columns (flags.map fun f => (f.title, f.usage))

def lines (ls : List String) : String := String.join (ls.map (· ++ "\n"))

/-- The help page of the program. -/
def Program.help (p : Program) : String :=
  lines (["NAME:", "   " ++ p.name ++ " - " ++ p.usage, "", "USAGE:",
      "   " ++ p.name ++ " [global options] [command [command options]]", "", "VERSION:",
      "   " ++ p.version, "", "COMMANDS:"]
    ++ columns (p.commands.map fun c => (c.name, c.usage))
    ++ ["", "GLOBAL OPTIONS:"] ++ flagRows p.flags)

def Program.commandHelp (p : Program) (c : Subcommand) : String :=
  let full := p.name ++ " " ++ c.name
  let options := if c.flags.isEmpty then "" else " [options]"
  let args := if c.argsUsage.isEmpty then "" else " " ++ c.argsUsage
  lines (["NAME:", "   " ++ full ++ " - " ++ c.usage, "", "USAGE:", "   " ++ full ++ options ++ args]
    ++ (if c.flags.isEmpty then [] else ["", "OPTIONS:"] ++ flagRows c.flags)
    ++ (if p.inherited.isEmpty then [] else ["", "GLOBAL OPTIONS:"] ++ flagRows p.inherited))
    ++ c.epilogue

end ResourceSymbols.Command
