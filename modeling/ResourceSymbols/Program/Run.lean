import ResourceSymbols.Program.Session
import ResourceSymbols.Compile.Command

namespace ResourceSymbols.Program

open Command

variable {m : Type → Type} [Monad m] [MonadFinally m] [Host m]

/-- The failures of a run so far, and whether any of them was logged. -/
structure Outcome where
  failures : List Failure := []
  logged : Bool := false

def Outcome.add (o : Outcome) (f : Failure) : Run m Outcome := do
  if (← get).sinks.isSome then
    (journal (m := m)).say logger "Program.run" .error "Program ended with error" [⟨"error", .failure f⟩]
    return { failures := o.failures ++ [f], logged := true }
  return { o with failures := o.failures ++ [f] }

def Outcome.note (o : Outcome) (f : Failure) : Outcome := { o with failures := o.failures ++ [f] }

def Outcome.status (o : Outcome) : m Nat := do
  if o.failures.isEmpty then return 0
  if !o.logged then
    Host.toStderr (Bytes.ofString "Program ended with error: "
      ++ Bytes.join [10] (o.failures.map Failure.message) ++ [10])
  return 1

def display (text : String) : m Unit := do
  let _ ← Host.toStdout (Bytes.ofString text)

def config : Run m Config := do return (← get).config.getD Config.defaults

/-- `dumpconfig`: write the configuration, or the annotated defaults with `--default`, to the file
named by the first argument or to the standard output. -/
def dumpconfig (p : Parsed) : Run m (Option Failure) := do
  let j := journal (m := m)
  if p.args.length > 1 then
    j.say logger "Program.dumpconfig" .warn "Malformed command line, too many destinations"
      [⟨"ignoring", .texts p.args.tail⟩]
  let file := p.args.headD []
  if !file.isEmpty then
    if let .error e ← Host.create file then
      return some (.within (Bytes.ofString "unable to create destination file '" ++ file
        ++ Bytes.ofString "': ") e.toFailure)
  let cfg ← config
  let (state, data) := if p.isOn "default" then ("default", Bytes.ofString Config.defaultsText)
    else ("actual", cfg.toYaml)
  j.say logger "Program.dumpconfig" .info "Outputing configuration"
    [⟨"state", .text (Bytes.ofString state)⟩,
     ⟨"file", .text (if file.isEmpty then Bytes.ofString "STDOUT" else file)⟩]
  let written ← if file.isEmpty then Host.toStdout data else Host.append file data
  match written with
  | .error e => return some (.within (Bytes.ofString "unable to write configuration: ") e.toFailure)
  | .ok () => return none

/-- What the flags and arguments of the `compile` subcommand ask for. -/
def compileRequest (p : Parsed) : Compile.Request :=
  { args := p.args, name := p.text "name", package := p.text "package",
    charset := p.text "force-zip-cp", nonFinal := p.isOn "non-final", noDirs := p.isOn "nodirs" }

/-- The work of a subcommand. -/
def perform (name : String) (p : Parsed) : Run m (Option Failure) := do
  if name == compileCommand.name then Compile.compile (← config) journal (compileRequest p)
  else if name == normalizeCommand.name then Compile.normalize journal p.args
  else dumpconfig p

/-- Run a subcommand on the words after its name. -/
def runCommand (id : Identity) (argv : List Bytes) (prog : Program) (root : Parsed)
    (c : Subcommand) (words : List Bytes) (o : Outcome) : Run m Outcome := do
  match Command.parse (c.flags ++ prog.inherited) (fun _ => false) {} words with
  | .error e => return o.note (.note e.message)
  | .ok p =>
    if p.isOn "help" then
      match p.args.head? with
      | some topic =>
        return o.note (.note (Bytes.ofString "No help topic for '" ++ topic ++ Bytes.ofString "'"))
      | none =>
        display (prog.commandHelp c)
        return o
    let given : Parsed := { values := p.values ++ root.values }
    if let some e ← begin id argv (given.text "config") (given.isOn "debug") then
      return (← o.add e)
    match ← perform c.name p with
    | some e => o.add e
    | none => return o

/-- Run the program with arguments `argv`; the result is the exit status. -/
def run (id : Identity) (argv : List Bytes) : Run m Nat := do
  let start ← Host.now
  modify fun s => { s with start }
  let prog := program id
  match Command.parse prog.flags prog.isCommand {} argv with
  | .error e => ({ } : Outcome).note (.note e.message) |>.status
  | .ok root =>
    if root.isOn "help" then
      match root.args.head? with
      | none =>
        display prog.help
        return 0
      | some topic =>
        match prog.command? topic with
        | some c =>
          display (prog.commandHelp c)
          return 0
        | none => throw ⟨Bytes.ofString "runtime error: invalid memory address or nil pointer dereference"⟩
    if root.isOn "version" then
      display ("rgen version " ++ prog.version ++ "\n")
      return 0
    let work : Run m Outcome := do
      match root.args with
      | [] =>
        display prog.help
        return {}
      | first :: rest =>
        match prog.command? first with
        | some c => runCommand id argv prog root c rest {}
        | none =>
          if let some e ← begin id argv (root.text "config") (root.isOn "debug") then
            ({} : Outcome).add e
          else
            if first.isEmpty then display prog.help
            else
              (journal (m := m)).say logger "Program.run" .warn "Unknown command, nothing to do"
                [⟨"command", .text first⟩]
            return {}
    -- the session is taken down after the work, and also when the work panics
    let o ← tryCatch work fun p => do
      let _ ← finish root.args
      throw p
    match ← finish root.args with
    | some e => (← o.add e).status
    | none => o.status

/-- Run the program with arguments `argv`; a panic is printed on the standard error and ends the
program with status 2. -/
def exec (id : Identity) (argv : List Bytes) : StateT Session m Nat := do
  match ← (run id argv).run with
  | .ok status => return status
  | .error p =>
    Host.toStderr (Bytes.ofString "panic: " ++ p.message ++ [10])
    return 2

end ResourceSymbols.Program
