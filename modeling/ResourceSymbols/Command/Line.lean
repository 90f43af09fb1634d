import ResourceSymbols.Unicode.Space
import ResourceSymbols.Unicode.Letter
import ResourceSymbols.Text.Quote

namespace ResourceSymbols.Command

/-- A flag of a command. -/
structure Flag where
  names : List String
  placeholder : String := ""
  usage : String
  inherited : Bool := false

def Flag.isSwitch (f : Flag) : Bool := f.placeholder.isEmpty

def Flag.name (f : Flag) : String := f.names.headD ""

def Flag.hasName (f : Flag) (n : Bytes) : Bool := f.names.any fun s => Bytes.ofString s == n

/-- What a command line says: the value of each flag given, the last given counting, by the flag's
main name; and the arguments in order. -/
structure Parsed where
  values : List (String × Bytes) := []
  args : List Bytes := []

namespace Parsed

def get? (p : Parsed) (name : String) : Option Bytes := p.values.lookup name

def text (p : Parsed) (name : String) : Bytes := (p.get? name).getD []

def isOn (p : Parsed) (name : String) : Bool := p.get? name == some (Bytes.ofString "true")

def set (p : Parsed) (name : String) (v : Bytes) : Parsed :=
  { p with values := (name, v) :: p.values.filter (·.1 != name) }

def push (p : Parsed) (more : List Bytes) : Parsed := { p with args := p.args ++ more }

end Parsed

/-- Why a command line cannot be read. -/
inductive UsageError
  | undefined (name : Bytes)
  | missingValue (word : Bytes)
  | badSwitch (value name : Bytes)

def UsageError.message : UsageError → Bytes
  | .undefined n => Bytes.ofString "flag provided but not defined: -" ++ n
  | .missingValue w => Bytes.ofString "flag needs an argument: " ++ w
  | .badSwitch v n =>
    Bytes.ofString "invalid value " ++ Quote.quote v ++ Bytes.ofString " for flag -" ++ n
      ++ Bytes.ofString ": parse error"

def switchValue (v : Bytes) : Option Bool :=
  if ["1", "t", "T", "TRUE", "true", "True"].any (Bytes.ofString · == v) then some true
  else if ["0", "f", "F", "FALSE", "false", "False"].any (Bytes.ofString · == v) then some false
  else none

def splitFlag (body : Bytes) : Bytes × Option Bytes :=
  match body.span (· != 61) with
  | (name, []) => (name, none)
  | (name, _ :: value) => (name, some value)

/-- Read the words of a command line for a command that accepts `flags` and has the subcommands
`isCommand` names. -/
def parse (flags : List Flag) (isCommand : Bytes → Bool) (acc : Parsed) :
    List Bytes → Except UsageError Parsed
  | [] => .ok acc
  | raw :: rest =>
    let w := Bytes.trimSpace raw
    match w with
    | [] => parse flags isCommand (acc.push [raw]) rest
    | 45 :: tail =>
      if tail == [45] then .ok (acc.push rest)
      else match tail with
        | [] => .ok (acc.push [w])
        | c :: more =>
          if c != 45 && !Unicode.isLetter c.toNat then .ok (acc.push (raw :: rest))
          else
            let (name, value) := splitFlag (if c == 45 then more else tail)
            match flags.find? (·.hasName name) with
            | none => .error (.undefined name)
            | some f =>
              if f.isSwitch then
                let v := match value with
                  | some v => if v.isEmpty then Bytes.ofString "true" else v
                  | none => Bytes.ofString "true"
                match switchValue v with
                | some b => parse flags isCommand (acc.set f.name (Bytes.ofString (toString b))) rest
                | none => .error (.badSwitch v name)
              else
                match value with
                | some v => parse flags isCommand (acc.set f.name v) rest
                | none =>
                  match rest with
                  | [] => .error (.missingValue w)
                  | v :: rest' => parse flags isCommand (acc.set f.name v) rest'
    | _ =>
      if isCommand w then .ok (acc.push (raw :: rest))
      else parse flags isCommand (acc.push [raw]) rest
termination_by words => words.length

end ResourceSymbols.Command
