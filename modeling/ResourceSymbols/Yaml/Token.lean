import ResourceSymbols.Unicode.Utf8

namespace ResourceSymbols.Yaml

/-- A position in the text: characters before it, and its line and column (from zero). -/
structure Mark where
  index : Nat := 0
  line : Nat := 0
  column : Nat := 0
deriving Inhabited, Repr, DecidableEq

/-- How a scalar was written. -/
inductive Style
  | plain
  | single
  | double
  | literal
  | folded
deriving Inhabited, Repr, DecidableEq

/-- What a token is. -/
inductive TokenKind
  | streamStart
  | streamEnd
  | versionDirective (major minor : Nat)
  | tagDirective (handle pfx : Bytes)
  | documentStart
  | documentEnd
  | blockSequenceStart
  | blockMappingStart
  | blockEnd
  | flowSequenceStart
  | flowSequenceEnd
  | flowMappingStart
  | flowMappingEnd
  | blockEntry
  | flowEntry
  | key
  | value
  | reference (name : Bytes)
  | anchor (name : Bytes)
  | tag (handle suffix : Bytes)
  | scalar (text : Bytes) (style : Style)
deriving Inhabited, Repr

/-- A token and the span it covers. -/
structure Token where
  kind : TokenKind
  start : Mark
  stop : Mark
deriving Inhabited, Repr

/-- A problem that stops the reading of YAML text. -/
structure Problem where
  lexical : Bool
  context : Mark := {}
  problem : String
  mark : Mark := {}
deriving Repr

def Problem.message (p : Problem) : Bytes :=
  let shift := if p.lexical then 1 else 0
  let line :=
    if p.context.line != 0 then p.context.line + shift
    else if p.mark.line != 0 then p.mark.line + shift
    else 0
  let place := if line == 0 then "" else "line " ++ toString line ++ ": "
  Bytes.ofString ("yaml: " ++ place ++ p.problem)

def isZ (c : Nat) : Bool := c == 0

def isBreak (c : Nat) : Bool := c == 13 || c == 10 || c == 0x85 || c == 0x2028 || c == 0x2029

def isBlank (c : Nat) : Bool := c == 32 || c == 9

def isBreakZ (c : Nat) : Bool := isBreak c || isZ c

def isBlankZ (c : Nat) : Bool := isBlank c || isBreakZ c

def isAlpha (c : Nat) : Bool :=
  (48 ≤ c && c ≤ 57) || (65 ≤ c && c ≤ 90) || (97 ≤ c && c ≤ 122) || c == 95 || c == 45

def isHex (c : Nat) : Bool := (48 ≤ c && c ≤ 57) || (65 ≤ c && c ≤ 70) || (97 ≤ c && c ≤ 102)

def hexValue (c : Nat) : Nat :=
  if c ≤ 57 then c - 48 else if c ≤ 70 then c - 55 else c - 87

def isDigit (c : Nat) : Bool := 48 ≤ c && c ≤ 57

def encodeAll (cs : Array Nat) : Bytes := cs.toList.flatMap Utf8.encode

end ResourceSymbols.Yaml
