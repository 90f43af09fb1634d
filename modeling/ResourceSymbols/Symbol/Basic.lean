import ResourceSymbols.Unicode.Space
import ResourceSymbols.Text.Quote

namespace ResourceSymbols

/-- The kind of value a symbol carries, by its number: `0` is a single integer (`int`), `1` an
array of integers in braces (`int[]`). -/
structure ValueType where
  code : Int
deriving DecidableEq, Repr

namespace ValueType

def int : ValueType := ⟨0⟩

def intArray : ValueType := ⟨1⟩

def name? (v : ValueType) : Option Bytes :=
  if v.code = 0 then some (Bytes.ofString "int")
  else if v.code = 1 then some (Bytes.ofString "int[]")
  else none

/-- Whether the number names a kind. -/
def isValid (v : ValueType) : Bool := v.code == 0 || v.code == 1

/-- The token of the kind, or `ValueType(n)` for a number that names none. -/
def toText (v : ValueType) : Bytes :=
  match v.name? with
  | some n => n
  | none => Bytes.ofString "ValueType(" ++ Bytes.ofInt v.code ++ Bytes.ofString ")"

/-- The Java type of fields holding values of this kind; the same word as in symbol text. -/
def javaType (v : ValueType) : Bytes := v.toText

/-- The kind named by a token of symbol text. -/
def ofText? (t : Bytes) : Option ValueType :=
  if t = Bytes.ofString "int" then some int
  else if t = Bytes.ofString "int[]" then some intArray
  else none

end ValueType

/-- A resource identifier: value kind, resource class (such as `id` or `styleable`), name and the
value's literal text, kept exactly as found. -/
structure Symbol where
  type : ValueType
  cls : Bytes
  name : Bytes
  value : Bytes
deriving DecidableEq, Repr

namespace Symbol

/-- The line of symbol text for the symbol, fields joined by single blanks. -/
def line (s : Symbol) : Bytes :=
  s.type.toText ++ [32] ++ s.cls ++ [32] ++ s.name ++ [32] ++ s.value

/-- The key a table is unique by. -/
def key (s : Symbol) : Bytes × Bytes := (s.cls, s.name)

/-- Order by class, then by name, both in byte order. -/
def keyLt (a b : Symbol) : Bool :=
  Bytes.lt a.cls b.cls || (a.cls == b.cls && Bytes.lt a.name b.name)

/-- Non-strict order by class, then by name. -/
def keyLe (a b : Symbol) : Bool := !keyLt b a

end Symbol

/-- Whether a text is one field of a symbol line: non-empty, with no white space. -/
def isToken (b : Bytes) : Bool := !b.isEmpty && !b.hasSpace

/-- Why a symbol cannot be written as one line of symbol text and read back unchanged. -/
inductive Flaw
  | unknownType (t : ValueType)
  | classNotToken (cls : Bytes)
  | nameNotToken (name : Bytes)
  | emptyValue
  | valueSpacing
  | intTrailing
  | arrayOpen
  | arrayClose
deriving DecidableEq, Repr

/-- The wording of a flaw. -/
def Flaw.message : Flaw → Bytes
  | .unknownType t => Bytes.ofString "unknown value type " ++ t.toText
  | .classNotToken c => Bytes.ofString "class " ++ Quote.quote c ++ Bytes.ofString " is not a single token"
  | .nameNotToken n => Bytes.ofString "name " ++ Quote.quote n ++ Bytes.ofString " is not a single token"
  | .emptyValue => Bytes.ofString "empty value"
  | .valueSpacing => Bytes.ofString "value has leading, trailing or line breaking white space"
  | .intTrailing => Bytes.ofString "unexpected content after integer value"
  | .arrayOpen => Bytes.ofString "array value must start with '\x7b'"
  | .arrayClose => Bytes.ofString "array value must end with '\x7d'"

/-- The first flaw of a symbol, in the order: kind, class, name, empty value, white space around or
line breaks in the value, then the shape of the value for its kind. -/
def Symbol.flaw? (s : Symbol) : Option Flaw :=
  if !s.type.isValid then some (.unknownType s.type)
  else if !isToken s.cls then some (.classNotToken s.cls)
  else if !isToken s.name then some (.nameNotToken s.name)
  else if s.value.isEmpty then some .emptyValue
  else if s.value != s.value.trimSpace || s.value.contains [13] || s.value.contains [10] then
    some .valueSpacing
  else if s.type.code = 0 then
    if s.value.hasSpace then some .intTrailing else none
  else if !s.value.startsWith [123] then some .arrayOpen
  else if !s.value.endsWith [125] then some .arrayClose
  else none

end ResourceSymbols
