import ResourceSymbols.Yaml.Token
import ResourceSymbols.Yaml.Time

namespace ResourceSymbols.Yaml

/-- A node of a YAML document. -/
inductive Node
  | scalar (value : Bytes) (tag : Bytes) (style : Style) (line : Nat)
  | sequence (items : List Node) (tag : Bytes) (flow : Bool) (line : Nat)
  | mapping (pairs : List (Node × Node)) (tag : Bytes) (flow : Bool) (line : Nat)
  | alias (name : Bytes) (anchor : Nat) (serial : Nat) (line : Nat)
deriving Inhabited, Repr

def Node.line : Node → Nat
  | .scalar _ _ _ l => l
  | .sequence _ _ _ l => l
  | .mapping _ _ _ l => l
  | .alias _ _ _ l => l

/-- A YAML document: its root, and the nodes its anchors name, by number. -/
structure Document where
  root : Node
  anchored : Array Node := #[]

def Document.target (d : Document) (anchor : Nat) : Node :=
  d.anchored[anchor]?.getD (.scalar [] [] .plain 0)

def strTag : Bytes := Bytes.ofString "!!str"
def intTag : Bytes := Bytes.ofString "!!int"
def floatTag : Bytes := Bytes.ofString "!!float"
def boolTag : Bytes := Bytes.ofString "!!bool"
def nullTag : Bytes := Bytes.ofString "!!null"
def seqTag : Bytes := Bytes.ofString "!!seq"
def mapTag : Bytes := Bytes.ofString "!!map"
def timestampTag : Bytes := Bytes.ofString "!!timestamp"
def binaryTag : Bytes := Bytes.ofString "!!binary"
def mergeTag : Bytes := Bytes.ofString "!!merge"

def standardPrefix : Bytes := Bytes.ofString "tag:yaml.org,2002:"

def shortTag (t : Bytes) : Bytes :=
  if t.startsWith standardPrefix then Bytes.ofString "!!" ++ t.drop standardPrefix.length else t

/-- What a scalar means. -/
inductive Meaning
  | null
  | bool (b : Bool)
  | int (n : Int)
  | float (f : FloatValue)
  | timestamp
  | str (s : Bytes)
deriving Repr, DecidableEq

def resolvable (tag : Bytes) : Bool :=
  tag.isEmpty || tag == strTag || tag == boolTag || tag == intTag || tag == floatTag || tag == nullTag
    || tag == timestampTag

def numericMeaning (tag : Bytes) (s : Bytes) : Bytes × Meaning :=
  match s.head? with
  | some 46 =>
    let plain := s.filter (· != 95)
    if underscoresBetweenDigits 0 s && isYamlFloat plain then
      match decimalFloat plain with
      | some f => (floatTag, .float f)
      | none => (strTag, .str s)
    else (strTag, .str s)
  | some c =>
    if c == 43 || c == 45 || isDigitByte c then
      if (tag.isEmpty || tag == timestampTag) && isTimestamp s then (timestampTag, .timestamp)
      else
        let plain := s.filter (· != 95)
        match parseInteger plain with
        | some n => (intTag, .int n)
        | none =>
          match (if isYamlFloat plain then decimalFloat plain else none) with
          | some f => (floatTag, .float f)
          | none =>
            match prefixedInteger plain with
            | some n => (intTag, .int n)
            | none => (strTag, .str s)
    else (strTag, .str s)
  | none => (nullTag, .null)

def resolve (tag : Bytes) (s : Bytes) : Except Bytes (Bytes × Meaning) :=
  let tag := shortTag tag
  if !resolvable tag then .ok (tag, .str s)
  else
    let found : Bytes × Meaning :=
      if tag == strTag then (strTag, .str s)
      else if ["true", "True", "TRUE"].any (Bytes.ofString · == s) then (boolTag, .bool true)
      else if ["false", "False", "FALSE"].any (Bytes.ofString · == s) then (boolTag, .bool false)
      else if ["", "~", "null", "Null", "NULL"].any (Bytes.ofString · == s) then (nullTag, .null)
      else if [".nan", ".NaN", ".NAN"].any (Bytes.ofString · == s) then (floatTag, .float .nan)
      else if [".inf", ".Inf", ".INF", "+.inf", "+.Inf", "+.INF"].any (Bytes.ofString · == s) then
        (floatTag, .float .posInf)
      else if ["-.inf", "-.Inf", "-.INF"].any (Bytes.ofString · == s) then (floatTag, .float .negInf)
      else numericMeaning tag s
    let failure := Bytes.ofString "cannot decode " ++ found.1 ++ Bytes.ofString " `" ++ s
      ++ Bytes.ofString "` as a " ++ tag
    if tag.isEmpty || tag == found.1 || tag == strTag then .ok found
    else if tag == floatTag then
      match found.2 with
      | .int n =>
        if n < (Nat.pow 2 63 : Nat) then .ok (floatTag, .float (intAsFloat n)) else .error failure
      | _ => .error failure
    else .error failure

end ResourceSymbols.Yaml
