import ResourceSymbols.Log.Entry
import ResourceSymbols.Unicode.Utf8
import ResourceSymbols.Text.Clock

namespace ResourceSymbols.Log

def hexByte (b : Nat) : Bytes :=
  let d (n : Nat) : UInt8 := (if n < 10 then 48 + n else 87 + n).toUInt8
  [d (b / 16), d (b % 16)]

def quoted (s : Bytes) : Bytes :=
  let body := (Utf8.segments s).flatMap fun seg =>
    if seg.code == Utf8.replacement && seg.raw.length == 1 then Bytes.ofString "\\ufffd"
    else if seg.code ≥ 0x20 && seg.code != 34 && seg.code != 92 then seg.raw
    else match seg.code with
      | 34 => [92, 34]
      | 92 => [92, 92]
      | 10 => [92, 110]
      | 13 => [92, 114]
      | 9 => [92, 116]
      | c => Bytes.ofString "\\u00" ++ hexByte c
  [34] ++ body ++ [34]

def array (items : List Bytes) : Bytes := [91] ++ Bytes.join (Bytes.ofString ", ") items ++ [93]

def failurePairs (key : String) (causes : Bool) : Failure → List Bytes
  | .several fs =>
    let main := quoted (Bytes.ofString key) ++ Bytes.ofString ": " ++ quoted (Failure.several fs).message
    if causes then
      [main, quoted (Bytes.ofString (key ++ "Causes")) ++ Bytes.ofString ": "
        ++ array (fs.attach.map fun ⟨f, _⟩ => [123] ++ Bytes.join (Bytes.ofString ", ") (failurePairs "error" causes f) ++ [125])]
    else [main]
  | f => [quoted (Bytes.ofString key) ++ Bytes.ofString ": " ++ quoted f.message]

def Field.pairs (causes : Bool) (f : Field) : List Bytes :=
  let key := quoted (Bytes.ofString f.key) ++ Bytes.ofString ": "
  match f.value with
  | .text s => [key ++ quoted s]
  | .flag b => [key ++ Bytes.ofString (if b then "true" else "false")]
  | .count n => [key ++ Bytes.ofNat n]
  | .texts ss => [key ++ array (ss.map quoted)]
  | .elapsed ns => [key ++ quoted (Bytes.ofString (Clock.span ns))]
  | .failure e => failurePairs f.key causes e

/-- How a sink writes lines: whether it shows where an entry was logged from, and whether it shows
the causes of several failures. -/
structure Style where
  site : Bool
  causes : Bool

/-- The line of an entry logged at a time, with its line feed. -/
def Entry.line (style : Style) (time : Nat) (e : Entry) : Bytes :=
  let name := String.intercalate "." e.logger
  let heads : List String :=
    [Clock.iso8601 time, e.level.label] ++ (if name.isEmpty then [] else [name])
      ++ (if style.site then [e.site] else [])
  let pairs := e.fields.flatMap (Field.pairs style.causes)
  let context := if pairs.isEmpty then [] else [9] ++ [123] ++ Bytes.join (Bytes.ofString ", ") pairs ++ [125]
  Bytes.ofString (String.intercalate "\t" heads ++ "\t" ++ e.message) ++ context ++ [10]

end ResourceSymbols.Log
