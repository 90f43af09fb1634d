import ResourceSymbols.Table.Basic

namespace ResourceSymbols

open Utf8

/-- The longest a line may be, line feed included. -/
def maxLineLength : Nat := 16 * 1024 * 1024

/-- The first white-space-delimited field of a text, and the rest after it. -/
def nextField (b : Bytes) : Bytes × Bytes :=
  let segs := (segments b).dropWhile Segment.isSpace
  let field := segs.takeWhile fun s => !s.isSpace
  let rest := segs.dropWhile fun s => !s.isSpace
  (field.flatMap Segment.raw, rest.flatMap Segment.raw)

/-- The symbol on a line of symbol text, or why the line is none. -/
def parseLine (n : Nat) (line : Bytes) : Except SymbolError Symbol :=
  let (typeTok, rest) := nextField line
  let (cls, rest) := nextField rest
  let (name, rest) := nextField rest
  let value := rest.trimSpace
  if value.isEmpty then .error (.format n line .missingField)
  else
    match ValueType.ofText? typeTok with
    | none => .error (.format n line (.unknownType typeTok))
    | some t =>
      let s : Symbol := { type := t, cls := cls, name := name, value := value }
      match s.flaw? with
      | some f => .error (.format n line (.flaw f))
      | none => .ok s

/-- The lines of a text: pieces between line feeds, a last empty piece left out. -/
def textLines (b : Bytes) : List Bytes :=
  let pieces := Bytes.splitOn b 10
  if pieces.getLast? == some [] then pieces.dropLast else pieces

/-- What reading is told besides the text: the table's name and package. -/
structure ReadOptions where
  name : Bytes := []
  pkg : Bytes := []

/-- Feed lines, numbered from `n`, to the builder; a line that is too long ends the reading. -/
def feedLines (b : Builder) (n : Nat) : List Bytes → Except Failure Builder
  | [] => .ok b
  | raw :: rest =>
    if raw.length ≥ maxLineLength then
      .error (.within (Bytes.ofString "unable to read symbols: ")
        (Failure.plain "bufio.Scanner: token too long"))
    else
      let line := (raw.dropSuffix [13]).dropSuffix [13]
      if line.isBlank then feedLines b (n + 1) rest
      else
        match parseLine n line with
        | .error e => .error (.symbol e)
        | .ok s =>
          match b.add s with
          | (_, some e) =>
            .error (.within (Bytes.ofString "line " ++ Bytes.ofNat n ++ Bytes.ofString ": ")
              (.symbol e))
          | (b', none) => feedLines b' (n + 1) rest

/-- Read symbol text into a table. -/
def Table.read (opts : ReadOptions) (text : Bytes) (stop : Option Failure := none) :
    Except Failure Table := do
  let b := ({} : Builder).setName opts.name |>.setPackage opts.pkg
  let b ← feedLines b 1 (textLines text)
  if let some f := stop then
    throw (.within (Bytes.ofString "unable to read symbols: ") f)
  match b.build with
  | .ok t => pure t
  | .error e => throw (.symbol e)

/-- The symbol text of a table: one line per symbol, in table order. -/
def Table.write (t : Table) : Bytes := (t.symbols.map fun s => s.line ++ [10]).flatten

end ResourceSymbols
