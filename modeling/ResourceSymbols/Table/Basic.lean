import ResourceSymbols.Failure

namespace ResourceSymbols

/-- The name a table has when none was given. -/
def defaultTableName : Bytes := Bytes.ofString "R"

/-- A finished table: symbols in order of class, then name. -/
structure Table where
  name : Bytes
  pkg : Bytes
  symbols : List Symbol
deriving DecidableEq, Repr

namespace Table

/-- Number of symbols. -/
def len (t : Table) : Nat := t.symbols.length

/-- The symbol with a class and a name. -/
def lookup? (t : Table) (cls name : Bytes) : Option Symbol :=
  t.symbols.find? fun s => s.cls == cls && s.name == name

/-- The distinct classes, in byte order. -/
def classes (t : Table) : List Bytes := (t.symbols.map Symbol.cls).eraseDups

/-- The symbols of one class, in order of name. -/
def symbolsOf (t : Table) (cls : Bytes) : List Symbol := t.symbols.filter fun s => s.cls == cls

/-- Whether two tables, either possibly absent, are equal; two absent tables are. -/
def same : Option Table → Option Table → Bool
  | none, none => true
  | some a, some b => a == b
  | _, _ => false

end Table

/-- A table under construction. -/
structure Builder where
  name : Bytes := []
  pkg : Bytes := []
  accepted : List Symbol := []
  firstError : Option SymbolError := none
deriving Repr

namespace Builder

/-- Set the table name; an empty name means the default one. -/
def setName (b : Builder) (name : Bytes) : Builder := { b with name := name }

/-- Set the package; empty means the default package. -/
def setPackage (b : Builder) (pkg : Bytes) : Builder := { b with pkg := pkg }

/-- The builder after a refusal: the first refusal is remembered. -/
def refuse (b : Builder) (e : SymbolError) : Builder × Option SymbolError :=
  ({ b with firstError := b.firstError <|> some e }, some e)

/-- Offer a symbol: refused with its flaw, refused if its key is taken, otherwise kept. -/
def add (b : Builder) (s : Symbol) : Builder × Option SymbolError :=
  match s.flaw? with
  | some f => b.refuse (.invalid s f)
  | none =>
    if b.accepted.any (fun t => t.cls == s.cls && t.name == s.name) then
      b.refuse (.duplicate s.cls s.name)
    else ({ b with accepted := s :: b.accepted }, none)

/-- Offer symbols in order, stopping at the first refusal. -/
def addAll (b : Builder) : List Symbol → Builder × Option SymbolError
  | [] => (b, none)
  | s :: rest =>
    match b.add s with
    | (b', none) => b'.addAll rest
    | (b', some e) => (b', some e)

/-- The table of the accepted symbols, or the first refusal. -/
def build (b : Builder) : Except SymbolError Table :=
  match b.firstError with
  | some e => .error e
  | none =>
    .ok { name := if b.name.isEmpty then defaultTableName else b.name
          pkg := b.pkg
          symbols := b.accepted.mergeSort Symbol.keyLe }

end Builder

end ResourceSymbols
