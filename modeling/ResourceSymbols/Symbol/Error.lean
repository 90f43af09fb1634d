import ResourceSymbols.Symbol.Basic

namespace ResourceSymbols

/-- Why a line of symbol text is no symbol. -/
inductive LineFault
  | missingField
  | unknownType (token : Bytes)
  | flaw (f : Flaw)
deriving DecidableEq, Repr

/-- The wording of a line fault. -/
def LineFault.message : LineFault → Bytes
  | .missingField => Bytes.ofString "expected <type> <class> <name> <value>"
  | .unknownType t => Quote.quote t ++ Bytes.ofString " is not a valid value type"
  | .flaw f => f.message

/-- An error about symbols. -/
inductive SymbolError
  | format (line : Nat) (text : Bytes) (fault : LineFault)
  | duplicate (cls name : Bytes)
  | invalid (sym : Symbol) (flaw : Flaw)
deriving DecidableEq, Repr

/-- The wording of an error about symbols. -/
def SymbolError.message : SymbolError → Bytes
  | .format n text fault =>
    Bytes.ofString "line " ++ Bytes.ofNat n ++ Bytes.ofString ": malformed symbol line: "
      ++ fault.message ++ Bytes.ofString " (" ++ Quote.quote text ++ Bytes.ofString ")"
  | .duplicate c n =>
    Bytes.ofString "duplicate symbol: class " ++ Quote.quote c ++ Bytes.ofString ", name "
      ++ Quote.quote n
  | .invalid s f =>
    Bytes.ofString "invalid symbol: class " ++ Quote.quote s.cls ++ Bytes.ofString ", name "
      ++ Quote.quote s.name ++ Bytes.ofString ": " ++ f.message

end ResourceSymbols
