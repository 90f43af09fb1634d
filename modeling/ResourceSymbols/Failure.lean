import ResourceSymbols.Symbol.Error

namespace ResourceSymbols

/-- An error with the context it travelled through. -/
inductive Failure
  | symbol (e : SymbolError)
  | note (message : Bytes)
  | within (lead : Bytes) (cause : Failure)
  | several (causes : List Failure)
deriving Repr

namespace Failure

def plain (s : String) : Failure := .note (Bytes.ofString s)

def context (lead : Bytes) (cause : Failure) : Failure := .within lead cause

mutual

def message : Failure → Bytes
  | .symbol e => e.message
  | .note m => m
  | .within l c => l ++ message c
  | .several cs => Bytes.join (Bytes.ofString "; ") (messages cs)

def messages : List Failure → List Bytes
  | [] => []
  | c :: cs => message c :: messages cs

end

def symbolErrors : Failure → List SymbolError
  | .symbol e => [e]
  | .note _ => []
  | .within _ c => symbolErrors c
  | .several cs => (cs.attach.map fun ⟨c, _⟩ => symbolErrors c).flatten

def combine : List Failure → Option Failure
  | [] => none
  | [f] => some f
  | fs => some (.several fs)

def parts : Failure → List Failure
  | .several cs => cs
  | f => [f]

def append : Option Failure → Option Failure → Option Failure
  | none, g => g
  | f, none => f
  | some f, some g => combine (f.parts ++ g.parts)

end Failure

/-- What reading a stream gives: the bytes delivered, then the failure that ended the reading
early, if any. -/
structure Delivery where
  bytes : Bytes
  stop : Option Failure := none

end ResourceSymbols
