
namespace ResourceSymbols

abbrev Bytes := List UInt8

namespace Bytes

def ofString (s : String) : Bytes := s.toUTF8.toList

instance : Coe String Bytes := ⟨ofString⟩

def byte (c : Char) : UInt8 := c.toNat.toUInt8

def ofNat (n : Nat) : Bytes := ofString (toString n)

def ofInt (n : Int) : Bytes := ofString (toString n)

def join (sep : Bytes) : List Bytes → Bytes
  | [] => []
  | [x] => x
  | x :: rest => x ++ sep ++ join sep rest

def startsWith (b p : Bytes) : Bool := b.take p.length == p

def endsWith (b s : Bytes) : Bool := b.drop (b.length - s.length) == s

def dropPrefix (b p : Bytes) : Bytes := if startsWith b p then b.drop p.length else b

def dropSuffix (b s : Bytes) : Bytes :=
  if endsWith b s then b.take (b.length - s.length) else b

def splitOn (b : Bytes) (sep : UInt8) : List Bytes :=
  match b with
  | [] => [[]]
  | x :: rest =>
    match splitOn rest sep with
    | [] => [[]]
    | first :: more => if x == sep then [] :: first :: more else (x :: first) :: more

def contains (b p : Bytes) : Bool :=
  match b with
  | [] => p.isEmpty
  | x :: rest => startsWith (x :: rest) p || contains rest p

def lt : Bytes → Bytes → Bool
  | [], [] => false
  | [], _ :: _ => true
  | _ :: _, [] => false
  | x :: xs, y :: ys => x < y || (x == y && lt xs ys)

def le (a b : Bytes) : Bool := !lt b a

def compare (a b : Bytes) : Ordering :=
  if lt a b then .lt else if a == b then .eq else .gt

end Bytes

end ResourceSymbols
