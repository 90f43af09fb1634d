import ResourceSymbols.Bytes

namespace ResourceSymbols.Base64

def digit? (c : UInt8) : Option Nat :=
  if 65 ≤ c && c ≤ 90 then some (c.toNat - 65)
  else if 97 ≤ c && c ≤ 122 then some (c.toNat - 71)
  else if 48 ≤ c && c ≤ 57 then some (c.toNat + 4)
  else if c == 43 then some 62
  else if c == 47 then some 63
  else none

def groupBytes (v n : Nat) : Bytes :=
  ([v / 65536, v / 256 % 256, v % 256].take n).map Nat.toUInt8

def groups : Bytes → Option Bytes
  | [] => some []
  | [a, b, 61, 61] => do
    let x ← digit? a
    let y ← digit? b
    pure (groupBytes (x * 262144 + y * 4096) 1)
  | [a, b, c, 61] => do
    let x ← digit? a
    let y ← digit? b
    let z ← digit? c
    pure (groupBytes (x * 262144 + y * 4096 + z * 64) 2)
  | a :: b :: c :: d :: rest => do
    let x ← digit? a
    let y ← digit? b
    let z ← digit? c
    let w ← digit? d
    let tail ← groups rest
    pure (groupBytes (x * 262144 + y * 4096 + z * 64 + w) 3 ++ tail)
  | _ => none

def decode (s : Bytes) : Option Bytes :=
  groups (s.filter fun c => c != 10 && c != 13)

def digitChar (v : Nat) : UInt8 :=
  if v < 26 then (v + 65).toUInt8
  else if v < 52 then (v + 71).toUInt8
  else if v < 62 then (v - 4).toUInt8
  else if v == 62 then 43
  else 47

def groupChars (v n : Nat) : Bytes :=
  ([v / 262144, v / 4096 % 64, v / 64 % 64, v % 64].take n).map digitChar
    ++ List.replicate (4 - n) 61

def encode : Bytes → Bytes
  | a :: b :: c :: rest =>
    groupChars (a.toNat * 65536 + b.toNat * 256 + c.toNat) 4 ++ encode rest
  | [a, b] => groupChars (a.toNat * 65536 + b.toNat * 256) 3
  | [a] => groupChars (a.toNat * 65536) 2
  | [] => []

end ResourceSymbols.Base64
