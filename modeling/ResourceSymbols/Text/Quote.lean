import ResourceSymbols.Unicode.Printable
import ResourceSymbols.Unicode.Utf8

namespace ResourceSymbols.Quote

open Utf8

def hexDigit (n : Nat) : UInt8 := if n < 10 then (48 + n).toUInt8 else (87 + n).toUInt8

def hex : Nat → Nat → Bytes
  | 0, _ => []
  | w + 1, n => hex w (n / 16) ++ [hexDigit (n % 16)]

def letterEscape : Nat → Option Char
  | 7 => some 'a'
  | 8 => some 'b'
  | 12 => some 'f'
  | 10 => some 'n'
  | 13 => some 'r'
  | 9 => some 't'
  | 11 => some 'v'
  | _ => none

def escape (delim : Nat) (s : Segment) (ascii : Bool := false) : Bytes :=
  if s.code == replacement && s.raw.length == 1 then
    Bytes.ofString "\\x" ++ hex 2 (s.raw.headD 0).toNat
  else if s.code == delim || s.code == 92 then 92 :: s.raw
  else if Unicode.isPrintable s.code && (!ascii || s.code < 0x80) then s.raw
  else match letterEscape s.code with
    | some c => [92, Bytes.byte c]
    | none =>
      if s.code < 0x20 || s.code == 0x7F then Bytes.ofString "\\x" ++ hex 2 s.code
      else if s.code < 0x10000 then Bytes.ofString "\\u" ++ hex 4 s.code
      else Bytes.ofString "\\U" ++ hex 8 s.code

/-- The double-quoted literal of a text. -/
def quote (b : Bytes) : Bytes := 34 :: ((segments b).flatMap (escape 34) ++ [34])

def quoteAscii (b : Bytes) : Bytes := 34 :: ((segments b).flatMap (escape 34 · true) ++ [34])

def quoteCode (c : Nat) (ascii : Bool := false) : Bytes :=
  let c := if c ≥ 0x110000 || (0xD800 ≤ c && c < 0xE000) then replacement else c
  39 :: (escape 39 ⟨c, encode c⟩ ascii ++ [39])

def canBackquote (b : Bytes) : Bool :=
  (segments b).all fun s =>
    if s.raw.length > 1 then s.code != 0xFEFF
    else s.code != replacement && (s.code ≥ 0x20 || s.code == 9) && s.code != 96 && s.code != 0x7F

end ResourceSymbols.Quote
