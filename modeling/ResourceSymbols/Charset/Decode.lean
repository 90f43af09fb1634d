import ResourceSymbols.Unicode.Utf8
import ResourceSymbols.Charset.Tables
import ResourceSymbols.Charset.Multibyte

namespace ResourceSymbols.Charset

/-- How bytes are read as characters. -/
inductive Decoding
  | utf8
  | singleByte (first : Nat) (chars : Array Char)
  | shiftJis
  | utf16 (bigEndian : Bool) (byMark : Bool)
  | eucJp
  | iso2022Jp
  | gbk (fourByte : Bool)
  | hz
  | big5
  | eucKr

def upperHalf (chars : String) : Decoding := .singleByte 0x80 chars.toList.toArray

def wholeTable (chars : String) : Decoding := .singleByte 0 chars.toList.toArray

def ascii : Decoding := .singleByte 0x80 (Array.replicate 128 (Char.ofNat Utf8.replacement))

def isTrailSurrogate (u : Nat) : Bool := 0xDC00 ≤ u && u ≤ 0xDFFF

def codeUnit (bigEndian : Bool) (x y : UInt8) : Nat :=
  if bigEndian then x.toNat * 256 + y.toNat else y.toNat * 256 + x.toNat

def utf16Codes (bigEndian : Bool) : Bytes → List Nat
  | [] => []
  | [_] => [Utf8.replacement]
  | a :: b :: c :: d :: after =>
    let u := codeUnit bigEndian a b
    let v := codeUnit bigEndian c d
    if 0xD800 ≤ u && u ≤ 0xDFFF then
      if isTrailSurrogate v then
        (if u ≤ 0xDBFF then 0x10000 + (u - 0xD800) * 0x400 + (v - 0xDC00) else Utf8.replacement)
          :: utf16Codes bigEndian after
      else Utf8.replacement :: utf16Codes bigEndian (c :: d :: after)
    else u :: utf16Codes bigEndian (c :: d :: after)
  | a :: b :: rest =>
    let u := codeUnit bigEndian a b
    (if 0xD800 ≤ u && u ≤ 0xDFFF then Utf8.replacement else u) :: utf16Codes bigEndian rest

namespace Decoding

/-- The text as UTF-8, or why it cannot be read. -/
def decode : Decoding → Bytes → Except Bytes Bytes
  | .utf8, b => .ok ((Utf8.codesBySubpart b).flatMap Utf8.encode)
  | .singleByte first chars, b => .ok (b.flatMap fun c =>
      if c.toNat < first then [c]
      else Utf8.encode ((chars[c.toNat - first]?.map Char.toNat).getD Utf8.replacement))
  | .shiftJis, b => .ok ((shiftJisCodes b).flatMap Utf8.encode)
  | .eucJp, b => .ok ((eucJpCodes b).flatMap Utf8.encode)
  | .iso2022Jp, b => .ok ((iso2022JpCodes .ascii b).flatMap Utf8.encode)
  | .gbk fourByte, b => .ok ((gbkCodes fourByte b).flatMap Utf8.encode)
  | .hz, b => .ok ((hzCodes false b).flatMap Utf8.encode)
  | .big5, b => .ok ((big5Codes b).flatMap Utf8.encode)
  | .eucKr, b => .ok ((eucKrCodes b).flatMap Utf8.encode)
  | .utf16 bigEndian byMark, b =>
    if byMark then
      match b with
      | [] => .ok []
      | [_] => .error (Bytes.ofString "transform: short source buffer")
      | 0xFE :: 0xFF :: rest => .ok ((utf16Codes true rest).flatMap Utf8.encode)
      | 0xFF :: 0xFE :: rest => .ok ((utf16Codes false rest).flatMap Utf8.encode)
      | _ => .ok ((utf16Codes bigEndian b).flatMap Utf8.encode)
    else .ok ((utf16Codes bigEndian b).flatMap Utf8.encode)

end Decoding

end ResourceSymbols.Charset
