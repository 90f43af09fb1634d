import ResourceSymbols.Unicode.Utf8

namespace ResourceSymbols.Unicode

/-- Whether a code point is white space. -/
def isSpace (c : Nat) : Bool :=
  if c < 0x100 then
    c == 0x20 || (0x09 ≤ c && c ≤ 0x0D) || c == 0x85 || c == 0xA0
  else
    c == 0x1680 || (0x2000 ≤ c && c ≤ 0x200A) || c == 0x2028 || c == 0x2029 || c == 0x202F
      || c == 0x205F || c == 0x3000

end ResourceSymbols.Unicode

namespace ResourceSymbols.Utf8

def Segment.isSpace (s : Segment) : Bool := Unicode.isSpace s.code

end ResourceSymbols.Utf8

namespace ResourceSymbols.Bytes

open Unicode Utf8

/-- The text without white space at either end. -/
def trimSpace (b : Bytes) : Bytes :=
  (((segments b).dropWhile Segment.isSpace).reverse.dropWhile Segment.isSpace).reverse
    |>.flatMap Segment.raw

def trimLeftSpace (b : Bytes) : Bytes :=
  ((segments b).dropWhile Segment.isSpace).flatMap Segment.raw

def hasSpace (b : Bytes) : Bool := (segments b).any Segment.isSpace

def isBlank (b : Bytes) : Bool := (segments b).all Segment.isSpace

end ResourceSymbols.Bytes
