import ResourceSymbols.Unicode.Letter
import ResourceSymbols.Unicode.Digit
import ResourceSymbols.Unicode.Utf8

namespace ResourceSymbols.Java

/-- Reserved words and literals, which no identifier may be. -/
def reserved : List String :=
  [ "abstract", "assert", "boolean", "break", "byte", "case", "catch", "char", "class", "const",
    "continue", "default", "do", "double", "else", "enum", "extends", "final", "finally",
    "float", "for", "goto", "if", "implements", "import", "instanceof", "int", "interface",
    "long", "native", "new", "package", "private", "protected", "public", "return", "short",
    "static", "strictfp", "super", "switch", "synchronized", "this", "throw", "throws",
    "transient", "try", "void", "volatile", "while", "true", "false", "null", "_" ]

/-- Whether a code point may stand in an identifier, first or not. -/
def identCode (first : Bool) (c : Nat) : Bool :=
  c == 95 || c == 36 || Unicode.isLetter c || (!first && Unicode.isDigit c)

def identCodes : Bool → List Nat → Bool
  | _, [] => true
  | first, c :: rest => identCode first c && identCodes false rest

/-- Whether a text is a Java identifier. -/
def isIdentifier (b : Bytes) : Bool :=
  !b.isEmpty && !(reserved.any fun w => Bytes.ofString w == b) && identCodes true (Utf8.codes b)

/-- Whether a text is a Java package name; the empty text is the default package. -/
def isPackage (b : Bytes) : Bool :=
  b.isEmpty || (Bytes.splitOn b 46).all isIdentifier

end ResourceSymbols.Java
