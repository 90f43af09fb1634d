import ResourceSymbols.Table.Basic
import ResourceSymbols.Path

namespace ResourceSymbols

/-- The comment that opens every generated source. -/
def javaHeader : List Bytes :=
  [ Bytes.ofString "/* AUTO-GENERATED FILE. DO NOT MODIFY.",
    Bytes.ofString " *",
    Bytes.ofString " * This class was automatically generated by the",
    Bytes.ofString " * gradle plugin from the resource data it found. It",
    Bytes.ofString " * should not be modified by hand.",
    Bytes.ofString " */" ]

/-- Field modifiers: `public static final`, or `public static` for mutable identifiers. -/
def fieldModifiers (finalIds : Bool) : Bytes :=
  if finalIds then Bytes.ofString "public static final" else Bytes.ofString "public static"

/-- The field declaration of a symbol, indented for a nested class. -/
def Symbol.javaField (finalIds : Bool) (s : Symbol) : Bytes :=
  Bytes.ofString "        " ++ fieldModifiers finalIds ++ [32] ++ s.type.javaType ++ [32] ++ s.name
    ++ Bytes.ofString " = " ++ s.value ++ [59]

namespace Table

/-- The lines of the nested class of one resource class. -/
def javaClassLines (t : Table) (finalIds : Bool) (cls : Bytes) : List Bytes :=
  (Bytes.ofString "    public static final class " ++ cls ++ Bytes.ofString " \x7b")
    :: ((t.symbolsOf cls).map (Symbol.javaField finalIds) ++ [Bytes.ofString "    \x7d"])

/-- The lines of the Java source of the table. -/
def javaLines (t : Table) (finalIds : Bool) : List Bytes :=
  javaHeader ++ [[]]
    ++ (if t.pkg.isEmpty then [] else [Bytes.ofString "package " ++ t.pkg ++ [59], []])
    ++ [Bytes.ofString "public final class " ++ t.name ++ Bytes.ofString " \x7b"]
    ++ (t.classes.map (t.javaClassLines finalIds)).flatten
    ++ [[], [125]]

/-- The Java source of the table, every line ended by a line feed. -/
def java (t : Table) (finalIds : Bool) : Bytes :=
  ((t.javaLines finalIds).map fun l => l ++ [10]).flatten

/-- Where the source goes below an output root: package elements as directories, then the name with
`.java`. -/
def javaPath (t : Table) : Bytes :=
  let file := t.name ++ Bytes.ofString ".java"
  if t.pkg.isEmpty then file else Path.join (Bytes.splitOn t.pkg 46 ++ [file])

end Table

end ResourceSymbols
