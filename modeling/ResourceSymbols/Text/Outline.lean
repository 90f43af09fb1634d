import ResourceSymbols.Text.Printf

namespace ResourceSymbols

/-- Lines written so far, and the indent of one level. -/
structure Outline where
  indent : Bytes
  text : Bytes := []
deriving Repr

namespace Outline

def standard : Outline := { indent := Bytes.ofString "  " }

/-- The indent of a depth. -/
def pad (o : Outline) (depth : Int) : Bytes :=
  (List.replicate depth.toNat o.indent).flatten

/-- A line of text as it is, indented by depth. -/
def raw (o : Outline) (depth : Int) (line : Bytes) : Outline :=
  { o with text := o.text ++ (o.pad depth ++ line ++ [10]) }

/-- A line made from a format and its arguments. -/
def line (o : Outline) (depth : Int) (fmt : Bytes) (args : List Printf.Arg) : Outline :=
  o.raw depth (Printf.format fmt args)

/-- An empty line, never indented. -/
def empty (o : Outline) : Outline := { o with text := o.text ++ [10] }

/-- A labelled value: `label: "value"`, the value quoted unless it is empty. -/
def labelled (o : Outline) (depth : Int) (label value : Bytes) : Outline :=
  o.raw depth (label ++ Bytes.ofString ": " ++ (if value.isEmpty then [] else Quote.quote value))

end Outline

end ResourceSymbols
