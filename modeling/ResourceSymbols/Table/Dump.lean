import ResourceSymbols.Table.Basic
import ResourceSymbols.Text.Outline
import ResourceSymbols.Text.Natural

namespace ResourceSymbols

namespace Table

/-- Texts in natural order. -/
def naturalSort (xs : List Bytes) : List Bytes := xs.mergeSort fun a b => !Natural.less b a

/-- The outline lines of one class. -/
def dumpClass (t : Table) (o : Outline) (cls : Bytes) : Outline :=
  let list := (t.symbolsOf cls).mergeSort fun a b => !Natural.less b.name a.name
  let o := o.line 1 (Bytes.ofString "Class[%q] (%d symbols)") [.text cls, .int list.length]
  list.foldl (fun o s =>
    (o.line 2 (Bytes.ofString "%s %s") [.text s.type.toText, .text s.name]).labelled 3
      (Bytes.ofString "Value") s.value) o

/-- The dump of a table. -/
def dump (t : Table) : Bytes :=
  let pkg := if t.pkg.isEmpty then Bytes.ofString "<default>" else t.pkg
  let o := Outline.standard.line 0 (Bytes.ofString "Table %q package %q (%d symbols)")
    [.text t.name, .text pkg, .int t.len]
  ((naturalSort t.classes).foldl t.dumpClass o).text

/-- The dump of a table that may be absent. -/
def dump? : Option Table → Bytes
  | none => Bytes.ofString "<nil Table>"
  | some t => t.dump

end Table

end ResourceSymbols
