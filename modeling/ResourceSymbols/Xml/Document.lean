import ResourceSymbols.Xml.Token

namespace ResourceSymbols.Xml

/-- An element: its name, its attributes in order, and its child elements. -/
inductive Element
  | mk (name : Name) (attrs : List Attr) (children : List Element)
deriving Inhabited

namespace Element

def name : Element → Name
  | .mk n _ _ => n

def attrs : Element → List Attr
  | .mk _ a _ => a

def children : Element → List Element
  | .mk _ _ c => c

def attr? (e : Element) (key : Bytes) : Option Bytes :=
  (e.attrs.find? fun a => a.name.localName == key).map Attr.value

end Element

def foldAttrs (attrs : List Attr) : List Attr :=
  attrs.foldl (fun acc a =>
    if acc.any (·.name == a.name) then acc.map fun b => if b.name == a.name then { b with value := a.value } else b
    else acc ++ [a]) []

/-- An element being read: its name, attributes and the children read so far, newest first. -/
structure Open where
  name : Name
  attrs : List Attr
  children : List Element

/-- A document: the elements at its top level, in order. -/
structure Document where
  roots : List Element

def closeInto (o : Open) : List Open → List Element → List Open × List Element
  | [], roots => ([], roots ++ [.mk o.name o.attrs o.children.reverse])
  | p :: ps, roots => ({ p with children := .mk o.name o.attrs o.children.reverse :: p.children } :: ps, roots)

def build (fuel : Nat) (stack : List Open) (roots : List Element) : ReadM Document :=
  match fuel with
  | 0 => throw .malformed
  | fuel + 1 => do
    match ← nextToken with
    | none => if stack.isEmpty then return { roots } else throw .malformed
    | some (.start n attrs) => build fuel ({ name := n, attrs := foldAttrs attrs, children := [] } :: stack) roots
    | some (.stop n) =>
      match stack with
      | o :: rest =>
        if o.name == n then
          let (stack', roots') := closeInto o rest roots
          build fuel stack' roots'
        else throw .malformed
      | [] => throw .malformed
    | some _ => build fuel stack roots

namespace Document

/-- Read a document from bytes; `stop` is why the bytes end early, if they do. -/
def read (data : Bytes) (stop : Option Bytes := none) : Except Error Document :=
  let arr := data.toArray
  (build (2 * arr.size + 2) [] []).run' { data := arr, stop }

def element? (d : Document) (tag : Bytes) : Option Element :=
  d.roots.find? fun e => e.name.localName == tag

end Document

end ResourceSymbols.Xml
