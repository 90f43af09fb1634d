import ResourceSymbols.Xml.Document
import ResourceSymbols.Java.Name
import ResourceSymbols.Text.Quote
import ResourceSymbols.Unicode.Space
import ResourceSymbols.Files.Host

namespace ResourceSymbols.Manifest

/-- The package declared by the text of a manifest; `stop` is why the text ends early, if it does. -/
def package (text : Bytes) (stop : Option Bytes := none) : Except Failure Bytes :=
  match Xml.Document.read text stop with
  | .error e => .error (.note (Bytes.ofString "unable to parse manifest: " ++ e.message))
  | .ok doc =>
    match doc.element? (Bytes.ofString "manifest") with
    | none => .error (.plain "unable to parse manifest: no manifest element")
    | some root =>
      let pkg := Bytes.trimSpace ((root.attr? (Bytes.ofString "package")).getD [])
      if Java.isPackage pkg then .ok pkg
      else .error (.note (Bytes.ofString "manifest declares invalid package name " ++ Quote.quote pkg))

/-- The package declared by the manifest next to a symbol file; no manifest there means the default
package. -/
def packageNextTo {m : Type → Type} [Monad m] [Host m] (symbolFile manifestName : Bytes) :
    m (Except Failure Bytes) := do
  match ← Host.readFile (Path.join [Path.dir symbolFile, manifestName]) with
  | .error e => return if e.missing then .ok [] else .error e.toFailure
  | .ok d => return package d.bytes (d.stop.map Failure.message)

end ResourceSymbols.Manifest
