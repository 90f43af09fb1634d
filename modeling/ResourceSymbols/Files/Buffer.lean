import ResourceSymbols.Files.Host

namespace ResourceSymbols.Files

/-- The state of a write buffer for one file. -/
structure Buffer where
  path : Bytes
  size : Nat := 4096
  held : Bytes := []
  failed : Option FsError := none

namespace Buffer

variable {m : Type → Type} [Monad m] [Host m]

def send (b : Buffer) (p : Bytes) : m Buffer := do
  match ← Host.append b.path p with
  | .ok () => return b
  | .error e => return { b with failed := some e }

def put (b : Buffer) (p : Bytes) : m Buffer := do
  if b.failed.isSome then return b
  if b.held.length + p.length ≤ b.size then return { b with held := b.held ++ p }
  if b.held.isEmpty then return ← b.send p
  let room := b.size - b.held.length
  let b ← { b with held := [] }.send (b.held ++ p.take room)
  if b.failed.isSome then return b
  let rest := p.drop room
  if rest.length ≤ b.size then return { b with held := rest }
  b.send rest

def flush (b : Buffer) : m Buffer := do
  if b.failed.isSome || b.held.isEmpty then return b
  { b with held := [] }.send b.held

end Buffer

end ResourceSymbols.Files
