import ResourceSymbols.Failure

namespace ResourceSymbols.Log

/-- How much an entry matters. -/
inductive Level
  | debug
  | info
  | warn
  | error
deriving DecidableEq, Repr

namespace Level

def rank : Level → Nat
  | .debug => 0
  | .info => 1
  | .warn => 2
  | .error => 3

def label : Level → String
  | .debug => "DEBUG"
  | .info => "INFO"
  | .warn => "WARN"
  | .error => "ERROR"

end Level

/-- The value of a field. -/
inductive Value
  | text (s : Bytes)
  | flag (b : Bool)
  | count (n : Nat)
  | texts (ss : List Bytes)
  | elapsed (nanos : Nat)
  | failure (f : Failure)

/-- A named value. -/
structure Field where
  key : String
  value : Value

/-- One entry: who logged it (the dotted names of the logger, and the function it was logged from),
how much it matters, what happened and the values that go with it. -/
structure Entry where
  logger : List String
  site : String := ""
  level : Level
  message : String
  fields : List Field

end Log

/-- Where a run tells what it does: entries for its log, and data and files for the debug report. -/
structure Journal (m : Type → Type) where
  log : Log.Entry → m Unit
  keepData : Bytes → Bytes → m Unit
  keepFile : Bytes → Bytes → m Unit

namespace Journal

def silent {m : Type → Type} [Monad m] : Journal m where
  log _ := pure ()
  keepData _ _ := pure ()
  keepFile _ _ := pure ()

def say {m : Type → Type} (j : Journal m) (logger : List String) (site : String) (level : Log.Level)
    (message : String) (fields : List Log.Field) : m Unit :=
  j.log { logger, site, level, message, fields }

end Journal

end ResourceSymbols
