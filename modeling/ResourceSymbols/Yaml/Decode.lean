import ResourceSymbols.Yaml.Parser
import ResourceSymbols.Text.Quote
import ResourceSymbols.Text.Base64

namespace ResourceSymbols.Yaml

/-- What decoding carries along: the type errors found so far; while a merge key is applied, the
keys already given; the steps and alias steps taken; and the aliases being read, by number. -/
structure DecodeState where
  errors : Array Bytes := #[]
  merged : Option (List Bytes) := none
  steps : Nat := 0
  aliasSteps : Nat := 0
  within : List Nat := []

abbrev Decode := ReaderT Document (StateT DecodeState (Except Bytes))

def report (e : Bytes) : Decode Unit :=
  modify fun st => { st with errors := st.errors.push e }

def tooManyAliasSteps (steps aliasSteps : Nat) : Bool :=
  aliasSteps > 100 && steps > 1000 &&
    if steps ≤ 400000 then 100 * aliasSteps > 99 * steps
    else if steps ≥ 4000000 then 10 * aliasSteps > steps
    else 360000000 * aliasSteps > steps * (356400000 - 89 * (steps - 400000))

def step : Decode Unit := do
  let st ← get
  let st := { st with steps := st.steps + 1,
                      aliasSteps := if st.within.isEmpty then st.aliasSteps else st.aliasSteps + 1 }
  set st
  if tooManyAliasSteps st.steps st.aliasSteps then
    throw (Bytes.ofString "yaml: document contains excessive aliasing")

def visit {α : Type} (n : Node) (body : Node → Decode α) : Decode α := do
  step
  match n with
  | .alias name anchor serial _ =>
    if (← get).within.contains serial then
      throw (Bytes.ofString "yaml: anchor '" ++ name ++ Bytes.ofString "' value contains itself")
    modify fun st => { st with within := serial :: st.within }
    step
    let r ← body ((← read).target anchor)
    modify fun st => { st with within := st.within.erase serial }
    pure r
  | _ => body n

def shownValue (v : Bytes) : Bytes :=
  if v.length > 10 then Bytes.ofString " `" ++ v.take 7 ++ Bytes.ofString "...`"
  else Bytes.ofString " `" ++ v ++ Bytes.ofString "`"

def Node.value : Node → Bytes
  | .scalar v _ _ _ => v
  | .alias n _ _ _ => n
  | _ => []

def Node.tag : Node → Bytes
  | .scalar _ t _ _ => t
  | .sequence _ t _ _ => t
  | .mapping _ t _ _ => t
  | .alias .. => []

def typeError (n : Node) (tag : Bytes) (target : String) : Decode Unit := do
  let tag := if n.tag.isEmpty then tag else n.tag
  let value := if tag == seqTag || tag == mapTag then [] else shownValue n.value
  report (Bytes.ofString ("line " ++ toString n.line ++ ": cannot unmarshal ") ++ shortTag tag
    ++ value ++ Bytes.ofString (" into " ++ target))

def scalarMeaning (v t : Bytes) (st : Style) : Decode (Bytes × Meaning) :=
  if t == strTag || ((t.isEmpty || t == [33]) && st != .plain) then pure (strTag, .str v)
  else match resolve t v with
    | .ok (tag, m) =>
      if tag == binaryTag then
        match Base64.decode v with
        | some bytes => pure (tag, .str bytes)
        | none => throw (Bytes.ofString "yaml: !!binary value contains invalid base64 data")
      else pure (tag, m)
    | .error e => throw (Bytes.ofString "yaml: " ++ e)

def decodeString (n : Node) (cur : Bytes) : Decode (Bytes × Bool) :=
  visit n fun n => match n with
    | .scalar v t st _ => do
      let (tag, m) ← scalarMeaning v t st
      match m with
      | .null => pure (cur, false)
      | .str s => pure (if tag == binaryTag then s else v, true)
      | _ => pure (v, true)
    | .sequence .. => do typeError n seqTag "string"; pure (cur, false)
    | .mapping .. => do typeError n mapTag "string"; pure (cur, false)
    | .alias .. => pure (cur, false)

def decodeInt (n : Node) (cur : Int) : Decode Int :=
  let bound : Int := (Nat.pow 2 63 : Nat)
  visit n fun n => match n with
    | .scalar v t st _ => do
      let (tag, m) ← scalarMeaning v t st
      match m with
      | .null => pure cur
      | .int k =>
        if k < bound then pure k else do typeError n tag "int"; pure cur
      | .float (.finite w) =>
        if w > bound then do typeError n tag "int"; pure cur
        else if w == bound || w < -bound then pure (-bound)
        else pure w
      | .float .negInf => pure (-bound)
      | _ => do typeError n tag "int"; pure cur
    | .sequence .. => do typeError n seqTag "int"; pure cur
    | .mapping .. => do typeError n mapTag "int"; pure cur
    | .alias .. => pure cur

def boolWord (s : Bytes) : Option Bool :=
  if ["y", "Y", "yes", "Yes", "YES", "on", "On", "ON"].any (Bytes.ofString · == s) then some true
  else if ["n", "N", "no", "No", "NO", "off", "Off", "OFF"].any (Bytes.ofString · == s) then some false
  else none

def decodeBool (n : Node) (cur : Bool) : Decode Bool :=
  visit n fun n => match n with
    | .scalar v t st _ => do
      let (tag, m) ← scalarMeaning v t st
      match m with
      | .null => pure cur
      | .bool b => pure b
      | .str s =>
        match boolWord s with
        | some b => pure b
        | none => do typeError n tag "bool"; pure cur
      | _ => do typeError n tag "bool"; pure cur
    | .sequence .. => do typeError n seqTag "bool"; pure cur
    | .mapping .. => do typeError n mapTag "bool"; pure cur
    | .alias .. => pure cur

def decodeStrings (n : Node) (cur : Option (List Bytes)) : Decode (Option (List Bytes)) :=
  visit n fun n => match n with
    | .sequence items _ _ _ => do
      let mut out : Array Bytes := #[]
      for item in items do
        let (s, ok) ← decodeString item []
        if ok then out := out.push s
      pure (some out.toList)
    | .scalar v t st _ => do
      let (tag, m) ← scalarMeaning v t st
      match m with
      | .null => pure none
      | _ => do typeError n tag "[]string"; pure cur
    | .mapping .. => do typeError n mapTag "[]string"; pure cur
    | .alias .. => pure cur

/-- How one field of a record is read. -/
structure Field (σ : Type) where
  key : String
  read : Node → σ → Decode σ

def Node.kindIndex : Node → Nat
  | .scalar .. => 0
  | .sequence .. => 1
  | .mapping .. => 2
  | .alias .. => 3

def repeatedKeys (pairs : List (Node × Node)) : List Bytes :=
  let keys := pairs.map (·.1)
  let indexed := keys.zipIdx
  indexed.flatMap fun (ki, i) =>
    (indexed.filter fun (kj, j) => j > i && kj.kindIndex == ki.kindIndex && kj.value == ki.value).map
      fun (kj, _) => Bytes.ofString ("line " ++ toString kj.line ++ ": mapping key ") ++ Quote.quote kj.value
        ++ Bytes.ofString (" already defined at line " ++ toString ki.line)

def Node.isMerge : Node → Bool
  | .scalar v t _ _ => v == Bytes.ofString "<<" && t == mergeTag
  | _ => false

def keyText (n : Node) : Decode (Option Bytes) :=
  visit n fun n => match n with
    | .scalar v t st _ => do
      let (_, m) ← scalarMeaning v t st
      match m with
      | .str s => pure (some s)
      | .timestamp => pure (some v)
      | _ => pure none
    | _ => pure none

def wantMap : Bytes := Bytes.ofString "yaml: map merge requires map or sequence of maps as the value"

def isMergeable (d : Document) : Node → Bool
  | .mapping .. => true
  | .alias _ anchor _ _ => match d.target anchor with
    | .mapping .. => true
    | _ => false
  | _ => false

/-- Read a record from a mapping, field by field; other nodes leave it as it was or are errors. -/
def decodeRecord {σ : Type} (fuel : Nat) (typeName : String) (fields : List (Field σ)) (n : Node)
    (cur : σ) : Decode σ :=
  match fuel with
  | 0 => pure cur
  | fuel + 1 => visit n fun n => match n with
    | .scalar v t st _ => do
      let (tag, m) ← scalarMeaning v t st
      match m with
      | .null => pure cur
      | _ => do typeError n tag typeName; pure cur
    | .sequence .. => do typeError n seqTag typeName; pure cur
    | .alias .. => pure cur
    | .mapping pairs _ _ _ => do
      let repeated := repeatedKeys pairs
      if !repeated.isEmpty then
        modify fun st => { st with errors := st.errors ++ repeated.toArray }
        return cur
      let mut given := (← get).merged
      modify fun st => { st with merged := none }
      let mut mergeValue : Option Node := none
      let mut cur := cur
      let mut done : List String := []
      for (k, v) in pairs do
        if k.isMerge then
          mergeValue := some v
          continue
        let (name, ok) ← decodeString k []
        if !ok then continue
        match given with
        | some keys =>
          if keys.contains name then continue
          given := some (name :: keys)
        | none => pure ()
        match fields.find? (fun f => Bytes.ofString f.key == name) with
        | some f =>
          if done.contains f.key then
            report (Bytes.ofString ("line " ++ toString k.line ++ ": field ") ++ name
              ++ Bytes.ofString (" already set in type " ++ typeName))
            continue
          done := f.key :: done
          cur ← f.read v cur
        | none =>
          report (Bytes.ofString ("line " ++ toString k.line ++ ": field ") ++ name
            ++ Bytes.ofString (" not found in type " ++ typeName))
      modify fun st => { st with merged := given }
      let some m := mergeValue | return cur
      let outermost := given.isNone
      if outermost then
        let mut keys : List Bytes := []
        for (key, _) in pairs do
          match ← keyText key with
          | some text => keys := text :: keys
          | none => pure ()
        modify fun st => { st with merged := some keys }
      let doc ← read
      match m with
      | .mapping .. | .alias .. =>
        if !isMergeable doc m then throw wantMap
        cur ← decodeRecord fuel typeName fields m cur
      | .sequence items _ _ _ =>
        for item in items do
          if !isMergeable doc item then throw wantMap
          cur ← decodeRecord fuel typeName fields item cur
      | _ => throw wantMap
      if outermost then modify fun st => { st with merged := none }
      pure cur

def Document.decode {α : Type} (d : Document) (body : Node → Decode α) :
    Except Bytes (α × DecodeState) :=
  ((do step; body d.root : Decode α).run d).run {}

end ResourceSymbols.Yaml
