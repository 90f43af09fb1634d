import ResourceSymbols.Yaml.Scanner
import ResourceSymbols.Yaml.Node

namespace ResourceSymbols.Yaml

/-- What the parser keeps besides the scanner: the anchors seen with their numbers (the latest
first), the nodes they name, how many aliases have been read, and the tag handles. -/
structure Composition where
  anchors : List (Bytes × Nat) := []
  anchored : Array Node := #[]
  aliases : Nat := 0
  handles : List (Bytes × Bytes) := [([33], [33]), ([33, 33], standardPrefix)]

abbrev ParseM := StateT Composition ScanM

def parseError {α : Type} (context : Mark) (problem : String) (m : Mark) : ParseM α :=
  throw { lexical := false, context := context, problem := problem, mark := m }

def peek : ParseM Token := (peekToken : ScanM Token)

def advance : ParseM Unit := (skipToken : ScanM Unit)

def emptyAt (m : Mark) : Node := .scalar [] nullTag .plain (m.line + 1)

def TokenKind.index : TokenKind → Nat
  | .streamStart => 0
  | .streamEnd => 1
  | .versionDirective .. => 2
  | .tagDirective .. => 3
  | .documentStart => 4
  | .documentEnd => 5
  | .blockSequenceStart => 6
  | .blockMappingStart => 7
  | .blockEnd => 8
  | .flowSequenceStart => 9
  | .flowSequenceEnd => 10
  | .flowMappingStart => 11
  | .flowMappingEnd => 12
  | .blockEntry => 13
  | .flowEntry => 14
  | .key => 15
  | .value => 16
  | .reference .. => 17
  | .anchor .. => 18
  | .tag .. => 19
  | .scalar .. => 20

def Token.isOne (t : Token) (kinds : List TokenKind) : Bool :=
  kinds.any fun k => k.index == t.kind.index

def openAnchor (anchor : Option Bytes) : ParseM (Option Nat) :=
  match anchor with
  | some a => do
    let c ← get
    set { c with anchors := (a, c.anchored.size) :: c.anchors, anchored := c.anchored.push default }
    return some c.anchored.size
  | none => return none

def closeAnchor (id : Option Nat) (n : Node) : ParseM Unit :=
  match id with
  | some i => modify fun c => { c with anchored := c.anchored.setIfInBounds i n }
  | none => pure ()

def nodeTag (given : Bytes) (default : Bytes) (value : Option Bytes) : Bytes :=
  if !given.isEmpty && given != [33] then shortTag given
  else if !default.isEmpty then default
  else match value with
    | some v => match resolve [] v with
      | .ok (t, _) => t
      | .error _ => strTag
    | none => []

def nodeContentError (start : Mark) (tok : Token) (id : Option Nat) (tag : Bytes) :
    ParseM Node := do
  if id.isSome || !tag.isEmpty then
    return Node.scalar [] (nodeTag tag [] (some [])) .plain (start.line + 1)
  parseError start "did not find expected node content" tok.start

def parseIndentless (node : Bool → Bool → ParseM Node) : ParseM (List Node) := do
  let mut items : Array Node := #[]
  for _ in [0:(← getThe Scanner).bound] do
    let tok ← peek
    match tok.kind with
    | .blockEntry =>
      advance
      let next ← peek
      if next.isOne [.blockEntry, .key, .value, .blockEnd] then items := items.push (emptyAt tok.stop)
      else items := items.push (← node true false)
    | _ => break
  return items.toList

def parseBlockSequence (node : Bool → Bool → ParseM Node) : ParseM (List Node) := do
  let first ← peek
  advance
  let mut items : Array Node := #[]
  for _ in [0:(← getThe Scanner).bound] do
    let tok ← peek
    match tok.kind with
    | .blockEntry =>
      advance
      let next ← peek
      if next.isOne [.blockEntry, .blockEnd] then items := items.push (emptyAt tok.stop)
      else items := items.push (← node true false)
    | .blockEnd =>
      advance
      return items.toList
    | _ => parseError first.start "did not find expected '-' indicator" tok.start
  return items.toList

def parseBlockMapping (node : Bool → Bool → ParseM Node) : ParseM (List (Node × Node)) := do
  let first ← peek
  advance
  let mut pairs : Array (Node × Node) := #[]
  for _ in [0:(← getThe Scanner).bound] do
    let tok ← peek
    match tok.kind with
    | .key =>
      advance
      let next ← peek
      let key ← if next.isOne [.key, .value, .blockEnd] then pure (emptyAt tok.stop)
        else node true true
      let tok ← peek
      let value ← match tok.kind with
        | .value => do
          advance
          let next ← peek
          if next.isOne [.key, .value, .blockEnd] then pure (emptyAt tok.stop)
          else node true true
        | _ => pure (emptyAt tok.start)
      pairs := pairs.push (key, value)
    | .blockEnd =>
      advance
      return pairs.toList
    | _ => parseError first.start "did not find expected key" tok.start
  return pairs.toList

def parseFlowSequence (node : Bool → Bool → ParseM Node) : ParseM (List Node) := do
  let first ← peek
  advance
  let mut items : Array Node := #[]
  let mut isFirst := true
  for _ in [0:(← getThe Scanner).bound] do
    let mut tok ← peek
    if tok.isOne [.flowSequenceEnd] then break
    if !isFirst then
      if tok.isOne [.flowEntry] then
        advance
        tok ← peek
      else parseError first.start "did not find expected ',' or ']'" tok.start
    isFirst := false
    if tok.isOne [.key] then
      advance
      let next ← peek
      let key ← if next.isOne [.value, .flowEntry, .flowSequenceEnd] then pure (emptyAt next.start)
        else node false false
      let t ← peek
      let value ← if t.isOne [.value] then do
          advance
          let n ← peek
          if n.isOne [.flowEntry, .flowSequenceEnd] then pure (emptyAt n.start)
          else node false false
        else pure (emptyAt t.start)
      items := items.push (.mapping [(key, value)] mapTag true (tok.start.line + 1))
    else if tok.isOne [.flowSequenceEnd] then break
    else items := items.push (← node false false)
  advance
  return items.toList

def parseFlowMapping (node : Bool → Bool → ParseM Node) : ParseM (List (Node × Node)) := do
  let first ← peek
  advance
  let mut pairs : Array (Node × Node) := #[]
  let mut isFirst := true
  for _ in [0:(← getThe Scanner).bound] do
    let mut tok ← peek
    if tok.isOne [.flowMappingEnd] then break
    if !isFirst then
      if tok.isOne [.flowEntry] then
        advance
        tok ← peek
      else parseError first.start "did not find expected ',' or '\x7d'" tok.start
    isFirst := false
    if tok.isOne [.key] then
      advance
      let next ← peek
      let key ← if next.isOne [.value, .flowEntry, .flowMappingEnd] then pure (emptyAt next.start)
        else node false false
      let t ← peek
      let value ← if t.isOne [.value] then do
          advance
          let n ← peek
          if n.isOne [.flowEntry, .flowMappingEnd] then pure (emptyAt n.start)
          else node false false
        else pure (emptyAt t.start)
      pairs := pairs.push (key, value)
    else if tok.isOne [.flowMappingEnd] then break
    else
      let key ← node false false
      let t ← peek
      pairs := pairs.push (key, emptyAt t.start)
  advance
  return pairs.toList

def parseNode (fuel : Nat) (block indentless : Bool) : ParseM Node := do
  match fuel with
  | 0 => parseError {} "exceeded max depth" (← peek).start
  | fuel + 1 =>
  let tok ← peek
  match tok.kind with
  | .reference name =>
    advance
    match (← get).anchors.lookup name with
    | some id =>
      let c ← get
      set { c with aliases := c.aliases + 1 }
      return .alias name id c.aliases (tok.start.line + 1)
    | none => throw { lexical := false, problem := "unknown anchor '" ++
        (String.fromUTF8? ⟨name.toArray⟩).getD "" ++ "' referenced" }
  | _ =>
  let mut start := tok.start
  let mut anchor : Option Bytes := none
  let mut tagged : Option (Bytes × Bytes × Mark) := none
  let mut tok := tok
  match tok.kind with
  | .anchor a =>
    anchor := some a
    advance
    tok ← peek
    match tok.kind with
    | .tag h s =>
      tagged := some (h, s, tok.start)
      advance
      tok ← peek
    | _ => pure ()
  | .tag h s =>
    tagged := some (h, s, tok.start)
    advance
    tok ← peek
    match tok.kind with
    | .anchor a =>
      anchor := some a
      advance
      tok ← peek
    | _ => pure ()
  | _ => pure ()
  let tag ← match tagged with
    | none => pure []
    | some (h, s, m) =>
      if h.isEmpty then pure s
      else match (← get).handles.lookup h with
        | some p => pure (p ++ s)
        | none => parseError start "found undefined tag handle" m
  let line := start.line + 1
  let id ← openAnchor anchor
  let n ← match tok.kind with
    | .blockEntry =>
      if indentless then
        let items ← parseIndentless (parseNode fuel)
        pure (Node.sequence items (nodeTag tag seqTag none) false line)
      else nodeContentError start tok id tag
    | .scalar v st =>
      advance
      let default := if st != .plain then strTag else if v == Bytes.ofString "<<" then mergeTag else []
      pure (Node.scalar v (nodeTag tag default (some v)) st line)
    | .flowSequenceStart =>
      let items ← parseFlowSequence (parseNode fuel)
      pure (Node.sequence items (nodeTag tag seqTag none) true line)
    | .flowMappingStart =>
      let pairs ← parseFlowMapping (parseNode fuel)
      pure (Node.mapping pairs (nodeTag tag mapTag none) true line)
    | .blockSequenceStart =>
      if block then
        let items ← parseBlockSequence (parseNode fuel)
        pure (Node.sequence items (nodeTag tag seqTag none) false line)
      else nodeContentError start tok id tag
    | .blockMappingStart =>
      if block then
        let pairs ← parseBlockMapping (parseNode fuel)
        pure (Node.mapping pairs (nodeTag tag mapTag none) false line)
      else nodeContentError start tok id tag
    | _ => nodeContentError start tok id tag
  closeAnchor id n
  return n

def parseDirectives : ParseM Unit := do
  let mut seenVersion := false
  let mut declared : List Bytes := []
  for _ in [0:(← getThe Scanner).bound] do
    let tok ← peek
    match tok.kind with
    | .versionDirective major minor =>
      if seenVersion then parseError {} "found duplicate %YAML directive" tok.start
      if major != 1 || minor != 1 then parseError {} "found incompatible YAML document" tok.start
      seenVersion := true
      advance
    | .tagDirective h p =>
      if declared.contains h then parseError {} "found duplicate %TAG directive" tok.start
      declared := h :: declared
      modify fun c => { c with handles := (h, p) :: c.handles }
      advance
    | _ => break

def parseDocument : ParseM (Option Node) := do
  let fuel := (← getThe Scanner).bound
  let tok ← peek
  if !tok.isOne [.streamStart] then parseError {} "did not find expected <stream-start>" tok.start
  advance
  let tok ← peek
  if tok.isOne [.streamEnd] then return none
  let root ← if tok.isOne [.versionDirective 0 0, .tagDirective [] [], .documentStart] then do
      parseDirectives
      let tok ← peek
      if !tok.isOne [.documentStart] then parseError {} "did not find expected <document start>" tok.start
      advance
      let tok ← peek
      if tok.isOne [.versionDirective 0 0, .tagDirective [] [], .documentStart, .documentEnd, .streamEnd] then
        pure (emptyAt tok.start)
      else parseNode fuel true false
    else parseNode fuel true false
  let tok ← peek
  if tok.isOne [.documentEnd] then advance
  return some root

/-- The first document of YAML text, or nothing if it holds none. -/
def parseText (b : Bytes) : Except Problem (Option Document) := do
  let input := Input.ofBytes b
  if input.chars.isEmpty then
    if let some problem := input.fault then throw (badInput problem)
  let scanner : Scanner :=
    { text := input.chars, rest := input.chars.toList, fault := input.fault, pending := input.blocks }
  let ((root, c), _) ← (parseDocument.run {}).run scanner
  return root.map fun r => { root := r, anchored := c.anchored }

end ResourceSymbols.Yaml
