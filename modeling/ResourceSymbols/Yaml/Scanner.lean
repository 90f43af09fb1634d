import ResourceSymbols.Yaml.Input

namespace ResourceSymbols.Yaml

/-- A place where a simple key may start. -/
structure SimpleKey where
  possible : Bool := false
  required : Bool := false
  number : Nat := 0
  mark : Mark := {}
deriving Inhabited

/-- The scanner: the text, the position, the tokens waiting, and the indentation and key state. -/
structure Scanner where
  text : Array Nat
  rest : List Nat := []
  fault : Option String := none
  avail : Nat := 0
  pending : List Nat := []
  held : Nat := 0
  mark : Mark := {}
  queue : List Token := []
  parsed : Nat := 0
  started : Bool := false
  finished : Bool := false
  available : Bool := false
  indent : Int := -1
  indents : List Int := []
  keyAllowed : Bool := false
  keys : Array SimpleKey := #[]
  flowLevel : Nat := 0

abbrev ScanM := StateT Scanner (Except Problem)

namespace Scanner

def ahead (s : Scanner) (k : Nat) : Nat := s.rest[k]?.getD 0

def bound (s : Scanner) : Nat := s.text.size + 2

end Scanner

def need (n : Nat) : ScanM Unit := do
  let s ← get
  if s.mark.index + n > s.avail then
    match Input.fill s.fault (s.mark.index + n) s.avail s.pending with
    | .ok (avail, pending) => set { s with avail := avail, pending := pending, held := s.mark.index }
    | .error problem => throw (badInput problem)

def peekAt (k : Nat) : ScanM Nat := do
  need (k + 1)
  return (← get).ahead k

def here : ScanM Mark := return (← get).mark

def scanError {α : Type} (context : Mark) (problem : String) : ScanM α := do
  throw { lexical := true, context := context, problem := problem, mark := (← get).mark }

def skip : ScanM Unit :=
  modify fun s =>
    { s with mark := { s.mark with index := s.mark.index + 1, column := s.mark.column + 1 },
             rest := s.rest.drop 1 }

def skipLine : ScanM Unit := do
  let c ← peekAt 0
  let d ← peekAt 1
  if c == 13 && d == 10 then
    modify fun s =>
      { s with mark := { index := s.mark.index + 2, line := s.mark.line + 1, column := 0 },
               rest := s.rest.drop 2 }
  else if isBreak c then
    modify fun s =>
      { s with mark := { index := s.mark.index + 1, line := s.mark.line + 1, column := 0 },
               rest := s.rest.drop 1 }

def readChar (acc : Array Nat) : ScanM (Array Nat) := do
  let c ← peekAt 0
  skip
  return acc.push c

def readLine (acc : Array Nat) : ScanM (Array Nat) := do
  let c ← peekAt 0
  let d ← peekAt 1
  if c == 13 && d == 10 then
    skipLine
    return acc.push 10
  else if c == 13 || c == 10 || c == 0x85 then
    skipLine
    return acc.push 10
  else if c == 0x2028 || c == 0x2029 then
    skipLine
    return acc.push c
  else return acc

def insertToken (place : Option Nat) (t : Token) : ScanM Unit :=
  modify fun s => { s with queue := match place with
    | some i => s.queue.take i ++ t :: s.queue.drop i
    | none => s.queue ++ [t] }

def pushToken (kind : TokenKind) (start stop : Mark) : ScanM Unit :=
  insertToken none { kind := kind, start := start, stop := stop }

def topKey : ScanM SimpleKey := do
  let s ← get
  return s.keys.back?.getD {}

def setTopKey (k : SimpleKey) : ScanM Unit :=
  modify fun s => { s with keys := s.keys.set! (s.keys.size - 1) k }

def keyStillValid (k : SimpleKey) : ScanM (Bool × SimpleKey) := do
  if !k.possible then return (false, k)
  let m ← here
  if k.mark.line < m.line || k.mark.index + 1024 < m.index then
    if k.required then
      throw { lexical := true, context := k.mark, problem := "could not find expected ':'", mark := m }
    return (false, { k with possible := false })
  return (true, k)

def removeSimpleKey : ScanM Unit := do
  let k ← topKey
  if k.possible then
    if k.required then
      throw { lexical := true, context := k.mark, problem := "could not find expected ':'",
              mark := (← here) }
    setTopKey { k with possible := false }

def saveSimpleKey : ScanM Unit := do
  let s ← get
  let required := s.flowLevel == 0 && s.indent == (s.mark.column : Int)
  if s.keyAllowed then
    let k : SimpleKey :=
      { possible := true, required := required, number := s.parsed + s.queue.length, mark := s.mark }
    removeSimpleKey
    setTopKey k

def increaseFlowLevel : ScanM Unit := do
  let m ← here
  modify fun s => { s with keys := s.keys.push { mark := m }, flowLevel := s.flowLevel + 1 }
  let s ← get
  if s.flowLevel > 10000 then scanError m "exceeded max depth of 10000"

def decreaseFlowLevel : ScanM Unit :=
  modify fun s =>
    if s.flowLevel > 0 then { s with flowLevel := s.flowLevel - 1, keys := s.keys.pop } else s

def rollIndent (column : Nat) (number : Option Nat) (kind : TokenKind) (m : Mark) : ScanM Unit := do
  let s ← get
  if s.flowLevel > 0 then return
  if s.indent < (column : Int) then
    set { s with indents := s.indent :: s.indents, indent := column }
    if s.indents.length + 1 > 10000 then scanError ((← topKey).mark) "exceeded max depth of 10000"
    insertToken (number.map (· - s.parsed)) { kind := kind, start := m, stop := m }

def unrollIndent (column : Int) (scanMark : Mark) : ScanM Unit := do
  let s ← get
  if s.flowLevel > 0 then return
  let blockMark := { scanMark with index := scanMark.index - 1 }
  for _ in [0:s.indents.length + 1] do
    let s ← get
    if s.indent > column then
      pushToken .blockEnd blockMark blockMark
      match s.indents with
      | i :: rest => set { (← get) with indent := i, indents := rest }
      | [] => set { (← get) with indent := -1 }
    else break

def fetchStreamStart : ScanM Unit := do
  let m ← here
  modify fun s => { s with indent := -1, keys := s.keys.push {}, keyAllowed := true, started := true }
  pushToken .streamStart m m

def fetchStreamEnd : ScanM Unit := do
  let s ← get
  if s.mark.column != 0 then
    set { s with mark := { s.mark with column := 0, line := s.mark.line + 1 } }
  unrollIndent (-1) (← here)
  removeSimpleKey
  modify fun s => { s with keyAllowed := false }
  let m ← here
  pushToken .streamEnd m m

def scanToNextToken : ScanM Unit := do
  let n := (← get).bound
  for _ in [0:n] do
    -- a byte order mark at the start of the characters at hand lets a line lose its first
    -- character, whatever it is
    need 1
    let s ← get
    if s.mark.column == 0 && s.text[s.held]? == some 0xFEFF then skip
    for _ in [0:n] do
      let s ← get
      let c ← peekAt 0
      if c == 32 || ((s.flowLevel > 0 || !s.keyAllowed) && c == 9) then skip else break
    if (← peekAt 0) == 35 then
      for _ in [0:n] do
        if isBreakZ (← peekAt 0) then break
        skip
    if isBreak (← peekAt 0) then
      skipLine
      modify fun s => if s.flowLevel == 0 then { s with keyAllowed := true } else s
    else break

def readAlpha (acc : Array Nat) : ScanM (Array Nat) := do
  let mut acc := acc
  for _ in [0:(← get).bound] do
    if isAlpha (← peekAt 0) then acc ← readChar acc else break
  return acc

def skipBlanks : ScanM Unit := do
  for _ in [0:(← get).bound] do
    if isBlank (← peekAt 0) then skip else break

def scanVersionNumber (start : Mark) : ScanM Nat := do
  let mut value := 0
  let mut length := 0
  for _ in [0:(← get).bound] do
    let c ← peekAt 0
    if !isDigit c then break
    length := length + 1
    if length > 9 then scanError start "found extremely long version number"
    value := value * 10 + (c - 48)
    skip
  if length == 0 then scanError start "did not find expected version number"
  return value

def scanTagHandle (directive : Bool) (start : Mark) : ScanM (Array Nat) := do
  if (← peekAt 0) != 33 then
    scanError start "did not find expected '!'"
  let mut s ← readChar #[]
  s ← readAlpha s
  if (← peekAt 0) == 33 then s ← readChar s
  else if directive && s != #[33] then scanError start "did not find expected '!'"
  return s

def isUriChar (verbatim : Bool) (c : Nat) : Bool :=
  isAlpha c || [59, 47, 63, 58, 64, 38, 61, 43, 36, 46, 33, 126, 42, 39, 40, 41, 37].contains c
    || (verbatim && (c == 44 || c == 91 || c == 93))

def scanTagUri (verbatim : Bool) (head : Array Nat) (start : Mark) : ScanM Bytes := do
  let mut out : Bytes := encodeAll (head.extract 1 head.size)
  let mut hasTag : Bool := head.size > 0
  for _ in [0:(← get).bound] do
    let c ← peekAt 0
    if !isUriChar verbatim c then break
    if c == 37 then
      let h1 ← peekAt 1
      let h2 ← peekAt 2
      if !(isHex h1 && isHex h2) then scanError start "did not find URI escaped octet"
      out := out ++ [(hexValue h1 * 16 + hexValue h2).toUInt8]
      skip; skip; skip
    else
      out := out ++ Utf8.encode c
      skip
    hasTag := true
  if !hasTag then scanError start "did not find expected tag URI"
  return out

def scanDirective : ScanM Token := do
  let start ← here
  skip
  let name ← readAlpha #[]
  if name.isEmpty then scanError start "could not find expected directive name"
  if !isBlankZ (← peekAt 0) then scanError start "found unexpected non-alphabetical character"
  let kind ← if name == #[89, 65, 77, 76] then do
      skipBlanks
      let major ← scanVersionNumber start
      if (← peekAt 0) != 46 then scanError start "did not find expected digit or '.' character"
      skip
      let minor ← scanVersionNumber start
      pure (TokenKind.versionDirective major minor)
    else if name == #[84, 65, 71] then do
      skipBlanks
      let handle ← scanTagHandle true start
      if !isBlank (← peekAt 0) then scanError start "did not find expected whitespace"
      skipBlanks
      let pfx ← scanTagUri true #[] start
      if !isBlankZ (← peekAt 0) then scanError start "did not find expected whitespace or line break"
      pure (TokenKind.tagDirective (encodeAll handle) pfx)
    else scanError start "found unknown directive name"
  let stop ← here
  skipBlanks
  if (← peekAt 0) == 35 then
    for _ in [0:(← get).bound] do
      if isBreakZ (← peekAt 0) then break
      skip
  if !isBreakZ (← peekAt 0) then scanError start "did not find expected comment or line break"
  if isBreak (← peekAt 0) then skipLine
  return { kind := kind, start := start, stop := stop }

def fetchDirective : ScanM Unit := do
  unrollIndent (-1) (← here)
  removeSimpleKey
  modify fun s => { s with keyAllowed := false }
  let t ← scanDirective
  insertToken none t

def fetchDocumentIndicator (kind : TokenKind) : ScanM Unit := do
  unrollIndent (-1) (← here)
  removeSimpleKey
  modify fun s => { s with keyAllowed := false }
  let start ← here
  skip; skip; skip
  pushToken kind start (← here)

def fetchFlowCollectionStart (kind : TokenKind) : ScanM Unit := do
  saveSimpleKey
  increaseFlowLevel
  modify fun s => { s with keyAllowed := true }
  let start ← here
  skip
  pushToken kind start (← here)

def fetchFlowCollectionEnd (kind : TokenKind) : ScanM Unit := do
  removeSimpleKey
  decreaseFlowLevel
  modify fun s => { s with keyAllowed := false }
  let start ← here
  skip
  pushToken kind start (← here)

def fetchFlowEntry : ScanM Unit := do
  removeSimpleKey
  modify fun s => { s with keyAllowed := true }
  let start ← here
  skip
  pushToken .flowEntry start (← here)

def fetchBlockEntry : ScanM Unit := do
  let s ← get
  if s.flowLevel == 0 then
    if !s.keyAllowed then scanError s.mark "block sequence entries are not allowed in this context"
    rollIndent s.mark.column none .blockSequenceStart s.mark
  removeSimpleKey
  modify fun s => { s with keyAllowed := true }
  let start ← here
  skip
  pushToken .blockEntry start (← here)

def fetchKey : ScanM Unit := do
  let s ← get
  if s.flowLevel == 0 then
    if !s.keyAllowed then scanError s.mark "mapping keys are not allowed in this context"
    rollIndent s.mark.column none .blockMappingStart s.mark
  removeSimpleKey
  modify fun s => { s with keyAllowed := s.flowLevel == 0 }
  let start ← here
  skip
  pushToken .key start (← here)

def fetchValue : ScanM Unit := do
  let (valid, k) ← keyStillValid (← topKey)
  setTopKey k
  if valid then
    let s ← get
    insertToken (some (k.number - s.parsed)) { kind := .key, start := k.mark, stop := k.mark }
    rollIndent k.mark.column (some k.number) .blockMappingStart k.mark
    setTopKey { k with possible := false }
    modify fun s => { s with keyAllowed := false }
  else
    let s ← get
    if s.flowLevel == 0 then
      if !s.keyAllowed then scanError s.mark "mapping values are not allowed in this context"
      rollIndent s.mark.column none .blockMappingStart s.mark
    modify fun s => { s with keyAllowed := s.flowLevel == 0 }
  let start ← here
  skip
  pushToken .value start (← here)

def fetchAnchor (isReference : Bool) : ScanM Unit := do
  saveSimpleKey
  modify fun s => { s with keyAllowed := false }
  let start ← here
  skip
  let name ← readAlpha #[]
  let stop ← here
  let c ← peekAt 0
  if name.isEmpty || !(isBlankZ c || [63, 58, 44, 93, 125, 37, 64, 96].contains c) then
    scanError start "did not find expected alphabetic or numeric character"
  pushToken (if isReference then .reference (encodeAll name) else .anchor (encodeAll name)) start stop

def fetchTag : ScanM Unit := do
  saveSimpleKey
  modify fun s => { s with keyAllowed := false }
  let start ← here
  let (handle, suffix) ← if (← peekAt 1) == 60 then do
      skip; skip
      let suffix ← scanTagUri true #[] start
      if (← peekAt 0) != 62 then scanError start "did not find the expected '>'"
      skip
      pure (([] : Bytes), suffix)
    else do
      let handle ← scanTagHandle false start
      if handle.size > 1 && handle[0]? == some 33 && handle.back? == some 33 then
        let suffix ← scanTagUri false #[] start
        pure (encodeAll handle, suffix)
      else
        let suffix ← scanTagUri false handle start
        if suffix.isEmpty then pure ([], [33]) else pure ([33], suffix)
  let c ← peekAt 0
  if !isBlankZ c then
    if (← get).flowLevel == 0 || c != 44 then
      scanError start "did not find expected whitespace or line break"
  pushToken (.tag handle suffix) start (← here)

def blockScalarBreaks (indent : Nat) (breaks : Array Nat) (start : Mark) :
    ScanM (Nat × Array Nat × Mark) := do
  let mut stop ← here
  let mut breaks := breaks
  let mut maxIndent := 0
  let n := (← get).bound
  for _ in [0:n] do
    for _ in [0:n] do
      let s ← get
      if (indent == 0 || s.mark.column < indent) && (← peekAt 0) == 32 then skip else break
    let s ← get
    let c ← peekAt 0
    if s.mark.column > maxIndent then maxIndent := s.mark.column
    if (indent == 0 || s.mark.column < indent) && c == 9 then
      scanError start "found a tab character where an indentation space is expected"
    if !isBreak c then break
    breaks ← readLine breaks
    stop ← here
  let mut indent := indent
  if indent == 0 then
    let s ← get
    indent := maxIndent
    if (indent : Int) < s.indent + 1 then indent := (s.indent + 1).toNat
    if indent < 1 then indent := 1
  return (indent, breaks, stop)

def scanBlockScalar (literal : Bool) : ScanM Token := do
  let start ← here
  skip
  let mut chomping : Int := 0
  let mut increment := 0
  let c ← peekAt 0
  if c == 43 || c == 45 then
    chomping := if c == 43 then 1 else -1
    skip
    let d ← peekAt 0
    if isDigit d then
      if d == 48 then scanError start "found an indentation indicator equal to 0"
      increment := d - 48
      skip
  else if isDigit c then
    if c == 48 then scanError start "found an indentation indicator equal to 0"
    increment := c - 48
    skip
    let d ← peekAt 0
    if d == 43 || d == 45 then
      chomping := if d == 43 then 1 else -1
      skip
  skipBlanks
  if (← peekAt 0) == 35 then
    for _ in [0:(← get).bound] do
      if isBreakZ (← peekAt 0) then break
      skip
  if !isBreakZ (← peekAt 0) then scanError start "did not find expected comment or line break"
  if isBreak (← peekAt 0) then skipLine
  let mut stop ← here
  let s ← get
  let mut indent : Nat := 0
  if increment > 0 then
    indent := if s.indent ≥ 0 then (s.indent + increment).toNat else increment
  let (i, tb, m) ← blockScalarBreaks indent #[] start
  indent := i
  let mut trailing := tb
  stop := m
  let mut out : Array Nat := #[]
  let mut leading : Array Nat := #[]
  let mut leadingBlank := false
  for _ in [0:(← get).bound] do
    let s ← get
    let c ← peekAt 0
    if !(s.mark.column == indent && !isZ c) then break
    let trailingBlank := isBlank c
    if !literal && !leadingBlank && !trailingBlank && leading[0]? == some 10 then
      if trailing.isEmpty then out := out.push 32
    else out := out ++ leading
    leading := #[]
    out := out ++ trailing
    trailing := #[]
    leadingBlank := isBlank c
    for _ in [0:(← get).bound] do
      if isBreakZ (← peekAt 0) then break
      out ← readChar out
    leading ← readLine leading
    let (i, tb, m) ← blockScalarBreaks indent trailing start
    indent := i
    trailing := tb
    stop := m
  if chomping != -1 then out := out ++ leading
  if chomping == 1 then out := out ++ trailing
  return { kind := .scalar (encodeAll out) (if literal then .literal else .folded), start := start,
           stop := stop }

def fetchBlockScalar (literal : Bool) : ScanM Unit := do
  removeSimpleKey
  modify fun s => { s with keyAllowed := true }
  let t ← scanBlockScalar literal
  insertToken none t

def atDocumentIndicator : ScanM Bool := do
  need 4
  let s ← get
  let c := s.ahead 0
  return s.mark.column == 0 && (c == 45 || c == 46) && s.ahead 1 == c && s.ahead 2 == c
    && isBlankZ (s.ahead 3)

def escapeOf (c : Nat) : Option (Nat ⊕ Nat) :=
  match c with
  | 48 => some (.inl 0)
  | 97 => some (.inl 7)
  | 98 => some (.inl 8)
  | 116 => some (.inl 9)
  | 9 => some (.inl 9)
  | 110 => some (.inl 10)
  | 118 => some (.inl 11)
  | 102 => some (.inl 12)
  | 114 => some (.inl 13)
  | 101 => some (.inl 27)
  | 32 => some (.inl 32)
  | 34 => some (.inl 34)
  | 39 => some (.inl 39)
  | 47 => some (.inl 47)
  | 92 => some (.inl 92)
  | 78 => some (.inl 0x85)
  | 95 => some (.inl 0xA0)
  | 76 => some (.inl 0x2028)
  | 80 => some (.inl 0x2029)
  | 120 => some (.inr 2)
  | 117 => some (.inr 4)
  | 85 => some (.inr 8)
  | _ => none

def scanFlowScalar (single : Bool) : ScanM Token := do
  let start ← here
  skip
  let mut out : Array Nat := #[]
  let n := (← get).bound
  for _ in [0:n] do
    if ← atDocumentIndicator then scanError start "found unexpected document indicator"
    if isZ (← peekAt 0) then scanError start "found unexpected end of stream"
    let mut leadingBlanks := false
    for _ in [0:n] do
      let c ← peekAt 0
      let d ← peekAt 1
      if isBlankZ c then break
      if single && c == 39 && d == 39 then
        out := out.push 39
        skip; skip
      else if single && c == 39 then break
      else if !single && c == 34 then break
      else if !single && c == 92 && isBreak d then
        skip
        skipLine
        leadingBlanks := true
        break
      else if !single && c == 92 then
        match escapeOf d with
        | none => scanError start "found unknown escape character"
        | some (.inl v) =>
          out := out.push v
          skip; skip
        | some (.inr len) =>
          skip; skip
          let mut value := 0
          for k in [0:len] do
            let h ← peekAt k
            if !isHex h then scanError start "did not find expected hexdecimal number"
            value := value * 16 + hexValue h
          if (0xD800 ≤ value && value ≤ 0xDFFF) || value > 0x10FFFF then
            scanError start "found invalid Unicode character escape code"
          out := out.push value
          for _ in [0:len] do skip
      else out ← readChar out
    let c ← peekAt 0
    if (single && c == 39) || (!single && c == 34) then break
    let mut whitespaces : Array Nat := #[]
    let mut leadingBreak : Array Nat := #[]
    let mut trailingBreaks : Array Nat := #[]
    for _ in [0:n] do
      let c ← peekAt 0
      if isBlank c then
        if !leadingBlanks then whitespaces ← readChar whitespaces else skip
      else if isBreak c then
        if !leadingBlanks then
          whitespaces := #[]
          leadingBreak ← readLine leadingBreak
          leadingBlanks := true
        else trailingBreaks ← readLine trailingBreaks
      else break
    if leadingBlanks then
      if leadingBreak[0]? == some 10 then
        if trailingBreaks.isEmpty then out := out.push 32 else out := out ++ trailingBreaks
      else out := out ++ leadingBreak ++ trailingBreaks
    else out := out ++ whitespaces
  skip
  return { kind := .scalar (encodeAll out) (if single then .single else .double), start := start,
           stop := (← here) }

def fetchFlowScalar (single : Bool) : ScanM Unit := do
  saveSimpleKey
  modify fun s => { s with keyAllowed := false }
  let t ← scanFlowScalar single
  insertToken none t

def scanPlainScalar : ScanM Token := do
  let s0 ← get
  let indent : Int := s0.indent + 1
  let start := s0.mark
  let mut stop := s0.mark
  let mut out : Array Nat := #[]
  let mut leadingBreak : Array Nat := #[]
  let mut trailingBreaks : Array Nat := #[]
  let mut whitespaces : Array Nat := #[]
  let mut leadingBlanks := false
  let n := s0.bound
  for _ in [0:n] do
    if ← atDocumentIndicator then break
    if (← peekAt 0) == 35 then break
    for _ in [0:n] do
      let s ← get
      let c ← peekAt 0
      if isBlankZ c then break
      if (c == 58 && isBlankZ (← peekAt 1))
          || (s.flowLevel > 0 && (c == 44 || c == 91 || c == 93 || c == 123 || c == 125)) then
        break
      if leadingBlanks || !whitespaces.isEmpty then
        if leadingBlanks then
          if leadingBreak[0]? == some 10 then
            if trailingBreaks.isEmpty then out := out.push 32 else out := out ++ trailingBreaks
          else out := out ++ leadingBreak ++ trailingBreaks
          trailingBreaks := #[]
          leadingBreak := #[]
          leadingBlanks := false
        else
          out := out ++ whitespaces
          whitespaces := #[]
      out ← readChar out
      stop ← here
    let c ← peekAt 0
    if !(isBlank c || isBreak c) then break
    for _ in [0:n] do
      let s ← get
      let c ← peekAt 0
      if isBlank c then
        if leadingBlanks && (s.mark.column : Int) < indent && c == 9 then
          scanError start "found a tab character that violates indentation"
        if !leadingBlanks then whitespaces ← readChar whitespaces else skip
      else if isBreak c then
        if !leadingBlanks then
          whitespaces := #[]
          leadingBreak ← readLine leadingBreak
          leadingBlanks := true
        else trailingBreaks ← readLine trailingBreaks
      else break
    let s ← get
    if s.flowLevel == 0 && (s.mark.column : Int) < indent then break
  if leadingBlanks then modify fun s => { s with keyAllowed := true }
  return { kind := .scalar (encodeAll out) .plain, start := start, stop := stop }

def fetchPlainScalar : ScanM Unit := do
  saveSimpleKey
  modify fun s => { s with keyAllowed := false }
  let t ← scanPlainScalar
  insertToken none t

def fetchNextToken : ScanM Unit := do
  if !(← get).started then
    fetchStreamStart
    return
  let scanMark ← here
  scanToNextToken
  unrollIndent (← here).column scanMark
  need 4
  let s ← get
  let c := s.ahead 0
  let d := s.ahead 1
  let col := s.mark.column
  if isZ c then fetchStreamEnd
  else if col == 0 && c == 37 then fetchDirective
  else if col == 0 && c == 45 && d == 45 && s.ahead 2 == 45 && isBlankZ (s.ahead 3) then
    fetchDocumentIndicator .documentStart
  else if col == 0 && c == 46 && d == 46 && s.ahead 2 == 46 && isBlankZ (s.ahead 3) then
    fetchDocumentIndicator .documentEnd
  else if c == 91 then fetchFlowCollectionStart .flowSequenceStart
  else if c == 123 then fetchFlowCollectionStart .flowMappingStart
  else if c == 93 then fetchFlowCollectionEnd .flowSequenceEnd
  else if c == 125 then fetchFlowCollectionEnd .flowMappingEnd
  else if c == 44 then fetchFlowEntry
  else if c == 45 && isBlankZ d then fetchBlockEntry
  else if c == 63 && (s.flowLevel > 0 || isBlankZ d) then fetchKey
  else if c == 58 && (s.flowLevel > 0 || isBlankZ d) then fetchValue
  else if c == 42 then fetchAnchor true
  else if c == 38 then fetchAnchor false
  else if c == 33 then fetchTag
  else if c == 124 && s.flowLevel == 0 then fetchBlockScalar true
  else if c == 62 && s.flowLevel == 0 then fetchBlockScalar false
  else if c == 39 then fetchFlowScalar true
  else if c == 34 then fetchFlowScalar false
  else if !(isBlankZ c || [45, 63, 58, 44, 91, 93, 123, 125, 35, 38, 42, 33, 124, 62, 39, 34, 37, 64,
      96].contains c)
      || (c == 45 && !isBlank d)
      || (s.flowLevel == 0 && (c == 63 || c == 58) && !isBlankZ d) then
    fetchPlainScalar
  else
    throw { lexical := true, context := s.mark, problem := "found character that cannot start any token",
            mark := s.mark }

def fetchMoreTokens : ScanM Unit := do
  for _ in [0:(← get).bound * 4 + 8] do
    let s ← get
    if s.queue.length > 2 then
      match s.keys.findIdx? (fun k => k.possible && k.number == s.parsed) with
      | none => break
      | some i =>
        let (valid, k) ← keyStillValid (s.keys[i]?.getD {})
        modify fun s => { s with keys := s.keys.set! i k }
        if !valid then break
    fetchNextToken
  modify fun s => { s with available := true }

def peekToken : ScanM Token := do
  if !(← get).available then fetchMoreTokens
  return (← get).queue.headD { kind := .streamEnd, start := (← here), stop := (← here) }

def skipToken : ScanM Unit :=
  modify fun s =>
    match s.queue with
    | t :: rest =>
      { s with queue := rest, parsed := s.parsed + 1, available := false,
               finished := match t.kind with | .streamEnd => true | _ => false }
    | [] => { s with available := false }

end ResourceSymbols.Yaml
