import ResourceSymbols.Unicode.Utf8
import ResourceSymbols.Text.Quote
import ResourceSymbols.Xml.Name

namespace ResourceSymbols.Xml

/-- A name, with the prefix before a colon if there is one. -/
structure Name where
  space : Bytes := []
  localName : Bytes
deriving Repr, DecidableEq, Inhabited

/-- An attribute. -/
structure Attr where
  name : Name
  value : Bytes
deriving Repr, Inhabited

/-- A token of XML text. -/
inductive Token
  | start (name : Name) (attrs : List Attr)
  | stop (name : Name)
  | text (data : Bytes)
  | comment (data : Bytes)
  | instruction (target : Bytes) (data : Bytes)
  | directive (data : Bytes)
deriving Repr, Inhabited

/-- Why reading stopped. -/
inductive Error
  | atLine (line : Nat) (msg : Bytes)
  | version (v : Bytes)
  | unread (msg : Bytes)
  | malformed
deriving Repr

def Error.message : Error → Bytes
  | .atLine line msg => Bytes.ofString ("XML syntax error on line " ++ toString line ++ ": ") ++ msg
  | .version v => Bytes.ofString "xml: unsupported version " ++ v ++ Bytes.ofString "; only version 1.0 is supported"
  | .unread msg => msg
  | .malformed => Bytes.ofString "etree: invalid XML format"

/-- The reader: the text, why it ends where it does if that is not its true end, the position, the
line, and the end tag owed by a tag that closed itself. -/
structure Reader where
  data : Array UInt8
  stop : Option Bytes := none
  pos : Nat := 0
  line : Nat := 1
  owed : Option Name := none

abbrev ReadM := StateT Reader (Except Error)

def failAt {α : Type} (msg : String) : ReadM α := do
  throw (.atLine (← get).line (Bytes.ofString msg))

def failWith {α : Type} (msg : String) (read : Bytes) : ReadM α := do
  throw (.atLine (← get).line (Bytes.ofString msg ++ read))

def getc : ReadM (Option UInt8) := do
  let r ← get
  match r.data[r.pos]? with
  | some b =>
    set { r with pos := r.pos + 1, line := if b == 10 then r.line + 1 else r.line }
    return some b
  | none =>
    match r.stop with
    | some msg => throw (.unread msg)
    | none => return none

def mustgetc : ReadM UInt8 := do
  match ← getc with
  | some b => return b
  | none => failAt "unexpected EOF"

def ungetc (b : UInt8) : ReadM Unit :=
  modify fun r => { r with pos := r.pos - 1, line := if b == 10 then r.line - 1 else r.line }

def isNameByte (c : UInt8) : Bool :=
  (65 ≤ c && c ≤ 90) || (97 ≤ c && c ≤ 122) || (48 ≤ c && c ≤ 57) || c == 95 || c == 58 || c == 46
    || c == 45

def isName (b : Bytes) : Bool :=
  match Utf8.segments b with
  | [] => false
  | first :: rest =>
    let valid (s : Utf8.Segment) := !(s.code == Utf8.replacement && s.raw.length == 1)
    valid first && isNameStart first.code && rest.all fun s => valid s && isNameChar s.code

def skipSpace : ReadM Unit := do
  for _ in [0:(← get).data.size + 1] do
    match ← getc with
    | some b =>
      if b == 32 || b == 13 || b == 10 || b == 9 then pure ()
      else
        ungetc b
        break
    | none => break

def readName : ReadM (Option Bytes) := do
  let b ← mustgetc
  if b < 128 && !isNameByte b then
    ungetc b
    return none
  let mut out : Bytes := [b]
  for _ in [0:(← get).data.size + 1] do
    let b ← mustgetc
    if b < 128 && !isNameByte b then
      ungetc b
      break
    out := out ++ [b]
  return some out

def name : ReadM (Option Bytes) := do
  match ← readName with
  | none => return none
  | some n =>
    if !isName n then failWith "invalid XML name: " n
    return some n

def nsname : ReadM (Option Name) := do
  match ← name with
  | none => return none
  | some n =>
    let parts := Bytes.splitOn n 58
    match parts with
    | [whole] => return some { localName := whole }
    | [sp, loc] =>
      if sp.isEmpty || loc.isEmpty then return some { localName := n } else return some { space := sp, localName := loc }
    | _ => return none

def inCharacterRange (c : Nat) : Bool :=
  c == 9 || c == 10 || c == 13 || (0x20 ≤ c && c ≤ 0xD7FF) || (0xE000 ≤ c && c ≤ 0xFFFD)
    || (0x10000 ≤ c && c ≤ 0x10FFFF)

def codeNotation (c : Nat) : String :=
  let ds := (Nat.toDigits 16 c).map Char.toUpper
  "U+" ++ String.ofList (List.replicate (4 - min 4 ds.length) '0' ++ ds)

def predefined (n : Bytes) : Option Bytes :=
  if n == Bytes.ofString "lt" then some [60]
  else if n == Bytes.ofString "gt" then some [62]
  else if n == Bytes.ofString "amp" then some [38]
  else if n == Bytes.ofString "apos" then some [39]
  else if n == Bytes.ofString "quot" then some [34]
  else none

def digitValue (base : Nat) (ds : Bytes) : Nat :=
  ds.foldl (fun acc c =>
    let d := if c ≤ 57 then c.toNat - 48 else if c ≤ 70 then c.toNat - 55 else c.toNat - 87
    acc * base + d) 0

def reference : ReadM (Option Bytes × Bytes) := do
  let b ← mustgetc
  if b == 35 then
    let mut seen : Bytes := [35]
    let mut b ← mustgetc
    let mut base := 10
    if b == 120 then
      base := 16
      seen := seen ++ [b]
      b ← mustgetc
    let mut digits : Bytes := []
    for _ in [0:(← get).data.size + 1] do
      if (48 ≤ b && b ≤ 57) || (base == 16 && ((97 ≤ b && b ≤ 102) || (65 ≤ b && b ≤ 70))) then
        digits := digits ++ [b]
        b ← mustgetc
      else break
    seen := seen ++ digits
    if b != 59 then
      ungetc b
      return (none, seen)
    seen := seen ++ [59]
    let v := digitValue base digits
    if !digits.isEmpty && v ≤ 0x10FFFF then
      return (some (Utf8.encode v), seen)
    return (none, seen)
  else
    ungetc b
    let n ← readName
    let n := n.getD []
    let b ← mustgetc
    if b != 59 then
      ungetc b
      return (none, n)
    match (if isName n then predefined n else none) with
    | some t => return (some t, n ++ [59])
    | none => return (none, n ++ [59])

def text (quote : Option UInt8) (cdata : Bool) : ReadM Bytes := do
  let mut out : Bytes := []
  let mut b0 : UInt8 := 0
  let mut b1 : UInt8 := 0
  let mut trunc := 0
  for _ in [0:(← get).data.size + 1] do
    match ← getc with
    | none =>
      if cdata then failAt "unexpected EOF in CDATA section"
      break
    | some b =>
      if quote.isNone && b0 == 93 && b1 == 93 && b == 62 then
        if cdata then
          trunc := 2
          break
        failAt "unescaped ]]> not in CDATA section"
      if b == 60 && !cdata then
        if quote.isSome then failAt "unescaped < inside quoted string"
        ungetc b
        break
      if quote == some b then break
      if b == 38 && !cdata then
        let (value, seen) ← reference
        match value with
        | some v =>
          out := out ++ v
          b0 := 0
          b1 := 0
          continue
        | none =>
          let ent := [38] ++ seen
          let ent := if ent.getLast? == some 59 then ent else ent ++ Bytes.ofString " (no semicolon)"
          throw (.atLine (← get).line (Bytes.ofString "invalid character entity " ++ ent))
      if b == 13 then out := out ++ [10]
      else if b1 == 13 && b == 10 then pure ()
      else out := out ++ [b]
      b0 := b1
      b1 := b
  let data := out.take (out.length - trunc)
  for s in Utf8.segments data do
    if s.code == Utf8.replacement && s.raw.length == 1 then failAt "invalid UTF-8"
    if !inCharacterRange s.code then failAt ("illegal character code " ++ codeNotation s.code)
  return data

def declParam (param : String) (s : Bytes) : Bytes :=
  let key := Bytes.ofString (param ++ "=")
  let rec go (fuel : Nat) (rest : Bytes) : Bytes :=
    match fuel with
    | 0 => []
    | fuel + 1 =>
      let idx := (List.range rest.length).find? fun i => Bytes.startsWith (rest.drop i) key
      match idx with
      | none => []
      | some k =>
        if key.length + k ≥ rest.length then []
        else
          let after := rest.drop (key.length + k)
          match after with
          | c :: more =>
            if c == 39 || c == 34 then
              if more.contains c then more.takeWhile (· != c) else []
            else go fuel more
          | [] => []
  go (s.length + 1) s

def comment : ReadM Token := do
  if (← mustgetc) != 45 then failAt "invalid sequence <!- not part of <!--"
  let mut out : Bytes := []
  let mut b0 : UInt8 := 0
  let mut b1 : UInt8 := 0
  for _ in [0:(← get).data.size + 1] do
    let b ← mustgetc
    out := out ++ [b]
    if b0 == 45 && b1 == 45 then
      if b != 62 then failAt "invalid sequence \"--\" not allowed in comments"
      break
    b0 := b1
    b1 := b
  return .comment (out.take (out.length - 3))

def directive (first : UInt8) : ReadM Token := do
  let mut out : Bytes := [first]
  let mut inquote : UInt8 := 0
  let mut depth : Nat := 0
  let n := (← get).data.size + 1
  for _ in [0:n] do
    let b ← mustgetc
    if inquote == 0 && b == 62 && depth == 0 then break
    out := out ++ [b]
    if b == inquote then inquote := 0
    else if inquote != 0 then pure ()
    else if b == 39 || b == 34 then inquote := b
    else if b == 62 then depth := depth - 1
    else if b == 60 then
      let c1 ← mustgetc
      if c1 != 33 then
        ungetc c1
        depth := depth + 1
      else
        let c2 ← mustgetc
        if c2 != 45 then
          ungetc c2
          out := out ++ [33]
          depth := depth + 1
        else
          let c3 ← mustgetc
          if c3 != 45 then
            ungetc c3
            out := out ++ [33, 45]
            depth := depth + 1
          else
            out := out.dropLast
            let mut d0 : UInt8 := 0
            let mut d1 : UInt8 := 0
            for _ in [0:n] do
              let d ← mustgetc
              if d0 == 45 && d1 == 45 && d == 62 then break
              d0 := d1
              d1 := d
            out := out ++ [32]
  return .directive out

def instruction : ReadM Token := do
  let some target ← name | failAt "expected target name after <?"
  skipSpace
  let mut out : Bytes := []
  let mut b0 : UInt8 := 0
  for _ in [0:(← get).data.size + 1] do
    let b ← mustgetc
    out := out ++ [b]
    if b0 == 63 && b == 62 then break
    b0 := b
  let data := out.take (out.length - 2)
  if target == Bytes.ofString "xml" then
    let v := declParam "version" data
    if !v.isEmpty && v != Bytes.ofString "1.0" then throw (.version (Quote.quote v))
  return .instruction target data

def startTag : ReadM Token := do
  let some tag ← nsname | failAt "expected element name after <"
  let mut attrs : Array Attr := #[]
  for _ in [0:(← get).data.size + 1] do
    skipSpace
    let b ← mustgetc
    if b == 47 then
      if (← mustgetc) != 62 then failAt "expected /> in element"
      modify fun r => { r with owed := some tag }
      break
    if b == 62 then break
    ungetc b
    let some an ← nsname | failAt "expected attribute name in element"
    skipSpace
    if (← mustgetc) != 61 then failAt "attribute name without = in element"
    skipSpace
    let q ← mustgetc
    if q != 34 && q != 39 then failAt "unquoted or missing attribute value in element"
    let v ← text (some q) false
    attrs := attrs.push { name := an, value := v }
  return .start tag attrs.toList

def nextToken : ReadM (Option Token) := do
  if let some n := (← get).owed then
    modify fun r => { r with owed := none }
    return some (.stop n)
  match ← getc with
  | none => return none
  | some b =>
    if b != 60 then
      ungetc b
      return some (.text (← text none false))
    let b ← mustgetc
    if b == 47 then
      let some n ← nsname | failAt "expected element name after </"
      skipSpace
      if (← mustgetc) != 62 then
        failAt ("invalid characters between </" ++ (String.fromUTF8? ⟨n.localName.toArray⟩).getD "" ++ " and >")
      return some (.stop n)
    if b == 63 then return some (← instruction)
    if b == 33 then
      let c ← mustgetc
      if c == 45 then return some (← comment)
      if c == 91 then
        for ch in "CDATA[".toList do
          if (← mustgetc) != ch.toNat.toUInt8 then failAt "invalid <![ sequence"
        return some (.text (← text none true))
      return some (← directive c)
    ungetc b
    return some (← startTag)

end ResourceSymbols.Xml
