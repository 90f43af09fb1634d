import ResourceSymbols.Yaml.Node
import ResourceSymbols.Text.Base64

namespace ResourceSymbols.Yaml

/-- What the characters of a string allow. -/
structure ScalarTraits where
  multiline : Bool := false
  blockPlain : Bool := true
  singleQuoted : Bool := true
  block : Bool := true

def printable (c : Nat) : Bool :=
  c == 10 || (0x20 ≤ c && c ≤ 0x7E) || (0xA0 ≤ c && c ≤ 0xD7FF) || (0xE000 ≤ c && c ≤ 0xFFFD && c != 0xFEFF)

def analyze (s : Bytes) : ScalarTraits := Id.run do
  let cs := Utf8.codes s
  if cs.isEmpty then return { blockPlain := true, singleQuoted := true, block := false }
  let mut blockIndicators := false
  let mut lineBreaks := false
  let mut special := false
  let mut tabs := false
  let mut leadingSpace := false
  let mut leadingBreak := false
  let mut trailingSpace := false
  let mut trailingBreak := false
  let mut breakSpace := false
  let mut spaceBreak := false
  let mut precededByWhitespace := true
  let mut previousSpace := false
  let mut previousBreak := false
  let arr := cs.toArray
  let n := arr.size
  if n ≥ 3 && (((arr[0]?.getD 0) == 45 && (arr[1]?.getD 0) == 45 && (arr[2]?.getD 0) == 45) || ((arr[0]?.getD 0) == 46 && (arr[1]?.getD 0) == 46 && (arr[2]?.getD 0) == 46)) then
    blockIndicators := true
  for i in [0:n] do
    let c := (arr[i]?.getD 0)
    let followedByWhitespace := i + 1 ≥ n || isBlank ((arr[i + 1]?.getD 0))
    if i == 0 then
      if [35, 44, 91, 93, 123, 125, 38, 42, 33, 124, 62, 39, 34, 37, 64, 96].contains c then
        blockIndicators := true
      else if c == 63 || c == 58 then
        if followedByWhitespace then blockIndicators := true
      else if c == 45 then
        if followedByWhitespace then blockIndicators := true
    else
      if c == 58 then
        if followedByWhitespace then blockIndicators := true
      else if c == 35 then
        if precededByWhitespace then blockIndicators := true
    if c == 9 then tabs := true
    else if !printable c then special := true
    if c == 32 then
      if i == 0 then leadingSpace := true
      if i + 1 == n then trailingSpace := true
      if previousBreak then breakSpace := true
      previousSpace := true
      previousBreak := false
    else if isBreak c then
      lineBreaks := true
      if i == 0 then leadingBreak := true
      if i + 1 == n then trailingBreak := true
      if previousSpace then spaceBreak := true
      previousSpace := false
      previousBreak := true
    else
      previousSpace := false
      previousBreak := false
    precededByWhitespace := isBlankZ c
  let mut t : ScalarTraits := { multiline := lineBreaks }
  if leadingSpace || leadingBreak || trailingSpace || trailingBreak then t := { t with blockPlain := false }
  if trailingSpace then t := { t with block := false }
  if breakSpace then t := { t with blockPlain := false, singleQuoted := false }
  if spaceBreak || tabs || special then t := { t with blockPlain := false, singleQuoted := false }
  if spaceBreak || special then t := { t with block := false }
  if lineBreaks then t := { t with blockPlain := false }
  if blockIndicators then t := { t with blockPlain := false }
  return t

def isSexagesimal (s : Bytes) : Bool :=
  let isD (c : UInt8) := 48 ≤ c && c ≤ 57
  let body := match s with
    | 45 :: r => r
    | 43 :: r => r
    | r => r
  match body with
  | c :: _ =>
    isD c &&
      let head := body.takeWhile fun c => isD c || c == 95
      let rest := body.drop head.length
      let groups := Bytes.splitOn rest 58
      match groups with
      | [] :: gs =>
        let lastGroup := gs.getLast?.getD []
        let (lastDigits, frac) := (lastGroup.takeWhile isD, lastGroup.dropWhile isD)
        let initOk := (gs.dropLast).all fun g => 1 ≤ g.length && g.length ≤ 2 && g.all isD
          && (g.length == 1 || (g.headD 0) ≤ 53)
        !gs.isEmpty && initOk && 1 ≤ lastDigits.length && lastDigits.length ≤ 2
          && (lastDigits.length == 1 || (lastDigits.headD 0) ≤ 53)
          && (frac.isEmpty || (frac.headD 0 == 46 && (frac.drop 1).all fun c => isD c || c == 95))
      | _ => false
  | [] => false

def plainMeansString (s : Bytes) : Bool :=
  let oldBool := ["y", "Y", "yes", "Yes", "YES", "on", "On", "ON", "n", "N", "no", "No", "NO", "off",
    "Off", "OFF"].any (Bytes.ofString · == s)
  match resolve [] s with
  | .ok (t, _) => t == strTag && !isSexagesimal s && !oldBool
  | .error _ => false

def hexDigits (width v : Nat) : Bytes :=
  (List.range width).reverse.map fun k =>
    let d := v / Nat.pow 16 k % 16
    (if d < 10 then 48 + d else 55 + d).toUInt8

def doubleQuoted (s : Bytes) : Bytes :=
  let marked := s.take 3 == [0xEF, 0xBB, 0xBF]
  let body := (Utf8.codes s).flatMap fun c =>
    if marked || !printable c || c == 0xFEFF || isBreak c || c == 34 || c == 92 then
      let esc : Bytes := match c with
        | 0 => [48]
        | 7 => [97]
        | 8 => [98]
        | 9 => [116]
        | 10 => [110]
        | 11 => [118]
        | 12 => [102]
        | 13 => [114]
        | 27 => [101]
        | 34 => [34]
        | 92 => [92]
        | 0x85 => [78]
        | 0xA0 => [95]
        | 0x2028 => [76]
        | 0x2029 => [80]
        | _ =>
          if c ≤ 0xFF then 120 :: hexDigits 2 c
          else if c ≤ 0xFFFF then 117 :: hexDigits 4 c
          else 85 :: hexDigits 8 c
      92 :: esc
    else Utf8.encode c
  [34] ++ body ++ [34]

def singleQuoted (s : Bytes) (indent : Nat) : Bytes :=
  let step (acc : Bytes × Bool × Bool) (c : Nat) : Bytes × Bool × Bool :=
    let (out, breaks, indented) := acc
    if c == 32 then (out ++ [32], breaks, indented)
    else if isBreak c then
      if c == 10 then (out ++ (if breaks then [10] else [10, 10]), true, indented)
      else (out ++ Utf8.encode c, true, indented)
    else
      let lead : Bytes :=
        if breaks then (if indent == 0 && !indented then [10] else []) ++ List.replicate indent 32
        else []
      let text : Bytes := if c == 39 then [39, 39] else Utf8.encode c
      (out ++ lead ++ text, false, indented || breaks)
  [39] ++ ((Utf8.codes s).foldl step ([], false, false)).1 ++ [39]

def literal (s : Bytes) (indent : Nat) : Bytes :=
  let cs := Utf8.codes s
  let indentHint : Bytes := match cs.head? with
    | some c => if c == 32 || isBreak c then [52] else []
    | none => []
  let chomp : Bytes :=
    match cs.reverse with
    | [] => [45]
    | last :: before =>
      if !isBreak last then [45]
      else match before with
        | [] => [43]
        | prev :: _ => if isBreak prev then [43] else []
  let (body, atLineStart, _) := cs.foldl (fun (acc : Bytes × Bool × Bool) c =>
    let (out, breaks, broken) := acc
    if isBreak c then (out ++ Utf8.encode c, true, true)
    else
      let pad : Bytes :=
        if breaks then (if broken then [] else [10]) ++ List.replicate indent 32 else []
      (out ++ pad ++ Utf8.encode c, false, broken)) ([], true, false)
  [124] ++ indentHint ++ chomp ++ body ++ (if atLineStart then [] else [10])

def cutLines (width : Nat) (s : Bytes) : Bytes :=
  go s.length s
where
  go : Nat → Bytes → Bytes
    | 0, _ => []
    | fuel + 1, s => if s.isEmpty then [] else s.take width ++ [10] ++ go fuel (s.drop width)

def binaryText (s : Bytes) : Bytes :=
  let text := Base64.encode s
  if text.length < 70 then text else cutLines 70 text

/-- A string as the value of a block mapping entry whose content is indented by `indent`; the text
ends with a line break. -/
def blockValue (s : Bytes) (indent : Nat) : Bytes :=
  let t := analyze s
  if !Utf8.valid s then
    let text := binaryText s
    if text.contains [10] then Bytes.ofString " !!binary " ++ literal text indent
    else Bytes.ofString " !!binary " ++ text ++ [10]
  else if s.contains [10] then
    if t.block then [32] ++ literal s indent else [32] ++ doubleQuoted s ++ [10]
  else if plainMeansString s then
    if t.blockPlain then [32] ++ s ++ [10]
    else if t.singleQuoted then [32] ++ singleQuoted s indent ++ [10]
    else [32] ++ doubleQuoted s ++ [10]
  else [32] ++ doubleQuoted s ++ [10]

def sequenceEntry (s : Bytes) (indent : Nat) : Bytes := blockValue s indent

end ResourceSymbols.Yaml
