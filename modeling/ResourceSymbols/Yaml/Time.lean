import ResourceSymbols.Yaml.Number

namespace ResourceSymbols.Yaml

def shortNumber : Bytes → Option (Nat × Bytes)
  | a :: b :: rest =>
    if isDigitByte a then
      if isDigitByte b then some ((a.toNat - 48) * 10 + (b.toNat - 48), rest)
      else some (a.toNat - 48, b :: rest)
    else none
  | [a] => if isDigitByte a then some (a.toNat - 48, []) else none
  | [] => none

def after (b : UInt8) : Bytes → Option Bytes
  | c :: rest => if c == b then some rest else none
  | [] => none

def isLeapYear (y : Nat) : Bool := y % 4 == 0 && (y % 100 != 0 || y % 400 == 0)

def monthDays (month year : Nat) : Nat :=
  match month with
  | 2 => if isLeapYear year then 29 else 28
  | 4 | 6 | 9 | 11 => 30
  | _ => 31

def datePart : Bytes → Option (Nat × Nat × Nat × Bytes)
  | y1 :: y2 :: y3 :: y4 :: 45 :: rest =>
    if [y1, y2, y3, y4].all isDigitByte then do
      let (month, rest) ← shortNumber rest
      if month < 1 || month > 12 then none
      let rest ← after 45 rest
      let (day, rest) ← shortNumber rest
      let year := [y1, y2, y3, y4].foldl (fun v d => v * 10 + (d.toNat - 48)) 0
      pure (year, month, day, rest)
    else none
  | _ => none

def secondFraction : Bytes → Bytes
  | c :: d :: rest =>
    if (c == 46 || c == 44) && isDigitByte d then rest.dropWhile isDigitByte else c :: d :: rest
  | s => s

def timePart (s : Bytes) : Option Bytes := do
  let (hour, s) ← shortNumber s
  if hour ≥ 24 then none
  let s ← after 58 s
  let (minute, s) ← shortNumber s
  if minute ≥ 60 then none
  let s ← after 58 s
  let (second, s) ← shortNumber s
  if second ≥ 60 then none
  pure (secondFraction s)

def zonePart : Bytes → Option Bytes
  | 90 :: rest => some rest
  | sign :: h1 :: h2 :: 58 :: m1 :: m2 :: rest =>
    if [h1, h2, m1, m2].all isDigitByte && (sign == 43 || sign == 45)
        && (h1.toNat - 48) * 10 + (h2.toNat - 48) ≤ 24 && (m1.toNat - 48) * 10 + (m2.toNat - 48) ≤ 60 then
      some rest
    else none
  | _ => none

def isTimestamp (s : Bytes) : Bool :=
  match datePart s with
  | none => false
  | some (year, month, day, rest) =>
    let timeOk := match rest with
      | [] => true
      | c :: r =>
        if c == 84 || c == 116 then ((timePart r).bind zonePart) == some []
        else if c == 32 then timePart (r.dropWhile (· == 32)) == some []
        else false
    timeOk && 1 ≤ day && day ≤ monthDays month year

end ResourceSymbols.Yaml
