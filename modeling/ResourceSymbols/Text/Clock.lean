import ResourceSymbols.Bytes

namespace ResourceSymbols.Clock

def civil (days : Nat) : Nat × Nat × Nat :=
  let z := days + 719468
  let era := z / 146097
  let doe := z - era * 146097
  let yoe := (doe - doe / 1460 + doe / 36524 - doe / 146096) / 365
  let y := yoe + era * 400
  let doy := doe - (365 * yoe + yoe / 4 - yoe / 100)
  let mp := (5 * doy + 2) / 153
  let d := doy - (153 * mp + 2) / 5 + 1
  let m := if mp < 10 then mp + 3 else mp - 9
  (if m ≤ 2 then y + 1 else y, m, d)

def padded (width n : Nat) : String :=
  let s := toString n
  String.ofList (List.replicate (width - s.length) '0') ++ s

/-- The parts of a time: date, hour, minute, second and the nanoseconds past the second. -/
structure Parts where
  year : Nat
  month : Nat
  day : Nat
  weekday : Nat
  hour : Nat
  minute : Nat
  second : Nat
  nanos : Nat

def parts (t : Nat) : Parts :=
  let secs := t / 1000000000
  let days := secs / 86400
  let rest := secs % 86400
  let (y, m, d) := civil days
  { year := y, month := m, day := d, weekday := (days + 4) % 7, hour := rest / 3600,
    minute := rest % 3600 / 60, second := rest % 60, nanos := t % 1000000000 }

def iso8601 (t : Nat) : String :=
  let p := parts t
  padded 4 p.year ++ "-" ++ padded 2 p.month ++ "-" ++ padded 2 p.day ++ "T" ++ padded 2 p.hour ++ ":"
    ++ padded 2 p.minute ++ ":" ++ padded 2 p.second ++ "." ++ padded 3 (p.nanos / 1000000) ++ "Z"

def weekdays : List String := ["Sun", "Mon", "Tue", "Wed", "Thu", "Fri", "Sat"]

def months : List String := ["Jan", "Feb", "Mar", "Apr", "May", "Jun", "Jul", "Aug", "Sep", "Oct", "Nov", "Dec"]

def unixDate (t : Nat) : String :=
  let p := parts t
  let day := if p.day < 10 then " " ++ toString p.day else toString p.day
  weekdays.getD p.weekday "" ++ " " ++ months.getD (p.month - 1) "" ++ " " ++ day ++ " " ++ padded 2 p.hour
    ++ ":" ++ padded 2 p.minute ++ ":" ++ padded 2 p.second ++ " UTC " ++ toString p.year

def fraction (prec v : Nat) : String :=
  let digits := (padded prec v).toList.reverse.dropWhile (· == '0') |>.reverse
  if digits.isEmpty then "" else "." ++ String.ofList digits

def span (ns : Nat) : String :=
  if ns == 0 then "0s"
  else if ns < 1000 then toString ns ++ "ns"
  else if ns < 1000000 then toString (ns / 1000) ++ fraction 3 (ns % 1000) ++ "µs"
  else if ns < 1000000000 then toString (ns / 1000000) ++ fraction 6 (ns % 1000000) ++ "ms"
  else
    let secs := ns / 1000000000
    let s := toString (secs % 60) ++ fraction 9 (ns % 1000000000) ++ "s"
    let mins := secs / 60
    if mins == 0 then s
    else
      let m := toString (mins % 60) ++ "m" ++ s
      if mins / 60 == 0 then m else toString (mins / 60) ++ "h" ++ m

def full (start t : Nat) : String :=
  let p := parts t
  let since := t - start
  padded 4 p.year ++ "-" ++ padded 2 p.month ++ "-" ++ padded 2 p.day ++ " " ++ padded 2 p.hour ++ ":"
    ++ padded 2 p.minute ++ ":" ++ padded 2 p.second ++ fraction 9 p.nanos ++ " +0000 UTC m=+"
    ++ toString (since / 1000000000) ++ "." ++ padded 9 (since % 1000000000)

end ResourceSymbols.Clock
