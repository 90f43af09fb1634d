import ResourceSymbols.Bytes

namespace ResourceSymbols.Yaml

def isDigitByte (c : UInt8) : Bool := 48 ≤ c && c ≤ 57

def digitsValue (base : Nat) (ds : Bytes) : Option Nat :=
  if ds.isEmpty then none
  else ds.foldl (fun acc c => acc.bind fun v =>
    let d := if 48 ≤ c.toNat && c.toNat ≤ 57 then c.toNat - 48
      else if 97 ≤ c.toNat && c.toNat ≤ 122 then c.toNat - 87
      else if 65 ≤ c.toNat && c.toNat ≤ 90 then c.toNat - 55 else 99
    if d < base then some (v * base + d) else none) (some 0)

def signedInteger (neg : Bool) (m : Nat) : Option Int :=
  if neg then (if m ≤ Nat.pow 2 63 then some (-(m : Int)) else none)
  else if m < Nat.pow 2 64 then some m else none

def parseInteger (s : Bytes) : Option Int :=
  let (neg, plus, body) := match s with
    | 45 :: rest => (true, false, rest)
    | 43 :: rest => (false, true, rest)
    | _ => (false, false, s)
  let magnitude : Option Nat := match body with
    | 48 :: 120 :: ds => digitsValue 16 ds
    | 48 :: 88 :: ds => digitsValue 16 ds
    | 48 :: 111 :: ds => digitsValue 8 ds
    | 48 :: 79 :: ds => digitsValue 8 ds
    | 48 :: 98 :: ds => digitsValue 2 ds
    | 48 :: 66 :: ds => digitsValue 2 ds
    | [48] => some 0
    | 48 :: ds => digitsValue 8 ds
    | ds => digitsValue 10 ds
  magnitude.bind fun m => if plus && m ≥ Nat.pow 2 63 then none else signedInteger neg m

def prefixedInteger (s : Bytes) : Option Int :=
  let signed (base : Nat) : Bytes → Option Int
    | 45 :: ds => (digitsValue base ds).bind (signedInteger true)
    | 43 :: ds => (digitsValue base ds).bind fun m => if m < Nat.pow 2 63 then some m else none
    | ds => (digitsValue base ds).bind (signedInteger false)
  match s with
  | 48 :: 98 :: rest => signed 2 rest
  | 48 :: 111 :: rest => signed 8 rest
  | _ => none

def isYamlFloat (s : Bytes) : Bool :=
  let digits (l : Bytes) := l.takeWhile isDigitByte
  let s := match s with
    | 45 :: r => r
    | 43 :: r => r
    | r => r
  let (mantissaOk, rest) : Bool × Bytes := match s with
    | 46 :: r =>
      let d := digits r
      (!d.isEmpty, r.drop d.length)
    | _ =>
      let d := digits s
      if d.isEmpty then (false, s)
      else
        let r := s.drop d.length
        match r with
        | 46 :: r' => (true, r'.drop (digits r').length)
        | _ => (true, r)
  mantissaOk && match rest with
    | [] => true
    | e :: r =>
      (e == 101 || e == 69) &&
        let r := match r with
          | 45 :: r' => r'
          | 43 :: r' => r'
          | r' => r'
        !r.isEmpty && (digits r).length == r.length

def underscoresBetweenDigits (prev : UInt8) : Bytes → Bool
  | [] => true
  | c :: rest =>
    if c == 95 then
      isDigitByte prev && (match rest with | d :: _ => isDigitByte d | [] => false)
        && underscoresBetweenDigits c rest
    else underscoresBetweenDigits c rest

/-- What a float written in YAML is, as far as reading it into a whole number needs. -/
inductive FloatValue
  | finite (whole : Int)
  | posInf
  | negInf
  | nan
deriving Repr, DecidableEq

def nearestDouble (num den : Nat) : Nat × Int :=
  let guess : Int := (Nat.log2 num : Int) - (Nat.log2 den : Int)
  let reaches (k : Int) : Bool :=
    if k ≥ 0 then num ≥ den * Nat.pow 2 k.toNat else num * Nat.pow 2 (-k).toNat ≥ den
  let order := if reaches guess then guess else guess - 1
  let e := max (order - 52) (-1074)
  let (n, d) := if e ≥ 0 then (num, den * Nat.pow 2 e.toNat) else (num * Nat.pow 2 (-e).toNat, den)
  let q := n / d
  let r := n % d
  ((if 2 * r > d || (2 * r == d && q % 2 == 1) then q + 1 else q), e)

def doubleWhole (num den : Nat) : Option Nat :=
  if num == 0 then some 0
  else
    let (m, e) := nearestDouble num den
    if e ≥ 0 then
      let v := m * Nat.pow 2 e.toNat
      if v ≥ Nat.pow 2 1024 then none else some v
    else some (m / Nat.pow 2 (-e).toNat)

def intAsFloat (n : Int) : FloatValue :=
  let w : Int := ((doubleWhole n.natAbs 1).getD 0 : Nat)
  .finite (if n < 0 then -w else w)

def decimalFloat (s : Bytes) : Option FloatValue :=
  let (neg, body) := match s with
    | 45 :: r => (true, r)
    | 43 :: r => (false, r)
    | r => (false, r)
  let intPart := body.takeWhile isDigitByte
  let afterInt := body.drop intPart.length
  let fracPart := match afterInt with
    | 46 :: r => r.takeWhile isDigitByte
    | _ => []
  let afterFrac := match afterInt with
    | 46 :: r => r.drop fracPart.length
    | r => r
  let expo : Int := match afterFrac with
    | e :: r =>
      if e == 101 || e == 69 then
        match r with
        | 45 :: ds => -((digitsValue 10 ds).getD 0 : Int)
        | 43 :: ds => ((digitsValue 10 ds).getD 0 : Int)
        | ds => ((digitsValue 10 ds).getD 0 : Int)
      else 0
    | [] => 0
  let digitsAll := intPart ++ fracPart
  let mantissa := (digitsValue 10 digitsAll).getD 0
  let size : Int := (digitsAll.dropWhile (· == 48)).length
  let shift : Int := expo - fracPart.length
  let sign (w : Nat) : FloatValue := .finite (if neg then -(w : Int) else w)
  if mantissa == 0 || size + shift ≤ -325 then some (sign 0)
  else if size - 1 + shift ≥ 309 then none
  else
    let whole := if shift ≥ 0 then doubleWhole (mantissa * Nat.pow 10 shift.toNat) 1
      else doubleWhole mantissa (Nat.pow 10 (-shift).toNat)
    whole.map sign

end ResourceSymbols.Yaml
