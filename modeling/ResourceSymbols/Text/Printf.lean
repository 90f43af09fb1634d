import ResourceSymbols.Text.Quote

namespace ResourceSymbols.Printf

/-- An argument of a format: a text or a 64-bit integer. -/
inductive Arg
  | text (b : Bytes)
  | int (n : Int)
deriving DecidableEq, Repr

def Arg.typeName : Arg → Bytes
  | .text _ => Bytes.ofString "string"
  | .int _ => Bytes.ofString "int64"

/-- What stands between a percent sign and its verb. -/
structure Spec where
  sharp : Bool := false
  zero : Bool := false
  plus : Bool := false
  minus : Bool := false
  space : Bool := false
  width : Option Nat := none
  precision : Option Nat := none
  sharpV : Bool := false
  plusV : Bool := false

def Spec.padding (s : Spec) (n : Nat) : Bytes :=
  List.replicate n (if s.zero && !s.minus then 48 else 32)

def Spec.pad (s : Spec) (b : Bytes) : Bytes :=
  match s.width with
  | none | some 0 => b
  | some w =>
    let n := w - (Utf8.segments b).length
    if s.minus then b ++ s.padding n else s.padding n ++ b

def Spec.truncate (s : Spec) (b : Bytes) : Bytes :=
  match s.precision with
  | none => b
  | some p => ((Utf8.segments b).take p).flatMap Utf8.Segment.raw

def digitChar (upper : Bool) (d : Nat) : UInt8 :=
  if d < 10 then (48 + d).toUInt8 else ((if upper then 55 else 87) + d).toUInt8

def digits (base : Nat) (upper : Bool) (u : Nat) : Bytes :=
  if _h : base ≤ 1 then [digitChar upper u]
  else if _h2 : u < base then [digitChar upper u]
  else digits base upper (u / base) ++ [digitChar upper (u % base)]
termination_by u
decreasing_by exact Nat.div_lt_self (by omega) (by omega)

def Spec.integer (s : Spec) (v : Int) (base : Nat) (upper : Bool) (verb : Nat) : Bytes :=
  let negative := v < 0
  let u := v.natAbs
  if s.precision == some 0 && u == 0 then
    { s with zero := false }.padding (s.width.getD 0)
  else
    let prec := match s.precision with
      | some p => p
      | none =>
        if s.zero && !s.minus && s.width.isSome then
          s.width.getD 0 - (if negative || s.plus || s.space then 1 else 0)
        else 0
    let ds := digits base upper u
    let ds := List.replicate (prec - ds.length) 48 ++ ds
    let ds :=
      if !s.sharp then ds
      else if base == 2 then [48, 98] ++ ds
      else if base == 8 then (if ds.head? == some 48 then ds else 48 :: ds)
      else if base == 16 then [48, if upper then 88 else 120] ++ ds
      else ds
    let ds := if verb == 'O'.toNat then [48, 111] ++ ds else ds
    let ds := if negative then 45 :: ds else if s.plus then 43 :: ds else if s.space then 32 :: ds else ds
    { s with zero := false }.pad ds

def Spec.hexBytes (s : Spec) (b : Bytes) (upper : Bool) : Bytes :=
  let b := match s.precision with
    | some p => b.take p
    | none => b
  let length := b.length
  if length == 0 then
    match s.width with
    | some w => s.padding w
    | none => []
  else
    let width := if s.space then (if s.sharp then 4 * length else 2 * length) + (length - 1)
      else if s.sharp then 2 * length + 2 else 2 * length
    let prefixX : Bytes := [48, if upper then 88 else 120]
    let body := (if s.sharp then prefixX else []) ++
      (b.zipIdx.flatMap fun (c, i) =>
        (if s.space && i > 0 then 32 :: (if s.sharp then prefixX else []) else []) ++
          [digitChar upper (c.toNat / 16), digitChar upper (c.toNat % 16)])
    let fill := match s.width with
      | some w => if w > width then s.padding (w - width) else []
      | none => []
    if s.minus then body ++ fill else fill ++ body

def Spec.quoted (s : Spec) (b : Bytes) : Bytes :=
  let b := s.truncate b
  if s.sharp && Quote.canBackquote b then s.pad ([96] ++ b ++ [96])
  else s.pad (if s.plus then Quote.quoteAscii b else Quote.quote b)

def codeOf (u : Nat) : Nat := if u > 0x10FFFF || (0xD800 ≤ u && u < 0xE000) then Utf8.replacement else u

def Spec.unicode (s : Spec) (u : Nat) : Bytes :=
  let prec := match s.precision with
    | some p => if p > 4 then p else 4
    | none => 4
  let ds := digits 16 true u
  let ds := List.replicate (prec - ds.length) 48 ++ ds
  let shown : Bytes :=
    if s.sharp && u ≤ 0x10FFFF && !(0xD800 ≤ u && u < 0xE000) && Unicode.isPrintable u then
      [32, 39] ++ Utf8.encode u ++ [39]
    else []
  { s with zero := false }.pad ([85, 43] ++ ds ++ shown)

def word (n : Int) : Nat := if n < 0 then (n + (Nat.pow 2 64 : Nat)).toNat else n.toNat

def Spec.render (s : Spec) (verb : Nat) : Arg → Option Bytes
  | .text b =>
    if verb == 'v'.toNat then some (if s.sharpV then s.quoted b else s.pad (s.truncate b))
    else if verb == 's'.toNat then some (s.pad (s.truncate b))
    else if verb == 'x'.toNat then some (s.hexBytes b false)
    else if verb == 'X'.toNat then some (s.hexBytes b true)
    else if verb == 'q'.toNat then some (s.quoted b)
    else none
  | .int n =>
    if verb == 'v'.toNat || verb == 'd'.toNat then some (s.integer n 10 false verb)
    else if verb == 'b'.toNat then some (s.integer n 2 false verb)
    else if verb == 'o'.toNat || verb == 'O'.toNat then some (s.integer n 8 false verb)
    else if verb == 'x'.toNat then some (s.integer n 16 false verb)
    else if verb == 'X'.toNat then some (s.integer n 16 true verb)
    else if verb == 'c'.toNat then some (s.pad (Utf8.encode (codeOf (word n))))
    else if verb == 'q'.toNat then some (s.pad (Quote.quoteCode (codeOf (word n)) s.plus))
    else if verb == 'U'.toNat then some (s.unicode (word n))
    else none

def Spec.arg (s : Spec) (verb : Nat) (a : Arg) : Bytes :=
  if verb == 'T'.toNat then s.pad (s.truncate a.typeName)
  else
    match (if verb == 'p'.toNat then none else s.render verb a) with
    | some b => b
    | none =>
      Bytes.ofString "%!" ++ Utf8.encode verb ++ [40] ++ a.typeName ++ [61]
        ++ (s.render 'v'.toNat a).getD [] ++ [41]

def number (b : Bytes) : Option Nat × Bytes :=
  go b 0 false
where
  go : Bytes → Nat → Bool → Option Nat × Bytes
    | c :: rest, n, seen =>
      if 48 ≤ c && c ≤ 57 then
        if n > 1000000 then (none, []) else go rest (n * 10 + (c.toNat - 48)) true
      else ((if seen then some n else none), c :: rest)
    | [], n, seen => ((if seen then some n else none), [])

/-- Where reading a format stands: the next argument, whether an index was used, whether the
current directive's index is good, and whether the last thing read was an index. -/
structure Cursor where
  argNum : Nat := 0
  reordered : Bool := false
  good : Bool := true
  afterIndex : Bool := false

def Cursor.index (c : Cursor) (count : Nat) (b : Bytes) : Cursor × Bytes :=
  match b with
  | 91 :: _ =>
    let c := { c with reordered := true }
    if b.length < 3 then ({ c with good := false, afterIndex := false }, b.drop 1)
    else
      match (b.drop 1).idxOf? 93 with
      | none => ({ c with good := false, afterIndex := false }, b.drop 1)
      | some j =>
        let inner := (b.drop 1).take j
        let rest := b.drop (j + 2)
        match number inner with
        | (some k, []) =>
          if 1 ≤ k && k ≤ count then ({ c with argNum := k - 1, afterIndex := true }, rest)
          else ({ c with good := false, afterIndex := true }, rest)
        | _ => ({ c with good := false, afterIndex := false }, rest)
  | _ => ({ c with afterIndex := false }, b)

def Cursor.fromArg (c : Cursor) (args : List Arg) : Option Int × Cursor :=
  match args[c.argNum]? with
  | none => (none, c)
  | some a =>
    let c := { c with argNum := c.argNum + 1 }
    match a with
    | .int n => if n.natAbs ≤ 1000000 then (some n, c) else (none, c)
    | .text _ => (none, c)

def flags (s : Spec) : Bytes → Spec × Bytes
  | c :: rest =>
    if c == 35 then flags { s with sharp := true } rest
    else if c == 48 then flags { s with zero := true } rest
    else if c == 43 then flags { s with plus := true } rest
    else if c == 45 then flags { s with minus := true } rest
    else if c == 32 then flags { s with space := true } rest
    else (s, c :: rest)
  | [] => (s, [])

def extra (args : List Arg) : Bytes :=
  Bytes.ofString "%!(EXTRA "
    ++ Bytes.join (Bytes.ofString ", ") (args.map fun a => a.typeName ++ [61] ++ ({} : Spec).arg 'v'.toNat a)
    ++ [41]

def run (args : List Arg) : Nat → Bytes → Cursor → Bytes
  | 0, _, _ => []
  | _, [], c => if !c.reordered && c.argNum < args.length then extra (args.drop c.argNum) else []
  | fuel + 1, ch :: rest, c =>
    if ch != 37 then ch :: run args fuel rest c
    else
      let c := { c with good := true }
      let (s, b) := flags {} rest
      let (c, b) := c.index args.length b
      -- the width
      let (s, c, b, out) : Spec × Cursor × Bytes × Bytes :=
        match b with
        | 42 :: b' =>
          let (w, c) := c.fromArg args
          let c := { c with afterIndex := false }
          match w with
          | none => (s, c, b', Bytes.ofString "%!(BADWIDTH)")
          | some w =>
            if w < 0 then ({ s with width := some w.natAbs, minus := true, zero := false }, c, b', [])
            else ({ s with width := some w.toNat }, c, b', [])
        | _ =>
          let (w, b') := number b
          let c := if c.afterIndex && w.isSome then { c with good := false } else c
          ({ s with width := w }, c, b', [])
      -- the precision
      let (s, c, b, out) : Spec × Cursor × Bytes × Bytes :=
        match b with
        | 46 :: b' =>
          if b'.isEmpty then (s, c, b, out)
          else
            let c := if c.afterIndex then { c with good := false } else c
            let (c, b') := c.index args.length b'
            match b' with
            | 42 :: b'' =>
              let (p, c) := c.fromArg args
              let c := { c with afterIndex := false }
              match p with
              | some p =>
                if p < 0 then ({ s with precision := none }, c, b'', out ++ Bytes.ofString "%!(BADPREC)")
                else ({ s with precision := some p.toNat }, c, b'', out)
              | none => ({ s with precision := none }, c, b'', out ++ Bytes.ofString "%!(BADPREC)")
            | _ =>
              let (p, b'') := number b'
              ({ s with precision := some (p.getD 0) }, c, b'', out)
        | _ => (s, c, b, out)
      let (c, b) := if c.afterIndex then (c, b) else c.index args.length b
      match Utf8.segments b with
      | [] =>
        out ++ Bytes.ofString "%!(NOVERB)" ++ run args fuel [] c
      | v :: _ =>
        let after := b.drop v.raw.length
        let verb := v.code
        if verb == 37 then out ++ [37] ++ run args fuel after c
        else if !c.good then
          out ++ Bytes.ofString "%!" ++ Utf8.encode verb ++ Bytes.ofString "(BADINDEX)" ++ run args fuel after c
        else
          match args[c.argNum]? with
          | none =>
            out ++ Bytes.ofString "%!" ++ Utf8.encode verb ++ Bytes.ofString "(MISSING)" ++ run args fuel after c
          | some a =>
            let s := if verb == 'v'.toNat then
                { s with sharpV := s.sharp, sharp := false, plusV := s.plus, plus := false }
              else s
            out ++ s.arg verb a ++ run args fuel after { c with argNum := c.argNum + 1 }

/-- The formatted text, reading arguments left to right. -/
def format (fmt : Bytes) (args : List Arg) : Bytes := run args (fmt.length + 1) fmt {}

end ResourceSymbols.Printf
