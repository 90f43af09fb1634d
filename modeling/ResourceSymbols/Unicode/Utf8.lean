import ResourceSymbols.Bytes

namespace ResourceSymbols.Utf8

def replacement : Nat := 0xFFFD

/-- A code point as read from text, with the bytes that spell it there. -/
structure Segment where
  code : Nat
  raw : Bytes
deriving DecidableEq, Repr

def isTrail (b : UInt8) : Bool := 0x80 ≤ b && b ≤ 0xBF

def lead : Bytes → Option (Nat × Nat)
  | [] => none
  | b0 :: rest =>
    if b0 < 0x80 then some (b0.toNat, 1)
    else if b0 < 0xC2 then none
    else if b0 < 0xE0 then
      match rest with
      | b1 :: _ =>
        if isTrail b1 then some ((b0.toNat % 32) * 64 + b1.toNat % 64, 2) else none
      | [] => none
    else if b0 < 0xF0 then
      match rest with
      | b1 :: b2 :: _ =>
        let lo : UInt8 := if b0 == 0xE0 then 0xA0 else 0x80
        let hi : UInt8 := if b0 == 0xED then 0x9F else 0xBF
        if lo ≤ b1 && b1 ≤ hi && isTrail b2 then
          some ((b0.toNat % 16) * 4096 + (b1.toNat % 64) * 64 + b2.toNat % 64, 3)
        else none
      | _ => none
    else if b0 < 0xF5 then
      match rest with
      | b1 :: b2 :: b3 :: _ =>
        let lo : UInt8 := if b0 == 0xF0 then 0x90 else 0x80
        let hi : UInt8 := if b0 == 0xF4 then 0x8F else 0xBF
        if lo ≤ b1 && b1 ≤ hi && isTrail b2 && isTrail b3 then
          some ((b0.toNat % 8) * 262144 + (b1.toNat % 64) * 4096 + (b2.toNat % 64) * 64
            + b3.toNat % 64, 4)
        else none
      | _ => none
    else none

/-- The text cut into code points, each with its own bytes. -/
def segments (b : Bytes) : List Segment :=
  match b with
  | [] => []
  | x :: rest =>
    match lead (x :: rest) with
    | some (c, n + 2) => ⟨c, x :: rest.take (n + 1)⟩ :: segments (rest.drop (n + 1))
    | _ => ⟨if x < 0x80 then x.toNat else replacement, [x]⟩ :: segments rest
termination_by b.length
decreasing_by
  all_goals (simp only [List.length_drop, List.length_cons]; omega)

def codes (b : Bytes) : List Nat := (segments b).map Segment.code

def shape (b0 : UInt8) : Nat × UInt8 × UInt8 :=
  if b0 < 0x80 then (1, 0, 0)
  else if b0 < 0xC2 then (0, 0, 0)
  else if b0 < 0xE0 then (2, 0x80, 0xBF)
  else if b0 < 0xF0 then (3, if b0 == 0xE0 then 0xA0 else 0x80, if b0 == 0xED then 0x9F else 0xBF)
  else if b0 < 0xF5 then (4, if b0 == 0xF0 then 0x90 else 0x80, if b0 == 0xF4 then 0x8F else 0xBF)
  else (0, 0, 0)

def subpartLength : Bytes → Nat
  | b0 :: b1 :: rest =>
    let (size, lo, hi) := shape b0
    if size < 3 || b1 < lo || hi < b1 then 1
    else match rest with
      | b2 :: _ => if size == 4 && isTrail b2 then 3 else 2
      | [] => 2
  | _ => 1

def codesBySubpart : Bytes → List Nat
  | [] => []
  | x :: rest =>
    match lead (x :: rest) with
    | some (c, n + 1) => c :: codesBySubpart (rest.drop n)
    | _ => replacement :: codesBySubpart (rest.drop (subpartLength (x :: rest) - 1))
termination_by b => b.length
decreasing_by
  all_goals (simp only [List.length_drop, List.length_cons]; omega)

def encode (c : Nat) : Bytes :=
  if c < 0x80 then [c.toUInt8]
  else if c < 0x800 then [(0xC0 + c / 64).toUInt8, (0x80 + c % 64).toUInt8]
  else if (0xD800 ≤ c && c < 0xE000) || 0x110000 ≤ c then [0xEF, 0xBF, 0xBD]
  else if c < 0x10000 then
    [(0xE0 + c / 4096).toUInt8, (0x80 + c / 64 % 64).toUInt8, (0x80 + c % 64).toUInt8]
  else
    [(0xF0 + c / 262144).toUInt8, (0x80 + c / 4096 % 64).toUInt8,
      (0x80 + c / 64 % 64).toUInt8, (0x80 + c % 64).toUInt8]

def valid (b : Bytes) : Bool :=
  (segments b).all fun s => !(s.code == replacement && s.raw.length == 1)

theorem flatten_segments (b : Bytes) : ((segments b).map Segment.raw).flatten = b := by
  induction b using segments.induct with
  | case1 => simp [segments]
  | case2 x rest c n h ih =>
    rw [segments, h]
    simp [ih]
  | case3 x rest h ih =>
    rw [segments]
    split
    · rename_i c n h'
      exact absurd h' (h c n)
    · simp [ih]

end ResourceSymbols.Utf8
