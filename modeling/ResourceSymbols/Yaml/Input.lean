import ResourceSymbols.Yaml.Token

namespace ResourceSymbols.Yaml

def allowedChar (c : Nat) : Bool :=
  c == 9 || c == 10 || c == 13 || (0x20 ≤ c && c ≤ 0x7E) || c == 0x85 || (0xA0 ≤ c && c ≤ 0xD7FF)
    || (0xE000 ≤ c && c ≤ 0xFFFD) || (0x10000 ≤ c && c ≤ 0x10FFFF)

def badInput (problem : String) : Problem := { lexical := true, problem := problem }

/-- What the front of a block holds. -/
inductive CharStep
  | char (code width : Nat)
  | cut (problem : String)
  | bad (problem : String)

def CharStep.allowed (code width : Nat) : CharStep :=
  if allowedChar code then .char code width else .bad "control characters are not allowed"

def utf8Lead (b : UInt8) : Option (Nat × Nat) :=
  if b &&& 0x80 == 0 then some (b.toNat, 1)
  else if b &&& 0xE0 == 0xC0 then some ((b &&& 0x1F).toNat, 2)
  else if b &&& 0xF0 == 0xE0 then some ((b &&& 0x0F).toNat, 3)
  else if b &&& 0xF8 == 0xF0 then some ((b &&& 0x07).toNat, 4)
  else none

def utf8Least : Nat → Nat
  | 2 => 0x80
  | 3 => 0x800
  | 4 => 0x10000
  | _ => 0

def utf8Step : Bytes → CharStep
  | [] => .cut "incomplete UTF-8 octet sequence"
  | b :: rest =>
    match utf8Lead b with
    | none => .bad "invalid leading UTF-8 octet"
    | some (bits, width) =>
      let tail := rest.take (width - 1)
      if tail.length < width - 1 then .cut "incomplete UTF-8 octet sequence"
      else if tail.any (fun t => t &&& 0xC0 != 0x80) then .bad "invalid trailing UTF-8 octet"
      else
        let code := tail.foldl (fun v t => v * 64 + (t &&& 0x3F).toNat) bits
        if code < utf8Least width then .bad "invalid length of a UTF-8 sequence"
        else if (0xD800 ≤ code && code ≤ 0xDFFF) || code > 0x10FFFF then
          .bad "invalid Unicode character"
        else CharStep.allowed code width

def utf16Step (little : Bool) : Bytes → CharStep
  | a :: b :: rest =>
    let unit (x y : UInt8) : Nat := if little then x.toNat + 256 * y.toNat else 256 * x.toNat + y.toNat
    let v := unit a b
    if v / 1024 == 0xDC00 / 1024 then .bad "unexpected low surrogate area"
    else if v / 1024 == 0xD800 / 1024 then
      match rest with
      | c :: d :: _ =>
        let w := unit c d
        if w / 1024 != 0xDC00 / 1024 then .bad "expected low surrogate area"
        else CharStep.allowed (0x10000 + (v % 1024) * 1024 + w % 1024) 4
      | _ => .cut "incomplete UTF-16 surrogate pair"
    else CharStep.allowed v 2
  | _ => .cut "incomplete UTF-16 character"

/-- How reading a block ended. -/
inductive BlockEnd
  | whole
  | cut (used : Nat) (problem : String)
  | bad (problem : String)

def readBlock (step : Bytes → CharStep) (used : Nat) (acc : Array Nat) (inside : Nat) :
    Bytes → Array Nat × BlockEnd
  | [] => (acc, .whole)
  | b :: rest =>
    match inside with
    | inside + 1 => readBlock step used acc inside rest
    | 0 =>
      match step (b :: rest) with
      | .char code width => readBlock step (used + width) (acc.push code) (width - 1) rest
      | .cut problem => (acc, .cut used problem)
      | .bad problem => (acc, .bad problem)

def blockSize : Nat := 512

/-- YAML input as characters: those that can be read, how many of them each block gives, and the
fault met when a character past them is needed, if there is one. -/
structure Input where
  chars : Array Nat
  blocks : List Nat := []
  fault : Option String := none

def readBlocks (step : Bytes → CharStep) (skip : Nat) (rest : Bytes) (acc : Array Nat) : Input :=
  match readBlock step skip acc 0 ((rest.take blockSize).drop skip) with
  | (chars, .whole) =>
    let count := chars.size - acc.size
    if _h : rest.length ≤ blockSize then ⟨chars, [count], none⟩
    else
      let later := readBlocks step 0 (rest.drop blockSize) chars
      { later with blocks := count :: later.blocks }
  | (chars, .cut used problem) =>
    let count := chars.size - acc.size
    -- a block of `blockSize` bytes holds a whole character, so `used` is positive here
    if _h : rest.length ≤ blockSize then ⟨chars, [count], some problem⟩
    else
      let later := readBlocks step 0 (rest.drop (max used 1)) chars
      { later with blocks := count :: later.blocks }
  | (_, .bad problem) => ⟨acc, [], some problem⟩
termination_by rest.length
decreasing_by
  all_goals simp only [List.length_drop, blockSize] at *
  all_goals omega

def Input.ofBytes (b : Bytes) : Input :=
  match b with
  | 0xFF :: 0xFE :: _ => readBlocks (utf16Step true) 2 b #[]
  | 0xFE :: 0xFF :: _ => readBlocks (utf16Step false) 2 b #[]
  | 0xEF :: 0xBB :: 0xBF :: _ => readBlocks utf8Step 3 b #[]
  | _ => readBlocks utf8Step 0 b #[]

def Input.fill (fault : Option String) (target : Nat) : Nat → List Nat → Except String (Nat × List Nat)
  | avail, count :: pending =>
    if avail + count ≥ target then .ok (avail + count, pending)
    else Input.fill fault target (avail + count) pending
  | avail, [] =>
    match fault with
    | some problem => .error problem
    | none => .ok (avail + 1, [])

end ResourceSymbols.Yaml
