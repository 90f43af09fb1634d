import ResourceSymbols.Bytes

namespace ResourceSymbols.Deflate

/-- A piece of compressed data: a byte as it is, or a copy of `length` bytes that start `distance`
bytes back. -/
inductive Token
  | literal (byte : UInt8)
  | copy (length distance : Nat)

/-- The tokens of a block, and the input they stand for if it is still at hand. -/
structure Block where
  tokens : Array Token
  input : Option ByteArray

def windowSize : Nat := 32768

def blockTokens : Nat := 16384

def margin : Nat := 262

def byteAt (data : ByteArray) (k : Nat) : UInt8 := data[k]?.getD 0

def hash4 (data : ByteArray) (k : Nat) : Nat :=
  let w : UInt32 := ((byteAt data k).toUInt32 <<< 24) ||| ((byteAt data (k + 1)).toUInt32 <<< 16)
    ||| ((byteAt data (k + 2)).toUInt32 <<< 8) ||| (byteAt data (k + 3)).toUInt32
  ((w * 0x1e35a7bd) >>> 15).toNat

/-- The hash chains. -/
structure Chains where
  heads : Array Nat
  prev : Array Nat

def Chains.empty : Chains := ⟨Array.replicate 131072 0, Array.replicate windowSize 0⟩

def Chains.insert (c : Chains) (data : ByteArray) (pos : Nat) : Chains × Nat :=
  let ⟨heads, prev⟩ := c
  let h := hash4 data pos
  let before := heads.getD h 0
  (⟨heads.set! h (pos + 1), prev.set! (pos % windowSize) before⟩, before)

def Chains.insertRange (c : Chains) (data : ByteArray) (pos : Nat) : Nat → Chains
  | 0 => c
  | n + 1 =>
    if pos + 3 < data.size then (c.insert data pos).1.insertRange data (pos + 1) n
    else c.insertRange data (pos + 1) n

def common (data : ByteArray) (i pos : Nat) : Nat → Nat → Nat
  | 0, k => k
  | n + 1, k => if byteAt data (i + k) == byteAt data (pos + k) then common data i pos n (k + 1) else k

def longestMatch (data : ByteArray) (prev : Array Nat) (pos look base : Nat) :
    Nat → Nat → Nat → Option (Nat × Nat) → Option (Nat × Nat)
  | 0, _, _, found => found
  | tries + 1, i, length, found =>
    let (length, found, enough) :=
      if byteAt data (pos + length) == byteAt data (i + length) then
        let n := common data i pos look 0
        if n > length && (n > 4 || pos - i ≤ 4096) then (n, some (n, pos - i), decide (n ≥ min 32 look))
        else (length, found, false)
      else (length, found, false)
    if enough || i + windowSize == pos then found
    else
      let v := prev.getD (i % windowSize) 0
      if v == 0 || v - 1 < base || v - 1 + windowSize < pos then found
      else longestMatch data prev pos look base tries (v - 1) length found

/-- Where the scan stands. -/
structure Cursor where
  index : Nat := 0
  length : Nat := 3
  offset : Nat := 0
  pending : Bool := false
  head : Nat := 0
  blockStart : Option Nat := some 0
  base : Nat := 0

def Cursor.cut (c : Cursor) (data : ByteArray) (tokens : Array Token) (stop : Nat) :
    Cursor × Block :=
  let input := c.blockStart.bind fun b => if b ≤ stop then some (data.extract b stop) else none
  ({ c with blockStart := some stop }, ⟨tokens, input⟩)

def scan (data : ByteArray) (final : Bool) :
    Nat → Cursor → Chains → Array Token → Array Block → Cursor × Chains × Array Token × Array Block
  | 0, c, ch, ts, bs => (c, ch, ts, bs)
  | fuel + 1, c, ch, ts, bs =>
    let n := data.size
    let lookahead := n - c.index
    if lookahead < margin && !final then (c, ch, ts, bs)
    else if lookahead == 0 then
      let ts := if c.pending then ts.push (.literal (byteAt data (c.index - 1))) else ts
      let c := { c with pending := false }
      if ts.isEmpty then (c, ch, ts, bs)
      else
        let (c, b) := c.cut data ts c.index
        (c, ch, #[], bs.push b)
    else
      let (ch, head) := if c.index + 3 < n then ch.insert data c.index else (ch, c.head)
      let c := { c with head }
      let prevLength := c.length
      let floor := max (c.index - windowSize) c.base
      let (length, offset) :=
        if head ≥ floor + 1 && lookahead > prevLength && prevLength < 16 then
          (longestMatch data ch.prev c.index (min 258 lookahead) c.base 32 (head - 1) 3 none).getD (3, 0)
        else (3, 0)
      if prevLength ≥ 4 && length ≤ prevLength then
        -- the match kept back is at least as long: write it and skip over it
        let ts := ts.push (.copy prevLength c.offset)
        let stop := c.index + prevLength - 1
        let ch := ch.insertRange data (c.index + 1) (prevLength - 2)
        let c := { c with index := stop, pending := false, length := 3, offset }
        if ts.size == blockTokens then
          let (c, b) := c.cut data ts stop
          scan data final fuel c ch #[] (bs.push b)
        else scan data final fuel c ch ts bs
      else
        let c' := { c with index := c.index + 1, pending := true, length, offset }
        if c.pending then
          let ts := ts.push (.literal (byteAt data (c.index - 1)))
          if ts.size == blockTokens then
            let (c', b) := c'.cut data ts c.index
            scan data final fuel c' ch #[] (bs.push b)
          else scan data final fuel c' ch ts bs
        else scan data final fuel c' ch ts bs

def Cursor.slide (c : Cursor) : Cursor :=
  if c.index - c.base ≥ 2 * windowSize - margin then
    { c with
      base := c.base + windowSize
      blockStart := c.blockStart.bind fun b => if b - c.base ≥ windowSize then some b else none }
  else c

/-- A compression in progress: the input taken in so far and the state of the scan. -/
structure Repeats where
  data : ByteArray := ByteArray.empty
  cursor : Cursor := {}
  chains : Chains := Chains.empty
  tokens : Array Token := #[]

def Repeats.feed (r : Repeats) (piece : ByteArray) : Repeats × Array Block :=
  go (piece.size + 1) 0 r #[]
where
  go : Nat → Nat → Repeats → Array Block → Repeats × Array Block
    | 0, _, r, bs => (r, bs)
    | fuel + 1, taken, ⟨data, c, ch, ts⟩, bs =>
      if taken ≥ piece.size then (⟨data, c, ch, ts⟩, bs)
      else
        let (c, ch, ts, bs) := scan data false (data.size - c.index + 1) c ch ts bs
        let c := c.slide
        let room := 2 * windowSize - (data.size - c.base)
        let k := min room (piece.size - taken)
        go fuel (taken + k) ⟨data ++ piece.extract taken (taken + k), c, ch, ts⟩ bs

def Repeats.finish (r : Repeats) : Array Block :=
  let ⟨data, c, ch, ts⟩ := r
  (scan data true (data.size - c.index + 2) c ch ts #[]).2.2.2

end ResourceSymbols.Deflate
