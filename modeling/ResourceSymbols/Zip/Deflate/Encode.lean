import ResourceSymbols.Zip.Deflate.Lengths
import ResourceSymbols.Zip.Deflate.Repeats
import ResourceSymbols.Zip.Inflate

namespace ResourceSymbols.Deflate

open Inflate (lengthBase lengthExtra distBase distExtra)

/-- Bits on their way out, least significant first. -/
structure BitWriter where
  out : ByteArray := .empty
  held : ByteArray := .empty
  acc : Nat := 0
  count : Nat := 0

def pushBytes (b : ByteArray) (v : Nat) : Nat → ByteArray
  | 0 => b
  | n + 1 => pushBytes (b.push (v % 256).toUInt8) (v / 256) n

def BitWriter.bits (w : BitWriter) (v n : Nat) : BitWriter :=
  let ⟨out, held, acc, count⟩ := w
  let acc := acc ||| ((v % Nat.pow 2 n) <<< count)
  let count := count + n
  if count < 48 then ⟨out, held, acc, count⟩
  else
    let held := pushBytes held acc 6
    if held.size ≥ 240 then ⟨out ++ held, .empty, acc >>> 48, count - 48⟩
    else ⟨out, held, acc >>> 48, count - 48⟩

def BitWriter.flush (w : BitWriter) : BitWriter :=
  let ⟨out, held, acc, count⟩ := w
  ⟨out ++ pushBytes held acc ((count + 7) / 8), .empty, 0, 0⟩

def BitWriter.bytes (w : BitWriter) (b : ByteArray) : BitWriter :=
  let ⟨out, held, acc, count⟩ := w
  ⟨out ++ pushBytes held acc (count / 8) ++ b, .empty, 0, 0⟩

def BitWriter.take (w : BitWriter) : ByteArray × BitWriter :=
  let ⟨out, held, acc, count⟩ := w
  (out, ⟨.empty, held, acc, count⟩)

def reverseBits (v : Nat) : Nat → Nat → Nat
  | 0, r => r
  | n + 1, r => reverseBits (v / 2) n (2 * r + v % 2)

def codesOf (lens : Array Nat) : Array Nat :=
  let counts := lens.foldl (fun c l => c.modify l (· + 1)) (Array.replicate 16 0)
  let starts := (List.range 15).foldl
    (fun (s : Array Nat) b => s.push ((s.getD b 0 + (if b == 0 then 0 else counts.getD b 0)) * 2))
    #[0]
  (lens.foldl (fun (acc : Array Nat × Array Nat) l =>
    let (codes, next) := acc
    if l == 0 then (codes.push 0, next)
    else (codes.push (reverseBits (next.getD l 0) l 0), next.modify l (· + 1)))
    (#[], starts)).1

def BitWriter.code (w : BitWriter) (codes lens : Array Nat) (s : Nat) : BitWriter :=
  w.bits (codes.getD s 0) (lens.getD s 0)

def slot (table : Array Nat) (v : Nat) : Nat := (table.toList.filter (· ≤ v)).length - 1

def lengthSymbol (len : Nat) : Nat := 257 + slot lengthBase len

def distSymbol (d : Nat) : Nat := slot distBase d

def fixedLitLens : Array Nat :=
  (Array.range 288).map fun s => if s < 144 then 8 else if s < 256 then 9 else if s < 280 then 7 else 8

def fixedDistLens : Array Nat := Array.replicate 30 5

def frequencies (tokens : Array Token) : Array Nat × Array Nat :=
  tokens.foldl (fun (acc : Array Nat × Array Nat) t =>
    let (lit, dist) := acc
    match t with
    | .literal b => (lit.modify b.toNat (· + 1), dist)
    | .copy len d => (lit.modify (lengthSymbol len) (· + 1), dist.modify (distSymbol d) (· + 1)))
    ((Array.replicate 286 0).modify 256 (· + 1), Array.replicate 30 0)

def usedPrefix (freqs : Array Nat) : Nat :=
  (freqs.toList.reverse.dropWhile (· == 0)).length

def lengthOrder : Array Nat := #[16, 17, 18, 0, 8, 7, 9, 6, 10, 5, 11, 4, 12, 3, 13, 2, 14, 1, 15]

def runSymbols (len count : Nat) : List (Nat × Nat) :=
  if len == 0 then zeros count else (len, 0) :: again (count - 1)
where
  again (c : Nat) : List (Nat × Nat) :=
    if _h : c ≥ 3 then (16, min 6 c - 3) :: again (c - min 6 c) else List.replicate c (len, 0)
  termination_by c
  decreasing_by omega
  zeros (c : Nat) : List (Nat × Nat) :=
    if _h : c ≥ 11 then (18, min 138 c - 11) :: zeros (c - min 138 c)
    else if c ≥ 3 then [(17, c - 3)] else List.replicate c (0, 0)
  termination_by c
  decreasing_by omega

def runsOf : List Nat → List (Nat × Nat)
  | [] => []
  | x :: rest =>
    match runsOf rest with
    | (y, k) :: more => if x == y then (y, k + 1) :: more else (x, 1) :: (y, k) :: more
    | [] => [(x, 1)]

def cost (freqs lens : Array Nat) : Nat :=
  (List.range freqs.size).foldl (fun s i => s + freqs.getD i 0 * lens.getD i 0) 0

def BitWriter.tokens (w : BitWriter) (tokens : Array Token) (litCodes litLens distCodes distLens : Array Nat) :
    BitWriter :=
  let w := tokens.foldl (fun w t =>
    match t with
    | .literal b => w.code litCodes litLens b.toNat
    | .copy len d =>
      let ls := slot lengthBase len
      let ds := slot distBase d
      let w := (w.code litCodes litLens (257 + ls)).bits (len - lengthBase.getD ls 0) (lengthExtra.getD ls 0)
      (w.code distCodes distLens ds).bits (d - distBase.getD ds 0) (distExtra.getD ds 0)) w
  w.code litCodes litLens 256

def BitWriter.storedHeader (w : BitWriter) (last : Bool) (len : Nat) : BitWriter :=
  ((w.bits (if last then 1 else 0) 3).flush.bits len 16).bits (65535 - len) 16

def BitWriter.fixedBlock (w : BitWriter) (tokens : Array Token) : BitWriter :=
  (w.bits 2 3).tokens tokens (codesOf fixedLitLens) fixedLitLens (codesOf fixedDistLens) fixedDistLens

def BitWriter.dynamicBlock (w : BitWriter) (tokens : Array Token) (numLit numDist numRun : Nat)
    (litLens distLens : Array Nat) (runs : List (Nat × Nat)) (runLens : Array Nat) : BitWriter :=
  let runCodes := codesOf runLens
  let w := (((w.bits 4 3).bits (numLit - 257) 5).bits (numDist - 1) 5).bits (numRun - 4) 4
  let w := (lengthOrder.toList.take numRun).foldl (fun w s => w.bits (runLens.getD s 0) 3) w
  let w := runs.foldl (fun w (s, x) =>
    let w := w.code runCodes runLens s
    if s == 16 then w.bits x 2 else if s == 17 then w.bits x 3 else if s == 18 then w.bits x 7 else w) w
  w.tokens tokens (codesOf litLens) litLens (codesOf distLens) distLens

def BitWriter.block (w : BitWriter) (b : Block) : BitWriter :=
  let (lit, dist) := frequencies b.tokens
  let numLit := usedPrefix lit
  let (dist, numDist) := if usedPrefix dist == 0 then (dist.set! 0 1, 1) else (dist, usedPrefix dist)
  let litLens := lengths lit 15
  let distLens := lengths dist 15
  let stored := b.input.bind fun input => if input.size ≤ 65535 then some input else none
  -- the extra bits of lengths and distances count only when stored input is a choice
  let extra := if stored.isNone then 0 else
    (List.range numLit).foldl (fun s c =>
      if c ≥ 265 then s + lit.getD c 0 * lengthExtra.getD (c - 257) 0 else s) 0
    + (List.range numDist).foldl (fun s c => if c ≥ 4 then s + dist.getD c 0 * distExtra.getD c 0 else s) 0
  let fixedSize := 3 + cost lit fixedLitLens + cost dist fixedDistLens + extra
  let runs := (runsOf ((litLens.extract 0 numLit).toList ++ (distLens.extract 0 numDist).toList)).flatMap
    fun (len, count) => runSymbols len count
  let runFreqs := runs.foldl (fun f (s, _) => f.modify s (· + 1)) (Array.replicate 19 0)
  let runLens := lengths runFreqs 7
  let numRun := max 4 (19 - ((lengthOrder.toList.reverse.takeWhile fun s => runFreqs.getD s 0 == 0).length))
  let dynamicSize := 17 + 3 * numRun + cost runFreqs runLens + runFreqs.getD 16 0 * 2
    + runFreqs.getD 17 0 * 3 + runFreqs.getD 18 0 * 7 + cost lit litLens + cost dist distLens + extra
  match stored with
  | some input =>
    if (input.size + 5) * 8 < min fixedSize dynamicSize then (w.storedHeader false input.size).bytes input
    else if dynamicSize < fixedSize then
      w.dynamicBlock b.tokens numLit numDist numRun litLens distLens runs runLens
    else w.fixedBlock b.tokens
  | none =>
    if dynamicSize < fixedSize then
      w.dynamicBlock b.tokens numLit numDist numRun litLens distLens runs runLens
    else w.fixedBlock b.tokens

/-- A compression in progress: the repeats found so far and the bits written so far. -/
structure Encoder where
  repeats : Repeats := {}
  writer : BitWriter := {}

def Encoder.write (e : Encoder) (piece : ByteArray) : Encoder × ByteArray :=
  let ⟨r, w⟩ := e
  let (r, blocks) := r.feed piece
  let (out, w) := (blocks.foldl BitWriter.block w).take
  (⟨r, w⟩, out)

def Encoder.close (e : Encoder) : ByteArray :=
  let ⟨r, w⟩ := e
  let w := (r.finish.foldl BitWriter.block w).storedHeader true 0
  w.flush.out

def compressPieces (pieces : List ByteArray) : List ByteArray × ByteArray :=
  let (e, outs) := pieces.foldl (fun (acc : Encoder × List ByteArray) p =>
    let (e, out) := acc.1.write p
    (e, acc.2 ++ [out])) ({}, [])
  (outs, e.close)

/-- The compressed form of data written at once. -/
def compress (data : ByteArray) : ByteArray :=
  let (outs, rest) := compressPieces [data]
  outs.foldl (· ++ ·) ByteArray.empty ++ rest

end ResourceSymbols.Deflate
