import ResourceSymbols.Bytes

namespace ResourceSymbols.Inflate

/-- Why decompression stopped. -/
inductive Error
  | corrupt (offset : Nat)
  | truncated
deriving DecidableEq, Repr

def Error.message : Error → Bytes
  | .corrupt n => Bytes.ofString "flate: corrupt input before offset " ++ Bytes.ofNat n
  | .truncated => Bytes.ofString "unexpected EOF"

/-- Compressed input, the bits used so far, and the bytes taken in so far: at least those that hold
the bits used, more when a code was looked ahead for. -/
structure Reader where
  data : ByteArray
  pos : Nat
  taken : Nat

def Reader.corrupt (r : Reader) : Error := .corrupt r.taken

def Reader.need (r : Reader) (n : Nat) : Except Error Reader :=
  let want := (r.pos + n + 7) / 8
  if want ≤ r.taken then .ok r
  else if want ≤ r.data.size then .ok { r with taken := want }
  else .error .truncated

def Reader.bitAt (r : Reader) (k : Nat) : Option Nat :=
  r.data[k / 8]?.map fun b => (b.toNat >>> (k % 8)) % 2

def Reader.valueAt (r : Reader) (k : Nat) : Nat → Nat
  | 0 => 0
  | n + 1 => ((r.bitAt k).getD 0) + 2 * r.valueAt (k + 1) n

def Reader.bits (r : Reader) (n : Nat) : Except Error (Nat × Reader) := do
  let r ← r.need n
  pure (r.valueAt r.pos n, { r with pos := r.pos + n })

/-- A canonical Huffman code: how many codes have each length, the symbols in code order, and the
lengths of its shortest and longest codes (zero for a code with no symbol). -/
structure Huffman where
  counts : Array Nat
  symbols : Array Nat
  shortest : Nat
  longest : Nat

def Huffman.build (lengths : List Nat) : Option Huffman :=
  let counts := (List.range 16).map fun len => (lengths.filter (· == len)).length
  let used := lengths.filter (· != 0)
  let maxLen := used.foldl max 0
  let minLen := used.foldl min maxLen
  let symbols := ((List.range 16).drop 1).flatMap fun len =>
    ((List.range lengths.length).filter fun s => lengths[s]? == some len)
  -- the number of codes left free at each length, starting from two of length one
  let free := ((List.range 16).drop 1).foldl (fun (acc : Int) len =>
    if len ≤ maxLen then acc * 2 - (counts[len]?.getD 0) else acc) 1
  let complete := maxLen == 0 || free == 0 || (maxLen == 1 && used.length == 1)
  if complete then some ⟨(counts.set 0 0).toArray, symbols.toArray, minLen, maxLen⟩ else none

def Huffman.decode (h : Huffman) (least : Nat) (r : Reader) : Except Error (Nat × Reader) := do
  let r ← r.need (max least h.shortest)
  if h.symbols.isEmpty then throw r.corrupt
  go r 1 0 0 0
where
  go (r : Reader) (len code first index : Nat) : Except Error (Nat × Reader) :=
    if len > h.longest then .error r.corrupt
    else
      match r.bitAt (r.pos + len - 1) with
      | none => .error .truncated
      | some b =>
        let code := code + b
        let count := h.counts[len]?.getD 0
        if code < first + count then
          match h.symbols[index + code - first]? with
          | some s => do
            let r ← r.need len
            pure (s, { r with pos := r.pos + len })
          | none => .error r.corrupt
        else go r (len + 1) (code * 2) ((first + count) * 2) (index + count)
  termination_by h.longest + 1 - len
  decreasing_by omega

def lengthBase : Array Nat :=
  #[3, 4, 5, 6, 7, 8, 9, 10, 11, 13, 15, 17, 19, 23, 27, 31, 35, 43, 51, 59, 67, 83, 99, 115,
    131, 163, 195, 227, 258]

def lengthExtra : Array Nat :=
  #[0, 0, 0, 0, 0, 0, 0, 0, 1, 1, 1, 1, 2, 2, 2, 2, 3, 3, 3, 3, 4, 4, 4, 4, 5, 5, 5, 5, 0]

def distBase : Array Nat :=
  #[1, 2, 3, 4, 5, 7, 9, 13, 17, 25, 33, 49, 65, 97, 129, 193, 257, 385, 513, 769, 1025, 1537,
    2049, 3073, 4097, 6145, 8193, 12289, 16385, 24577]

def distExtra : Array Nat :=
  #[0, 0, 0, 0, 1, 1, 2, 2, 3, 3, 4, 4, 5, 5, 6, 6, 7, 7, 8, 8, 9, 9, 10, 10, 11, 11, 12, 12,
    13, 13]

def fixedLit : Option Huffman :=
  Huffman.build ((List.range 288).map fun s =>
    if s < 144 then 8 else if s < 256 then 9 else if s < 280 then 7 else 8)

def fixedDist : Option Huffman := Huffman.build (List.replicate 32 5)

/-- What decoding has produced: the bytes, and the places where they are to be handed on before the
end. -/
structure Output where
  bytes : ByteArray := ByteArray.empty
  flushes : Array Nat := #[]

abbrev Decode := EStateM Error Output

def lift {α : Type} (x : Except Error α) : Decode α :=
  match x with
  | .ok a => pure a
  | .error e => throw e

def copyBack (out : ByteArray) (dist len : Nat) : ByteArray :=
  (List.range len).foldl (fun o _ => o.push (o[o.size - dist]?.getD 0)) out

/-- The codes a Huffman block is read with, and how many bits each needs in before it decodes. -/
structure Codes where
  lit : Huffman
  litLeast : Nat
  dist : Huffman

def codes (c : Codes) : Nat → Reader → Decode Reader
  | 0, r => throw r.corrupt
  | fuel + 1, r => do
    let (sym, r) ← lift (c.lit.decode c.litLeast r)
    if sym < 256 then
      modify fun o => { o with bytes := o.bytes.push sym.toUInt8 }
      codes c fuel r
    else if sym == 256 then pure r
    else if sym > 285 then throw r.corrupt
    else
      let i := sym - 257
      let (more, r) ← lift (r.bits (lengthExtra[i]?.getD 0))
      let len := lengthBase[i]?.getD 0 + more
      let (dsym, r) ← lift (c.dist.decode 0 r)
      if dsym ≥ 30 then throw r.corrupt
      let (dmore, r) ← lift (r.bits (distExtra[dsym]?.getD 0))
      let d := distBase[dsym]?.getD 0 + dmore
      let made := (← get).bytes.size
      if d > made then throw r.corrupt
      modify fun o => { o with bytes := copyBack o.bytes d len }
      codes c fuel r

def codeOrder : List Nat := [16, 17, 18, 0, 8, 7, 9, 6, 10, 5, 11, 4, 12, 3, 13, 2, 14, 1, 15]

def lengthsOf (h : Huffman) (n : Nat) : Nat → Reader → Array Nat → Except Error (Reader × Array Nat)
  | 0, r, _ => .error r.corrupt
  | fuel + 1, r, acc =>
    if acc.size ≥ n then pure (r, acc)
    else do
      let (sym, r) ← h.decode 0 r
      if sym < 16 then lengthsOf h n fuel r (acc.push sym)
      else
        let (rep, prev, r) ← match sym with
          | 16 => do
            if acc.isEmpty then throw r.corrupt
            let (x, r) ← r.bits 2
            pure (3 + x, acc.back?.getD 0, r)
          | 17 => do
            let (x, r) ← r.bits 3
            pure (3 + x, 0, r)
          | _ => do
            let (x, r) ← r.bits 7
            pure (11 + x, 0, r)
        if acc.size + rep > n then .error r.corrupt
        else lengthsOf h n fuel r (acc ++ Array.replicate rep prev)

def dynamicCodes (r : Reader) : Except Error (Codes × Reader) := do
  let (head, r) ← r.bits 14
  let nlit := head % 32 + 257
  let ndist := head / 32 % 32 + 1
  let hclen := head / 1024
  if nlit > 286 || ndist > 30 then throw r.corrupt
  let (clens, r) ← (List.range (hclen + 4)).foldlM (fun (acc : List Nat × Reader) _ => do
    let (x, r) ← acc.2.bits 3
    pure (acc.1 ++ [x], r)) ([], r)
  let lens := (List.range 19).map fun s =>
    match codeOrder.idxOf? s with
    | some i => clens[i]?.getD 0
    | none => 0
  let some clh := Huffman.build lens | throw r.corrupt
  let (r, all) ← lengthsOf clh (nlit + ndist) (nlit + ndist + 1) r #[]
  let litLens := (all.extract 0 nlit).toList
  let distLens := (all.extract nlit (nlit + ndist)).toList
  match Huffman.build litLens, Huffman.build distLens with
  | some l, some d => pure (⟨l, litLens[256]?.getD 0, d⟩, r)
  | _, _ => throw r.corrupt

def stored (last : Bool) (r : Reader) : Decode Reader := do
  let start := r.taken + 4
  if start > r.data.size then throw .truncated
  let byte (k : Nat) : Nat := (r.data[r.taken + k]?.getD 0).toNat
  let len := byte 0 + 256 * byte 1
  let nlen := byte 2 + 256 * byte 3
  let r : Reader := { r with pos := 8 * start, taken := start }
  if len + nlen != 65535 then throw r.corrupt
  if len == 0 && !last then
    modify fun o => { o with flushes := o.flushes.push o.bytes.size }
  let got := min len (r.data.size - start)
  modify fun o => { o with bytes := o.bytes ++ r.data.extract start (start + got) }
  if got < len then throw .truncated
  pure { r with pos := 8 * (start + len), taken := start + len }

def blocks : Nat → Reader → Decode Unit
  | 0, r => throw r.corrupt
  | fuel + 1, r => do
    let (head, r) ← lift (r.bits 3)
    let last := head % 2 == 1
    let r ← match head / 2 with
      | 0 => stored last r
      | 1 =>
        match fixedLit, fixedDist with
        | some l, some d => codes ⟨l, 0, d⟩ (8 * r.data.size + 1) r
        | _, _ => throw r.corrupt
      | 2 => do
        let (c, r) ← lift (dynamicCodes r)
        codes c (8 * r.data.size + 1) r
      | _ => throw r.corrupt
    if last then pure () else blocks fuel r

def Output.pieces (o : Output) : List ByteArray :=
  let window := (List.range (o.bytes.size / 32768)).map fun k => 32768 * (k + 1)
  let cuts := ((window ++ o.flushes.toList).mergeSort (· ≤ ·)).eraseDups
  let (last, ps) := cuts.foldl (fun (acc : Nat × List ByteArray) c =>
    (c, o.bytes.extract acc.1 c :: acc.2)) (0, [])
  (o.bytes.extract last o.bytes.size :: ps).reverse

/-- Decode a DEFLATE stream: what it produced, and the fault that stopped it before its last block
ended, if any. -/
def inflate (data : ByteArray) : Output × Option Error :=
  match (blocks (8 * data.size + 1) { data := data, pos := 0, taken := 0 }).run {} with
  | .ok _ o => (o, none)
  | .error e o => (o, some e)

end ResourceSymbols.Inflate
