import ResourceSymbols.Bytes

namespace ResourceSymbols.Deflate

def unbounded : Nat := 2147483647

/-- One row of the package-merge: the cost of its last item, of its next symbol and of its next
pair, and how many more items it has to give. -/
structure Row where
  lastFreq : Nat := 0
  nextCharFreq : Nat := 0
  nextPairFreq : Nat := 0
  needed : Nat := 0

/-- The rows, the row being worked on, and for every row how many symbols lie to the left of the
chosen item of each shallower row. -/
structure Merge where
  level : Nat
  rows : Array Row
  leaves : Array (Array Nat)

def leafAt (leaves : Array (Array Nat)) (i j : Nat) : Nat := (leaves.getD i #[]).getD j 0

def descend (rows : Array Row) : Nat → Nat
  | 0 => 0
  | l + 1 => if (rows.getD l {}).needed > 0 then descend rows l else l + 1

def merge (freq : Nat → Nat) (top : Nat) : Nat → Merge → Merge
  | 0, s => s
  | fuel + 1, s =>
    let level := s.level
    let row := s.rows.getD level {}
    if row.nextPairFreq == unbounded && row.nextCharFreq == unbounded then
      -- this row has run out of symbols and pairs: it is done, and so are the rows below
      let rows := (s.rows.set! level { row with needed := 0 }).modify (level + 1)
        fun r => { r with nextPairFreq := unbounded }
      merge freq top fuel { s with level := level + 1, rows }
    else
      let prevFreq := row.lastFreq
      let (row, rows, leaves) :=
        if row.nextCharFreq < row.nextPairFreq then
          let n := leafAt s.leaves level level + 1
          ({ row with lastFreq := row.nextCharFreq, nextCharFreq := freq n }, s.rows,
            s.leaves.modify level fun counts => counts.set! level n)
        else
          let lower := s.leaves.getD (level - 1) #[]
          ({ row with lastFreq := row.nextPairFreq },
            s.rows.modify (level - 1) fun r => { r with needed := 2 },
            s.leaves.modify level fun counts =>
              counts.mapIdx fun j v => if j < level then lower.getD j 0 else v)
      let row := { row with needed := row.needed - 1 }
      let rows := rows.set! level row
      if row.needed == 0 then
        if level == top then { level, rows, leaves }
        else
          let rows := rows.modify (level + 1) fun r => { r with nextPairFreq := prevFreq + row.lastFreq }
          merge freq top fuel { level := level + 1, rows, leaves }
      else
        merge freq top fuel { level := descend rows level, rows, leaves }

def lengthCounts (freqs : Array Nat) (maxBits : Nat) : Array Nat :=
  let n := freqs.size
  let top := min maxBits (n - 1)
  let freq (k : Nat) : Nat := freqs.getD k unbounded
  let first : Row :=
    { lastFreq := freq 1, nextCharFreq := freq 2, nextPairFreq := freq 0 + freq 1 }
  let rows := (Array.range (top + 2)).map fun level =>
    if level == 0 || level > top then {}
    else if level == 1 then { first with nextPairFreq := unbounded }
    else first
  let rows := rows.modify top fun r => { r with needed := 2 * n - 4 }
  let leaves := (Array.range (top + 2)).map fun level =>
    (Array.range (top + 2)).map fun j => if j == level && level ≥ 1 && level ≤ top then 2 else 0
  let done := merge freq top (4 * n * (top + 1) + 16) { level := top, rows, leaves }
  let counts := done.leaves.getD top #[]
  (Array.range (top + 1)).map fun bits =>
    if bits == 0 then 0 else counts.getD (top + 1 - bits) 0 - counts.getD (top - bits) 0

def lengths (freqs : Array Nat) (maxBits : Nat) : Array Nat :=
  let used := (List.range freqs.size).filter fun s => freqs.getD s 0 != 0
  if used.length ≤ 2 then freqs.map fun f => if f == 0 then 0 else 1
  else
    let sorted := used.mergeSort fun a b =>
      freqs.getD a 0 < freqs.getD b 0 || (freqs.getD a 0 == freqs.getD b 0 && a ≤ b)
    let counts := lengthCounts (sorted.map fun s => freqs.getD s 0).toArray maxBits
    -- the most frequent symbols first, the shortest lengths first
    let lens := (List.range counts.size).flatMap fun bits => List.replicate (counts.getD bits 0) bits
    (sorted.reverse.zip lens).foldl (fun acc (s, len) => acc.set! s len)
      (Array.replicate freqs.size 0)

end ResourceSymbols.Deflate
