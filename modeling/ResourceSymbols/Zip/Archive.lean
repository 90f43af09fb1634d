import ResourceSymbols.Zip.Crc32
import ResourceSymbols.Zip.Inflate
import ResourceSymbols.Failure

namespace ResourceSymbols.Zip

def notZip : Failure := Failure.plain "zip: not a valid zip file"

def unsupported : Failure := Failure.plain "zip: unsupported compression algorithm"

def badChecksum : Failure := Failure.plain "zip: checksum error"

def truncated : Failure := Failure.plain "unexpected EOF"

def atEnd : Failure := Failure.plain "EOF"

def le (b : ByteArray) (off n : Nat) : Nat :=
  (List.range n).foldr (fun i acc => acc * 256 + (b[off + i]?.getD 0).toNat) 0

def has (b : ByteArray) (off n : Nat) : Bool := off + n ≤ b.size

/-- A member as the central directory describes it. -/
structure Member where
  name : Bytes
  comment : Bytes
  creator : Nat
  flags : Nat
  method : Nat
  crc : UInt32
  packedSize : Nat
  size : Nat
  externalAttrs : Nat
  headerOffset : Nat
  nonUtf8 : Bool
deriving Repr

def detectUtf8 (s : Bytes) : Bool × Bool :=
  (Utf8.segments s).foldl (fun (acc : Bool × Bool) seg =>
    if seg.code < 0x20 || seg.code > 0x7D || seg.code == 0x5C then
      if seg.code == Utf8.replacement && seg.raw.length == 1 then (false, acc.2)
      else (acc.1, true)
    else acc) (true, false)

def Member.isDir (m : Member) : Bool :=
  m.name.getLast? == some 47
    || ((m.creator / 256 == 3 || m.creator / 256 == 19) && (m.externalAttrs / 65536) % 65536 / 4096 == 4)
    || ((m.creator / 256 == 0 || m.creator / 256 == 11 || m.creator / 256 == 14)
        && (m.externalAttrs / 16) % 2 == 1)

def zip64Extra (extra : ByteArray) (m : Member) : Option Member := Id.run do
  let mut pos := 0
  let mut m := m
  let mut needU := m.size == 0xFFFFFFFF
  let mut needC := m.packedSize == 0xFFFFFFFF
  let mut needO := m.headerOffset == 0xFFFFFFFF
  for _ in List.range extra.size do
    if pos + 4 > extra.size then break
    let tag := le extra pos 2
    let len := le extra (pos + 2) 2
    if pos + 4 + len > extra.size then break
    if tag == 1 then
      let mut fpos := pos + 4
      let fend := pos + 4 + len
      if needU then
        needU := false
        if fpos + 8 > fend then return none
        m := { m with size := le extra fpos 8 }
        fpos := fpos + 8
      if needC then
        needC := false
        if fpos + 8 > fend then return none
        m := { m with packedSize := le extra fpos 8 }
        fpos := fpos + 8
      if needO then
        needO := false
        if fpos + 8 > fend then return none
        m := { m with headerOffset := le extra fpos 8 }
        fpos := fpos + 8
    pos := pos + 4 + len
  if needC || needO then none else some m

def readAt (b : ByteArray) (off n : Nat) : Except Failure ByteArray :=
  if off == b.size && n > 0 then .error atEnd
  else if off > b.size then .error truncated
  else .ok (b.extract off (off + n) ++ ⟨Array.replicate (off + n - min b.size (off + n)) 0⟩)

def record (b : ByteArray) (off : Nat) : Except Failure (Member × Nat) := do
  if !has b off 46 then
    throw (if off ≥ b.size then atEnd else truncated)
  if le b off 4 != 0x02014b50 then throw notZip
  let nameLen := le b (off + 28) 2
  let extraLen := le b (off + 30) 2
  let commentLen := le b (off + 32) 2
  let varStart := off + 46
  if !has b varStart (nameLen + extraLen + commentLen) then
    throw (if varStart ≥ b.size then atEnd else truncated)
  let name := (b.extract varStart (varStart + nameLen)).toList
  let extra := b.extract (varStart + nameLen) (varStart + nameLen + extraLen)
  let comment := (b.extract (varStart + nameLen + extraLen) (varStart + nameLen + extraLen + commentLen)).toList
  let flags := le b (off + 8) 2
  let (v1, r1) := detectUtf8 name
  let (v2, r2) := detectUtf8 comment
  let nonUtf8 := if !v1 || !v2 then true else if !r1 && !r2 then false else flags / 2048 % 2 == 0
  let m : Member :=
    { name := name, comment := comment, creator := le b (off + 4) 2, flags := flags
      method := le b (off + 10) 2, crc := (le b (off + 16) 4).toUInt32
      packedSize := le b (off + 20) 4, size := le b (off + 24) 4
      externalAttrs := le b (off + 38) 4, headerOffset := le b (off + 42) 4, nonUtf8 := nonUtf8 }
  match zip64Extra extra m with
  | some m => pure (m, varStart + nameLen + extraLen + commentLen)
  | none => throw notZip

def findEnd (b : ByteArray) : Option Nat :=
  let search (window : Nat) : Option Nat :=
    let w := min window b.size
    let start := b.size - w
    let candidates := (List.range (w + 1 - min (w + 1) 22)).reverse.map (start + ·)
    match candidates.find? (fun i => le b i 4 == 0x06054b50) with
    | some i => if le b (i + 20) 2 + 22 + i > b.size then none else some i
    | none => none
  match search 1024 with
  | some i => some i
  | none => if b.size ≤ 1024 then none else search (65 * 1024)

/-- The directory fields of the end record: entry count, directory size and offset. -/
structure EndRecord where
  records : Nat
  dirSize : Nat
  dirOffset : Nat

def signedLimit : Nat := 9223372036854775808

def wrap64 (x : Int) : Int :=
  let m := x % (2 * signedLimit : Nat)
  if m ≥ (signedLimit : Nat) then m - (2 * signedLimit : Nat) else m

def zip64End (b : ByteArray) (endAt : Nat) : Except Failure (Option (Nat × EndRecord)) := do
  if endAt < 20 then return none
  let loc := endAt - 20
  if le b loc 4 != 0x07064b50 then return none
  if le b (loc + 4) 4 != 0 then return none
  let p := le b (loc + 8) 8
  if le b (loc + 16) 4 != 1 then return none
  if p ≥ signedLimit then return none
  let r ← readAt b p 56
  if le r 0 4 != 0x06064b50 then throw notZip
  return some (p, { records := le r 32 8, dirSize := le r 40 8, dirOffset := le r 48 8 })

/-- The members of an archive, in directory order. -/
def members (b : ByteArray) : Except Failure (List Member) := do
  let some endAt := findEnd b | throw notZip
  let commentLen := le b (endAt + 20) 2
  if commentLen > b.size - (endAt + 22) then throw (Failure.plain "zip: invalid comment length")
  let mut er : EndRecord :=
    { records := le b (endAt + 10) 2, dirSize := le b (endAt + 12) 4, dirOffset := le b (endAt + 16) 4 }
  let mut endAt := endAt
  if er.records == 0xFFFF || er.dirSize == 0xFFFF || er.dirOffset == 0xFFFFFFFF then
    if let some (p, e) ← zip64End b endAt then
      endAt := p
      er := e
  if er.dirSize ≥ signedLimit || er.dirOffset ≥ signedLimit then throw notZip
  let base := wrap64 ((endAt : Int) - er.dirSize - er.dirOffset)
  let dirAt := wrap64 (base + er.dirOffset)
  if dirAt < 0 || dirAt ≥ b.size then throw notZip
  let base : Int := if base > 0 && (record b er.dirOffset).toOption.isSome then 0 else base
  let mut off := (wrap64 (base + er.dirOffset)).toNat
  let mut found : Array Member := #[]
  let mut stop : Failure := notZip
  for _ in List.range (b.size + 1) do
    match record b off with
    | .ok (m, next) =>
      found := found.push { m with headerOffset := (wrap64 (m.headerOffset + base)).toNat }
      off := next
    | .error f =>
      if f.message == notZip.message || f.message == truncated.message then
        stop := f
        break
      else throw f
  if found.size % 65536 != er.records % 65536 then throw stop
  return found.toList

/-- How a reader takes in a member's data, which fixes how much it asks for on each read. -/
inductive Intake
  | whole
  | lines
  | buffered

/-- A reader's buffer: its size, where its unused bytes start and where they stop. -/
structure Window where
  size : Nat
  start : Nat := 0
  stop : Nat := 0

def allocSizes : List Nat :=
  [8, 16, 24, 32, 48, 64, 80, 96, 112, 128, 144, 160, 176, 192, 208, 224, 240, 256, 288, 320, 352,
    384, 416, 448, 480, 512, 576, 640, 704, 768, 896, 1024, 1152, 1280, 1408, 1536, 1792, 2048, 2304,
    2688, 3072, 3200, 3456, 4096, 4864, 5376, 6144, 6528, 6784, 6912, 8192, 9472, 9728, 10240, 10880,
    12288, 13568, 14336, 16384, 18432, 19072, 20480, 21760, 24576, 27264, 28672, 32768]

def grown (c : Nat) : Nat :=
  let want := c + (c + 768) / 4
  if want ≤ 32768 then (allocSizes.find? (· ≥ want)).getD 32768
  else (want + 8191) / 8192 * 8192

def Intake.window : Intake → Window
  | .whole => { size := 512 }
  | .lines => { size := 65536 }
  | .buffered => { size := 4096 }

def Intake.prepare : Intake → Window → Window
  | .lines, w =>
    let w := if w.start > 0 && (w.stop == w.size || w.start > w.size / 2) then
      { w with start := 0, stop := w.stop - w.start } else w
    if w.stop == w.size then { w with size := min (2 * w.size) 16777216 } else w
  | _, w => w

def Intake.room : Intake → Window → Nat
  | .buffered, w => w.size
  | _, w => max 1 (w.size - w.stop)

def lastLineFeed (chunk : ByteArray) : Nat → Option Nat
  | 0 => none
  | k + 1 => if chunk[k]? == some 10 then some k else lastLineFeed chunk k

def Intake.absorb : Intake → Window → ByteArray → Window
  | .whole, w, chunk =>
    let stop := w.stop + chunk.size
    if stop ≥ w.size then { w with size := grown w.size, stop } else { w with stop }
  | .lines, w, chunk =>
    let stop := w.stop + chunk.size
    match lastLineFeed chunk chunk.size with
    | some i => { w with start := w.stop + i + 1, stop }
    | none => { w with stop }
  | .buffered, w, _ => w

/-- A member's data as its decompressor hands it out: pieces that no read crosses, the last of
which comes with the end of the data, or with the fault that ended it early. -/
structure Outflow where
  pieces : List ByteArray
  fault : Option Failure

def endOfData (size : Nat) (finish : ByteArray → Option Failure) (got chunk : ByteArray)
    (fault : Option Failure) : Delivery :=
  match fault with
  | some f => { bytes := (got ++ chunk).toList, stop := some f }
  | none =>
    if got.size + chunk.size != size then { bytes := got.toList, stop := some truncated }
    else { bytes := (got ++ chunk).toList, stop := finish (got ++ chunk) }

def drain (intake : Intake) (size : Nat) (finish : ByteArray → Option Failure) :
    Nat → Window → List ByteArray → Option Failure → ByteArray → Delivery
  | 0, _, _, _, got => { bytes := got.toList, stop := some truncated }
  | _ + 1, _, [], fault, got => endOfData size finish got ByteArray.empty fault
  | fuel + 1, w, p :: rest, fault, got =>
    if p.isEmpty && !rest.isEmpty then drain intake size finish fuel w rest fault got
    else
      let w := intake.prepare w
      let n := min (intake.room w) p.size
      let chunk := p.extract 0 n
      if got.size + n > size then { bytes := got.toList, stop := some notZip }
      else if rest.isEmpty && n == p.size then endOfData size finish got chunk fault
      else
        drain intake size finish fuel (intake.absorb w chunk) (p.extract n p.size :: rest) fault
          (got ++ chunk)

def Member.finish (m : Member) (b : ByteArray) (body : Nat) (data : ByteArray) : Option Failure :=
  let sum := Crc32.ofBytes data.toList
  if m.flags / 8 % 2 == 1 then
    let descAt := body + m.packedSize
    let avail := min 16 (b.size - min b.size descAt)
    let signed := avail ≥ 4 && le b descAt 4 == 0x08074b50
    if avail < 4 || (signed && avail < 16) || avail < 12 then some truncated
    else if (le b (if signed then descAt + 4 else descAt) 4).toUInt32 != m.crc then some badChecksum
    else if sum != m.crc then some badChecksum
    else none
  else if m.crc != 0 && sum != m.crc then some badChecksum
  else none

def Member.outflow (b : ByteArray) (m : Member) (body : Nat) : Outflow :=
  let packed := b.extract body (body + m.packedSize)
  if m.method == 0 then
    if m.packedSize == 0 then ⟨[ByteArray.empty], none⟩
    else if body > b.size then ⟨[ByteArray.empty], some truncated⟩
    else ⟨[packed, ByteArray.empty], none⟩
  else
    let (out, fault) := Inflate.inflate packed
    ⟨out.pieces, fault.map fun
      | .truncated => truncated
      | e => .note e.message⟩

/-- Open a member and read its data as `intake` takes it in. -/
def Member.read (b : ByteArray) (m : Member) (intake : Intake) : Except Failure Delivery := do
  let header ← readAt b m.headerOffset 30
  if le header 0 4 != 0x04034b50 then throw notZip
  let body := m.headerOffset + 30 + le header 26 2 + le header 28 2
  if m.name.getLast? == some 47 then
    return if m.size != 0 then { bytes := [], stop := some notZip } else { bytes := [] }
  if m.method != 0 && m.method != 8 then throw unsupported
  let flow := m.outflow b body
  let fuel := flow.pieces.foldl (fun n p => n + p.size + 1) 1
  return drain intake m.size (m.finish b body) fuel intake.window flow.pieces flow.fault ByteArray.empty

end ResourceSymbols.Zip
