import ResourceSymbols.Zip.Crc32
import ResourceSymbols.Zip.Deflate.Encode
import ResourceSymbols.Text.Clock

namespace ResourceSymbols.Zip

def littleEndian (width value : Nat) : Bytes :=
  (List.range width).map fun i => (value / Nat.pow 256 i % 256).toUInt8

def fields (values : List (Nat × Nat)) : Bytes :=
  values.flatMap fun (w, v) => littleEndian w v

/-- A member: its name, the time of its last change (nanoseconds since 1970), its data, and the
data compressed, in the part handed over while the data is written and the rest. -/
structure Item where
  name : Bytes
  time : Nat
  data : Bytes
  early : Bytes
  late : Bytes

def toArray (b : Bytes) : ByteArray := ⟨b.toArray⟩

/-- The member for data written in pieces of `piece` bytes, or all at once when `piece` is zero. -/
def Item.ofData (name : Bytes) (time : Nat) (data : Bytes) (piece : Nat) : Item :=
  let all := toArray data
  let pieces := if piece == 0 then [all]
    else (List.range ((all.size + piece - 1) / piece)).map fun i => all.extract (i * piece) ((i + 1) * piece)
  let (outs, rest) := Deflate.compressPieces pieces
  { name, time, data, early := outs.flatMap (·.toList), late := rest.toList }

def Item.packed (i : Item) : Bytes := i.early ++ i.late

def dosStamp (t : Nat) : Nat × Nat :=
  let p := Clock.parts t
  if p.year < 1980 then (33, 0)
  else ((p.year - 1980) * 512 + p.month * 32 + p.day, p.hour * 2048 + p.minute * 32 + p.second / 2)

def timeExtra (t : Nat) : Bytes :=
  fields [(2, 0x5455), (2, 5), (1, 1), (4, t / 1000000000 % 4294967296)]

def localHeader (i : Item) : Bytes :=
  let (date, time) := dosStamp i.time
  fields [(4, 0x04034b50), (2, 20), (2, 8), (2, 8), (2, time), (2, date), (4, 0), (4, 0), (4, 0),
    (2, i.name.length), (2, 9)] ++ i.name ++ timeExtra i.time

def Item.checksum (i : Item) : Nat := (Crc32.ofBytes i.data).toNat

def descriptor (i : Item) : Bytes :=
  fields [(4, 0x08074b50), (4, i.checksum), (4, i.packed.length), (4, i.data.length)]

def member (i : Item) : Bytes := localHeader i ++ i.packed ++ descriptor i

def centralRecord (i : Item) (offset : Nat) : Bytes :=
  let (date, time) := dosStamp i.time
  fields [(4, 0x02014b50), (2, 0x0314), (2, 20), (2, 8), (2, 8), (2, time), (2, date),
    (4, i.checksum), (4, i.packed.length), (4, i.data.length), (2, i.name.length), (2, 9), (2, 0),
    (2, 0), (2, 0), (4, 0), (4, offset)] ++ i.name ++ timeExtra i.time

def directory (offset : Nat) : List Item → Bytes
  | [] => []
  | i :: rest => centralRecord i offset ++ directory (offset + (member i).length) rest

def endRecord (count size offset : Nat) : Bytes :=
  fields [(4, 0x06054b50), (2, 0), (2, 0), (2, count), (2, count), (4, size), (4, offset), (2, 0)]

def finish : Option Item → Bytes
  | none => []
  | some i => i.late ++ descriptor i

def additions (last : Option Item) : List Item → List Bytes
  | [] => []
  | i :: rest => (finish last ++ localHeader i) :: i.early :: additions (some i) rest

def closing (items : List Item) (last : Option Item) : Bytes :=
  let start := (items.flatMap member).length
  let dir := directory 0 items
  finish last ++ dir ++ endRecord items.length dir.length start

/-- A whole archive. -/
def archive (items : List Item) : Bytes :=
  items.flatMap member ++ directory 0 items
    ++ endRecord items.length (directory 0 items).length (items.flatMap member).length

end ResourceSymbols.Zip
