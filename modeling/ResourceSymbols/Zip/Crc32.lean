import ResourceSymbols.Bytes

namespace ResourceSymbols.Crc32

def entry (n : UInt32) : UInt32 :=
  (List.range 8).foldl (fun c _ => if c &&& 1 == 1 then (c >>> 1) ^^^ 0xEDB88320 else c >>> 1) n

def table : Array UInt32 := (Array.range 256).map fun i => entry i.toUInt32

def update (crc : UInt32) (b : Bytes) : UInt32 :=
  ~~~(b.foldl (fun c x => (table[((c ^^^ x.toUInt32) &&& 0xFF).toNat]?.getD 0) ^^^ (c >>> 8))
    (~~~crc))

/-- The checksum of a byte string. -/
def ofBytes (b : Bytes) : UInt32 := update 0 b

end ResourceSymbols.Crc32
