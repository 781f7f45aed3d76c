/-!
# `MailMerge.Archive.Checksum`: the checksum of an archive's entries

The 32-bit cyclic redundancy check: the remainder of the content, read as a polynomial from its
lowest bits, by a fixed polynomial.
-/

set_option autoImplicit false

namespace MailMerge.Checksum

/-- Takes one bit into the remainder. -/
def takeBit (r : UInt32) : UInt32 :=
  if r &&& 1 = 1 then (r >>> 1) ^^^ 0xEDB88320 else r >>> 1

/-- Takes eight bits into the remainder. -/
def takeBits (r : UInt32) : UInt32 := (List.range 8).foldl (fun r _ => takeBit r) r

/-- The remainder of every byte. -/
def table : Vector UInt32 256 := .ofFn fun i => takeBits i.val.toUInt32

/-- Takes a byte into the remainder. -/
def takeByte (r : UInt32) (byte : UInt8) : UInt32 :=
  (r >>> 8) ^^^ table.get (r.toUInt8 ^^^ byte).toFin

/-- The remainder after more bytes. -/
def remainder (r : UInt32) (data : ByteArray) : UInt32 := data.data.foldl takeByte r

/-- The checksum of bytes. -/
def ofBytes (data : ByteArray) : UInt32 := ~~~remainder 0xFFFFFFFF data

end MailMerge.Checksum
