/-!
# `MailMerge.Archive.BitReader`: bytes read bit by bit

A byte is read from its lowest bit, and a number too.
-/

set_option autoImplicit false

namespace MailMerge

/-- Bytes and how many of their bits were read. -/
structure BitReader where
  data : ByteArray
  position : Nat

namespace BitReader

/-- The start of bytes. -/
def ofBytes (data : ByteArray) : BitReader := ⟨data, 0⟩

/-- How many bits are left. -/
def left (r : BitReader) : Nat := r.data.size * 8 - r.position

/-- The next bit. -/
def bit? (r : BitReader) : Option (Nat × BitReader) :=
  r.data[r.position / 8]?.map fun byte =>
    ((byte.toNat >>> (r.position % 8)) % 2, { r with position := r.position + 1 })

/-- A number of some bits. -/
def number? : Nat → BitReader → Option (Nat × BitReader)
  | 0, r => some (0, r)
  | n + 1, r =>
    match r.bit? with
    | none => none
    | some (b, r) => (number? n r).map fun (v, r) => (b + 2 * v, r)

/-- The reader at the start of the next byte, unless it is at the start of one. -/
def align (r : BitReader) : BitReader := { r with position := (r.position + 7) / 8 * 8 }

/-- The next bytes, at the start of a byte. -/
def bytes? (n : Nat) (r : BitReader) : Option (ByteArray × BitReader) :=
  let start := r.position / 8
  if start + n ≤ r.data.size then
    some (r.data.extract start (start + n), { r with position := r.position + 8 * n })
  else none

end BitReader

end MailMerge
