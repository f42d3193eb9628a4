import RemoteCall.Bytes

/-!
# The payload checksum

CRC-32C: the remainder of the payload, taken as a polynomial over the two-element field, modulo the
Castagnoli polynomial.  Bits go lowest first, so the polynomial appears reversed.  The register
starts with all bits set and is inverted at the end, which makes the checksum of nothing zero.

The definition goes bit by bit, because each bit step is linear in the register: what a burst of
errors does to the checksum can then be followed through the rest of the stream.
-/

namespace RemoteCall.Checksum

/-- The Castagnoli polynomial, lowest power in the highest bit. -/
def polynomial : UInt32 := 0x82f63b78

/-- One bit leaves the register; the polynomial is subtracted if it was set. -/
def shift (register : UInt32) : UInt32 :=
  if register &&& 1 = 1 then (register >>> 1) ^^^ polynomial else register >>> 1

/-- The register after eight more bits have left it. -/
def shift8 (register : UInt32) : UInt32 :=
  shift (shift (shift (shift (shift (shift (shift (shift register)))))))

/-- The register after one byte. -/
def feed (register : UInt32) (b : UInt8) : UInt32 :=
  shift8 (register ^^^ b.toUInt32)

/-- The register after a byte string. -/
def run (register : UInt32) (bs : Bytes) : UInt32 :=
  bs.foldl feed register

/-- The CRC-32C checksum of a byte string. -/
def crc32c (bs : Bytes) : UInt32 :=
  run 0xffffffff bs ^^^ 0xffffffff

theorem run_append (register : UInt32) (as bs : Bytes) :
    run register (as ++ bs) = run (run register as) bs := by
  simp [run]

end RemoteCall.Checksum
