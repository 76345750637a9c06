/-!
# Checksums

The cyclic redundancy check with 32 bits, in the reflected form with the polynomial 0xEDB88320.
-/

namespace WordGrid.Checksum

/-- Move the remainder down by one bit. -/
def shift (remainder : UInt32) : UInt32 :=
  if remainder &&& 1 == 1 then (remainder >>> 1) ^^^ 0xEDB88320 else remainder >>> 1

/-- Take a byte into the remainder. -/
def step (remainder : UInt32) (byte : UInt8) : UInt32 :=
  (List.range 8).foldl (fun current _ => shift current) (remainder ^^^ byte.toUInt32)

/-- The checksum of some bytes. -/
def crc32 (bytes : List UInt8) : UInt32 :=
  bytes.foldl step 0xFFFFFFFF ^^^ 0xFFFFFFFF

end WordGrid.Checksum
