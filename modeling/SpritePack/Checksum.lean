import SpritePack.Bytes

namespace SpritePack

/-!
# Checksums

Two check words. A cyclic redundancy check guards each chunk of a picture: the
remainder of the bytes as a polynomial, lowest bits first, divided by a fixed
one. A pair of sums closes compressed data.
-/

namespace Checksum

/-- One step of the division: shift out a bit, and subtract the divisor if it was set. -/
def shift (remainder : UInt32) : UInt32 :=
  if remainder &&& 1 = 1 then
    (remainder >>> 1) ^^^ 0xEDB88320
  else
    remainder >>> 1

/-- The remainder after one more byte. -/
def addByte
    (remainder : UInt32)
    (byte : UInt8) :
    UInt32 :=
  shift <| shift <| shift <| shift <| shift <| shift <| shift <| shift <|
    remainder ^^^ byte.toUInt32

/-- The check word of a byte string. -/
def crc32 (bytes : Bytes) : UInt32 :=
  bytes.foldl addByte 0xFFFFFFFF ^^^ 0xFFFFFFFF

/-- The modulus of the check word that closes compressed data. -/
def adlerModulus : Nat := 65521

/-- Add a byte to the sum of the bytes so far, and the result to the sum of those sums. -/
def addToSums
    (sums : Nat × Nat)
    (byte : UInt8) :
    Nat × Nat :=
  let first := (sums.1 + byte.toNat) % adlerModulus
  (first, (sums.2 + first) % adlerModulus)

/--
The check word behind compressed data, made from its content: the sum of the
bytes, counted from one, and above it the sum of the sums on the way.
-/
def adler32 (bytes : Bytes) : UInt32 :=
  let sums := bytes.foldl addToSums (1, 0)
  (sums.2 * 65536 + sums.1).toUInt32

end Checksum

end SpritePack
