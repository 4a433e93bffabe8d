import SpritePack.Scanline

namespace SpritePack

/-!
# The bits of a scanline

Read byte by byte, and in each byte from the most significant bit down, a
scanline is one run of bits. The format says that it starts with the bits of the
row's pixels, the leftmost first, each spelled with as many bits as the depth
says. The bits behind them, up to the end of the last byte, are left open.
-/

namespace Bytes

/-- The lowest bits of a number, the most significant of them first. -/
def numberBits (count number : Nat) : List Bool :=
  (List.range count).map fun place => number.testBit (count - 1 - place)

/-- The bits of numbers that take `count` bits each, number after number. -/
def bits
    (count : Nat)
    (numbers : Bytes) :
    List Bool :=
  numbers.flatMap fun number => numberBits count number.toNat

end Bytes

namespace Scanline

/-- That a scanline is as long as a row's must be, and starts with the bits of its pixels. -/
structure Spells
    (depth : Nat)
    (row scanline : Bytes) : Prop where
  length_eq : scanline.length = size depth row.length
  starts : Bytes.bits depth row <+: Bytes.bits 8 scanline

/--
That two buffers have the same bits wherever one of the first `count` scanlines
has a pixel. The bits behind a row, and all behind the last scanline, may differ.
-/
def SamePixelBits
    (depth width count : Nat)
    (first second : Bytes) : Prop :=
  ∀ row place,
    row < count →
    place < width * depth →
    (Bytes.bits 8 first)[row * (size depth width * 8) + place]? =
      (Bytes.bits 8 second)[row * (size depth width * 8) + place]?

end Scanline

end SpritePack
