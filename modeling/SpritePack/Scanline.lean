import SpritePack.Bytes
import SpritePack.Traversal

namespace SpritePack

/-!
# Scanlines

A scanline holds one row of palette indices at one, two, four or eight bits
each. The leftmost pixel takes the most significant bits, and the last byte is
filled up with bits that belong to no pixel.
-/

namespace Scanline

/-- The bytes that a row of pixels takes. -/
def size (depth width : Nat) : Nat :=
  (width * depth + 7) / 8

/-- The pixels of a byte, from the most significant bits down. -/
def unpackByte
    (depth : Nat)
    (byte : UInt8) :
    List UInt8 :=
  (List.range (8 / depth)).map fun place =>
    ((byte.toNat >>> (8 - depth * (place + 1))) % (1 <<< depth)).toUInt8

/-- The given number of pixels from a scanline. -/
def unpack
    (depth width : Nat)
    (scanline : Bytes) :
    Bytes :=
  (scanline.flatMap (unpackByte depth)).take width

/-- The byte of at most as many pixels as fit in one, with clear bits after the last. -/
def packByte
    (depth : Nat)
    (pixels : List UInt8) :
    UInt8 :=
  let filled := pixels.foldl (fun value pixel => (value <<< depth) + pixel.toNat) 0
  (filled <<< (8 - depth * pixels.length)).toUInt8

/-- The scanline of a row of pixels. -/
def pack
    (depth : Nat)
    (pixels : List UInt8) :
    Bytes :=
  (Traversal.chunks (8 / depth) pixels).map (packByte depth)

/-- The pixels of the first `count` of the scanlines that lie end to end in a buffer. -/
def unpackAll
    (depth width lineSize count : Nat)
    (buffer : Bytes) :
    Bytes :=
  ((Traversal.chunks lineSize buffer).take count).flatMap (unpack depth width)

/--
The first `room` bytes of a buffer in which a scanline starts every `stride`
bytes, and all bytes that no scanline reaches are zero. No scanline is longer
than the stride.
-/
def spaced
    (stride room : Nat)
    (scanlines : List Bytes) :
    Bytes :=
  let pitch := min stride room
  let line := fun scanline : Bytes =>
    scanline ++ List.replicate (pitch - scanline.length) 0
  let reached := (scanlines.take (room / stride + 1)).flatMap line
  (reached ++ List.replicate room 0).take room

end Scanline

end SpritePack
