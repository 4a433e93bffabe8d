import SpritePack.Scanline

namespace SpritePack

/-!
# Reading pixels one by one

A pixel of a scanline is found by its column: the quotient by the pixels of a
byte gives the byte, and the remainder gives the bits. Nothing in a picture file
says outright that these places exist, so here each step is taken only after it
has been checked, and a step that cannot be taken ends the reading.
-/

/-- What would have gone wrong in making a buffer and reading its pixels. -/
inductive Breach where
  /-- The buffer would have more bytes than a buffer can have. -/
  | capacity
  /-- The length of the part to be read would be too large for an address. -/
  | address
  /-- The part of the buffer to be read is longer than the buffer. -/
  | buffer
  /-- The buffer would be cut into lines of no bytes. -/
  | lineSize
  /-- A byte would hold no pixel. -/
  | depth
  /-- A pixel's bits would lie outside a byte. -/
  | bits
  /-- A pixel's byte would lie behind the end of its line. -/
  | line
  /-- The pixels found are not as many as the picture has. -/
  | count
  deriving Repr, DecidableEq

namespace Scanline

/-- The pixel at a place of a byte, by shifting it down and masking it. -/
def pixelIn
    (depth : Nat)
    (byte : UInt8)
    (place : Nat) :
    UInt8 :=
  (byte >>> (8 - depth * (place + 1)).toUInt8) &&&
    ((1 <<< depth) - 1).toUInt8

/-- The pixel in a column of a scanline. -/
def pixelAt
    (depth : Nat)
    (scanline : Bytes)
    (column : Nat) :
    Except Breach UInt8 :=
  if depth = 0 ∨ 8 < depth then
    .error .depth
  else
    let place := column % (8 / depth)
    if 8 < depth * (place + 1) then
      .error .bits
    else
      match scanline[column / (8 / depth)]? with
      | none => .error .line
      | some byte => .ok (pixelIn depth byte place)

/-- The pixels of a scanline, column by column. -/
def readRow
    (depth width : Nat)
    (scanline : Bytes) :
    Except Breach Bytes :=
  (List.range width).mapM (pixelAt depth scanline)

/-- The pixels of the first `count` of the scanlines that lie end to end in a buffer. -/
def readRows
    (depth width lineSize count : Nat)
    (buffer : Bytes) :
    Except Breach Bytes :=
  if lineSize = 0 then
    .error .lineSize
  else do
    let rows ←
      ((Traversal.chunks lineSize buffer).take count).mapM
        (readRow depth width)
    .ok rows.flatten

end Scanline

end SpritePack
