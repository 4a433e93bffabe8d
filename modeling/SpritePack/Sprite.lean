import SpritePack.Palette
import SpritePack.Raster

namespace SpritePack

/-!
# Sprites

A sprite is stored as two runs of bytes: a bitmap with two pixels in each byte,
and a palette with two bytes for each colour. Only a raster of one fixed size,
with few enough colours and no index beyond its palette, is a sprite.
-/

/-- The width of a sprite in pixels. -/
def spriteWidth : Nat := 64

/-- The height of a sprite in pixels. -/
def spriteHeight : Nat := 128

/-- The stored size of a bitmap in bytes. -/
def bitmapBytes : Nat := spriteWidth * spriteHeight / 2

/-- The two parts that a sprite is stored in. -/
inductive SpritePart where
  | bitmap
  | palette
  deriving Repr, DecidableEq

/-- Why a raster cannot be stored as a sprite. -/
inductive SpriteFault where
  | invalidDimensions (width height : Nat)
  | tooManyColours (count : Nat)
  | indexOutOfRange (pixel : Pixel) (colours : Nat)
  /-- A part came out in another size than it is stored in. -/
  | partSize (part : SpritePart) (expected actual : Nat)
  deriving Repr, DecidableEq

/-- A stored sprite. -/
structure Sprite where
  bitmap : Bytes
  palette : Bytes
  deriving Repr, DecidableEq

/-- Two pixels to a byte, the left one in the high bits; a last lone pixel is left out. -/
def packNibbles : Bytes → Bytes
  | left :: right :: rest => ((left <<< 4) ||| right) :: packNibbles rest
  | _ => []

/-- The sprite of a packed bitmap and palette, once their sizes are found right. -/
def Sprite.ofParts
    (bitmap palette : Bytes) :
    Except SpriteFault Sprite :=
  if bitmap.length ≠ bitmapBytes then
    .error (.partSize .bitmap bitmapBytes bitmap.length)
  else if maxPaletteBytes < palette.length then
    .error (.partSize .palette maxPaletteBytes palette.length)
  else
    .ok { bitmap := bitmap, palette := palette }

namespace Raster

/-- The first pixel, row by row, whose index is not below the number of colours. -/
def firstOutOfRange?
    (raster : Raster)
    (colours : Nat) :
    Option Pixel :=
  raster.pixels.find? fun pixel => decide (colours ≤ pixel.index.toNat)

/-- The bitmap of a raster whose indices are all below the number of colours. -/
def packBitmap
    (raster : Raster)
    (colours : Nat) :
    Except SpriteFault Bytes :=
  match raster.firstOutOfRange? colours with
  | some pixel => .error (.indexOutOfRange pixel colours)
  | none => .ok (raster.rows.flatMap packNibbles)

/--
Store a raster as a sprite. Its size is judged first, then the number of its
colours, then its pixels, and last the sizes of what is stored.
-/
def toSprite (raster : Raster) : Except SpriteFault Sprite :=
  if raster.width = spriteWidth ∧ raster.height = spriteHeight then
    match Palette.ofColours? raster.palette with
    | none => .error (.tooManyColours raster.palette.length)
    | some palette =>
        match raster.packBitmap palette.size with
        | .error fault => .error fault
        | .ok bitmap => Sprite.ofParts bitmap palette.toBytes
  else
    .error (.invalidDimensions raster.width raster.height)

end Raster

end SpritePack
