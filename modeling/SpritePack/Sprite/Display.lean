import SpritePack.Sprite

namespace SpritePack

/-!
# Sprites on the display

How the display reads a stored sprite: a pixel's index from its half of a byte
of the bitmap, a colour's word from two bytes of the palette, and the colour of
a pixel by looking the one up with the other. Read from end to end, the two
parts list all indices and all colours of the picture.
-/

/-- The indices in the bytes of a bitmap, those in the high bits first. -/
def unpackNibbles (bitmap : Bytes) : Bytes :=
  bitmap.flatMap fun byte : UInt8 => [byte >>> 4, byte &&& 15]

/-- The words in the bytes of a palette, each stored low byte first. -/
def unpackWords : Bytes → List UInt16
  | low :: high :: rest =>
      (low.toUInt16 ||| (high.toUInt16 <<< 8)) :: unpackWords rest
  | _ => []

namespace Sprite

/-- The index at a place: the high bits of a byte in even columns, the low ones in odd. -/
def nibble?
    (sprite : Sprite)
    (x y : Nat) :
    Option UInt8 :=
  sprite.bitmap[y * 32 + x / 2]?.map fun byte : UInt8 =>
    if x % 2 = 0 then byte >>> 4 else byte &&& 15

/-- The word of an entry of the palette, stored low byte first. -/
def word?
    (sprite : Sprite)
    (entry : Nat) :
    Option UInt16 :=
  match sprite.palette[2 * entry]?, sprite.palette[2 * entry + 1]? with
  | some low, some high => some (low.toUInt16 ||| (high.toUInt16 <<< 8))
  | _, _ => none

/-- The colour shown at a place. -/
def shown?
    (sprite : Sprite)
    (x y : Nat) :
    Option Colour := do
  let index ← sprite.nibble? x y
  let word ← sprite.word? index.toNat
  some (Colour.ofRgb12 word)

/-- The indices of all pixels, row by row. -/
def indices (sprite : Sprite) : Bytes :=
  unpackNibbles sprite.bitmap

/-- The colours of all entries of the palette. -/
def colours (sprite : Sprite) : List Colour :=
  (unpackWords sprite.palette).map Colour.ofRgb12

end Sprite

namespace Colour

/-- A colour with the low four bits of each channel clear. -/
def coarse (colour : Colour) : Colour where
  red := colour.red &&& 0xF0
  green := colour.green &&& 0xF0
  blue := colour.blue &&& 0xF0

/-- Whether two colours agree in the high four bits of each channel. -/
def SameHighBits (first second : Colour) : Prop :=
  first.red >>> 4 = second.red >>> 4 ∧
    first.green >>> 4 = second.green >>> 4 ∧
    first.blue >>> 4 = second.blue >>> 4

instance (first second : Colour) : Decidable (SameHighBits first second) :=
  inferInstanceAs (Decidable (_ ∧ _ ∧ _))

end Colour

end SpritePack
