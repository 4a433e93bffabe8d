import SpritePack.Colour

namespace SpritePack

/-!
# Palettes

A palette that the display can load: at most sixteen colours, in the order of
the picture they come from, so that pixel indices keep their meaning.
-/

/-- The most colours that four bits can tell apart. -/
def maxPaletteColours : Nat := 16

/-- The stored size of a full palette in bytes. -/
def maxPaletteBytes : Nat := maxPaletteColours * 2

/-- At most sixteen colours. -/
structure Palette where
  colours : List Colour
  length_le : colours.length ≤ maxPaletteColours

namespace Palette

/-- The palette with the given colours, unless there are too many. -/
def ofColours? (colours : List Colour) : Option Palette :=
  if few : colours.length ≤ maxPaletteColours then
    some ⟨colours, few⟩
  else
    none

/-- The number of colours. -/
def size (palette : Palette) : Nat :=
  palette.colours.length

/-- The stored form: two bytes for each colour, in order. -/
def toBytes (palette : Palette) : Bytes :=
  palette.colours.flatMap Colour.toBytes

end Palette

end SpritePack
