import SpritePack.Colour
import SpritePack.Traversal

namespace SpritePack

/-!
# Rasters

A raster is a rectangle of palette indices, one byte for each pixel whatever
the bit depth of the picture it came from. Its pixels can be listed row by row
or read at a coordinate.
-/

/-- A pixel with its place. -/
structure Pixel where
  x : Nat
  y : Nat
  index : UInt8
  deriving Repr, DecidableEq

/-- A rectangle of palette indices, row by row from the top. -/
structure Raster where
  width : Nat
  height : Nat
  /-- The bits that each index took in the picture it was read from. -/
  bitDepth : Nat
  indices : Bytes
  palette : List Colour
  length_indices : indices.length = width * height

namespace Raster

/-- The raster of the given indices, if there is exactly one for each pixel. -/
def ofIndices?
    (width height : Nat)
    (indices : Bytes)
    (palette : List Colour) :
    Option Raster :=
  if complete : indices.length = width * height then
    some {
      width := width
      height := height
      bitDepth := 8
      indices := indices
      palette := palette
      length_indices := complete
    }
  else
    none

/-- A coordinate inside the rectangle has a place among the indices. -/
theorem position_lt
    (raster : Raster)
    {x y : Nat}
    (inWidth : x < raster.width)
    (inHeight : y < raster.height) :
    x + y * raster.width < raster.indices.length := by
  rw [raster.length_indices]
  calc
    x + y * raster.width < raster.width + y * raster.width := by omega
    _ = (y + 1) * raster.width := by rw [Nat.succ_mul, Nat.add_comm]
    _ ≤ raster.height * raster.width := Nat.mul_le_mul_right _ inHeight
    _ = raster.width * raster.height := Nat.mul_comm ..

/-- The index at a coordinate. -/
def index
    (raster : Raster)
    (x y : Nat)
    (inWidth : x < raster.width)
    (inHeight : y < raster.height) :
    UInt8 :=
  raster.indices.get
    ⟨x + y * raster.width, raster.position_lt inWidth inHeight⟩

/-- Every pixel, row by row and from left to right. -/
def pixels (raster : Raster) : List Pixel :=
  raster.indices.zipIdx.map fun (index, position) => {
    x := position % raster.width
    y := position / raster.width
    index := index
  }

/-- The rows of indices from the top; a raster without width has none. -/
def rows (raster : Raster) : List Bytes :=
  Traversal.chunks raster.width raster.indices

end Raster

end SpritePack
