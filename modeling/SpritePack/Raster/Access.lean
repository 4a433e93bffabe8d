import SpritePack.Error

namespace SpritePack

/-!
# Rasters in machine words

A machine holds sizes, places and lengths in words of sixty-four bits. A product
may be too large for a word, a width may be zero where a position is divided by
it, and a place may have no index. Here a raster is made, listed, read and packed
with each of these steps checked before it is taken, so that a step that cannot
be taken shows.
-/

/-- A list of indices that a machine can hold: its length is a word. -/
structure IndexList where
  bytes : Bytes
  length_lt : bytes.length < UInt64.size

/-- The length of a list of indices, as a word. -/
def IndexList.count (indices : IndexList) : UInt64 :=
  indices.bytes.length.toUInt64

@[simp] theorem IndexList.toNat_count
    (indices : IndexList) :
    indices.count.toNat = indices.bytes.length := by
  rw [count, Nat.toUInt64_eq, UInt64.toNat_ofNat']
  exact Nat.mod_eq_of_lt indices.length_lt

namespace Word

/-- The product of two words, unless it is too large for one. -/
def product? (left right : UInt64) : Option UInt64 :=
  if left.toNat * right.toNat < UInt64.size then
    some (left * right)
  else
    none

/-- A product that is found is the exact one. -/
theorem product?_eq_some_iff
    {left right result : UInt64} :
    product? left right = some result ↔
      left.toNat * right.toNat = result.toNat := by
  rw [product?]
  split
  next small =>
    have unwrapped : (left * right).toNat = left.toNat * right.toNat := by
      rw [UInt64.toNat_mul]
      exact Nat.mod_eq_of_lt small
    rw [Option.some.injEq, ← UInt64.toNat_inj, unwrapped]
  next large =>
    have small := result.toNat_lt
    constructor
    · rintro ⟨⟩
    · intro equal
      rw [equal] at large
      exact (large small).elim

end Word

/-- What would have gone wrong in making or reading a raster. -/
inductive Misstep where
  /-- A number would be too large for a word. -/
  | overflow
  /-- A position would be divided by a width of zero. -/
  | division
  /-- A place would have no index. -/
  | outside
  deriving Repr, DecidableEq

/-- A number as far as a word can hold it. -/
def Word.fit (number : Nat) : Except Misstep Nat :=
  if number < UInt64.size then .ok number else .error .overflow

namespace Raster

/-- The raster of the given indices, if there is exactly one for each pixel. -/
def ofWords
    (width height : UInt64)
    (indices : IndexList)
    (palette : List Colour) :
    Except Error Raster :=
  if complete : Word.product? width height = some indices.count then
    .ok {
      width := width.toNat
      height := height.toNat
      bitDepth := 8
      indices := indices.bytes
      palette := palette
      length_indices := by
        rw [Word.product?_eq_some_iff.mp complete, indices.toNat_count]
    }
  else
    .error (.pixelCount width.toNat height.toNat indices.count.toNat)

/-- The index at a coordinate, by its position among all indices. -/
def readIndex
    (raster : Raster)
    (x y : Nat) :
    Except Misstep UInt8 := do
  let before ← Word.fit (y * raster.width)
  let position ← Word.fit (x + before)
  match raster.indices[position]? with
  | none => .error .outside
  | some index => .ok index

/-- The pixel in a position, whose place is the remainder and quotient by the width. -/
def readPixel
    (raster : Raster)
    (index : UInt8)
    (position : Nat) :
    Except Misstep Pixel :=
  if raster.width = 0 then
    .error .division
  else
    .ok {
      x := position % raster.width
      y := position / raster.width
      index := index
    }

/-- Every pixel, from one position to the next. -/
def readPixels (raster : Raster) : Except Misstep (List Pixel) :=
  raster.indices.zipIdx.mapM fun (index, position) =>
    raster.readPixel index position

/-- The left places of all pairs of neighbours, row by row. -/
def pairs (raster : Raster) : List (Nat × Nat) :=
  (List.range raster.height).flatMap fun y =>
    (List.range (raster.width / 2)).map fun pair => (2 * pair, y)

/-- The byte of two neighbours, each read at its own place. -/
def readPair
    (raster : Raster)
    (x y : Nat) :
    Except Misstep UInt8 := do
  let left ← raster.readIndex x y
  let right ← raster.readIndex (x + 1) y
  .ok ((left <<< 4) ||| right)

/-- The bitmap, after a search for a pixel beyond the colours, by reading pair after pair. -/
def readBitmap
    (raster : Raster)
    (colours : Nat) :
    Except Misstep (Except SpriteFault Bytes) := do
  let pixels ← raster.readPixels
  match pixels.find? fun pixel => decide (colours ≤ pixel.index.toNat) with
  | some pixel => .ok (.error (.indexOutOfRange pixel colours))
  | none => do
      let bytes ← raster.pairs.mapM fun (x, y) => raster.readPair x y
      .ok (.ok bytes)

end Raster

end SpritePack
