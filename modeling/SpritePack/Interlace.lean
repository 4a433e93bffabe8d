import SpritePack.Scanline
import SpritePack.Scanline.Filter

namespace SpritePack

/-!
# Interlaced pictures

An interlaced picture is sent as seven smaller ones. Starting from every eighth
pixel of every eighth row, each further pass doubles the picture in one
direction: the passes bring, in turn, the odd columns and the odd rows of the
next finer grid. Putting the passes together is therefore six weavings, of
columns and of rows by turns.
-/

namespace Interlace

/-- The number of places `0, step, 2 * step, …` below `length`. -/
def gridSize (step length : Nat) : Nat :=
  (length + step - 1) / step

/-- The width and height of a pass's picture. -/
structure PassSize where
  width : Nat
  height : Nat
  deriving Repr, DecidableEq

/--
The sizes of the seven passes of a picture. The first is the coarsest grid; the
others are the odd columns or the odd rows of a grid, of which there are half
as many, rounded down.
-/
def passSizes (width height : Nat) : List PassSize := [
  ⟨gridSize 8 width, gridSize 8 height⟩,
  ⟨gridSize 4 width / 2, gridSize 8 height⟩,
  ⟨gridSize 4 width, gridSize 4 height / 2⟩,
  ⟨gridSize 2 width / 2, gridSize 4 height⟩,
  ⟨gridSize 2 width, gridSize 2 height / 2⟩,
  ⟨width / 2, gridSize 2 height⟩,
  ⟨width, height / 2⟩
]

/-- A picture as its rows of pixels. -/
abbrev Rows := List Bytes

/-- The picture of which the two given ones are the even and the odd columns. -/
def weaveColumns (evens odds : Rows) : Rows :=
  List.zipWith Traversal.weave evens odds

/-- The picture of which the two given ones are the even and the odd rows. -/
def weaveRows (evens odds : Rows) : Rows :=
  Traversal.weave evens odds

/-- The picture whose seven passes are given. -/
def assemble? : List Rows → Option Rows
  | [first, second, third, fourth, fifth, sixth, seventh] =>
      let quarterColumns := weaveColumns first second
      let quarterGrid := weaveRows quarterColumns third
      let halfColumns := weaveColumns quarterGrid fourth
      let halfGrid := weaveRows halfColumns fifth
      let allColumns := weaveColumns halfGrid sixth
      some (weaveRows allColumns seventh)
  | _ => none

/-- The even columns of a picture. -/
def evenColumns (rows : Rows) : Rows :=
  rows.map Traversal.evens

/-- The odd columns of a picture. -/
def oddColumns (rows : Rows) : Rows :=
  rows.map Traversal.odds

/-- The seven passes of a picture. -/
def split (rows : Rows) : List Rows :=
  let allColumns := Traversal.evens rows
  let halfGrid := evenColumns allColumns
  let halfColumns := Traversal.evens halfGrid
  let quarterGrid := evenColumns halfColumns
  let quarterColumns := Traversal.evens quarterGrid
  [
    evenColumns quarterColumns,
    oddColumns quarterColumns,
    Traversal.odds quarterGrid,
    oddColumns halfColumns,
    Traversal.odds halfGrid,
    oddColumns allColumns,
    Traversal.odds rows
  ]

/-- The columns of each row are put together again. -/
@[simp] theorem weaveColumns_even_odd
    (rows : Rows) :
    weaveColumns (evenColumns rows) (oddColumns rows) = rows := by
  induction rows with
  | nil => rfl
  | cons row rest inductionHypothesis =>
      simp only [weaveColumns, evenColumns, oddColumns, List.map_cons,
        List.zipWith_cons_cons, Traversal.weave_evens_odds] at inductionHypothesis ⊢
      rw [inductionHypothesis]

/-- The rows are put together again. -/
@[simp] theorem weaveRows_evens_odds
    (rows : Rows) :
    weaveRows (Traversal.evens rows) (Traversal.odds rows) = rows :=
  Traversal.weave_evens_odds rows

/-- The passes of a picture put it together again. -/
theorem assemble?_split
    (rows : Rows) :
    assemble? (split rows) = some rows := by
  simp [assemble?, split]

/--
Read a pass from the start of a stream of filtered scanlines. A pass without
pixels takes nothing from the stream.
-/
def readPass
    (depth : Nat)
    (size : PassSize)
    (stream : Bytes) :
    Option (Rows × Bytes) :=
  if size.width = 0 then
    some (List.replicate size.height [], stream)
  else do
    let (scanlines, rest) ←
      Scanline.readFiltered (Scanline.size depth size.width) size.height stream
    some (scanlines.map (Scanline.unpack depth size.width), rest)

/-- Read passes of the given sizes, one after the other. -/
def readPasses
    (depth : Nat) :
    List PassSize → Bytes → Option (List Rows)
  | [], _ => some []
  | size :: sizes, stream => do
      let (pass, rest) ← readPass depth size stream
      let passes ← readPasses depth sizes rest
      some (pass :: passes)

/-- The rows of pixels of an interlaced picture of the given size. -/
def read?
    (depth width height : Nat)
    (stream : Bytes) :
    Option Rows := do
  let passes ← readPasses depth (passSizes width height) stream
  assemble? passes

end Interlace

end SpritePack
