import SpritePack.Proofs.Traversal.Pieces
import SpritePack.Raster

namespace SpritePack

/-!
# The two ways to read a raster

Pixels are listed by their position, from which the column is the remainder and
the row the quotient by the width; a single index is read at `x + y * width`.
Both see the same picture, and positions rise from row to row and, within a
row, from left to right.  The rows of a raster are its indices cut at its width.
-/

/-- The column of a place, from its position. -/
theorem position_mod
    {width x : Nat}
    (inWidth : x < width)
    (y : Nat) :
    (x + y * width) % width = x := by
  rw [Nat.add_mul_mod_self_right, Nat.mod_eq_of_lt inWidth]

/-- The row of a place, from its position. -/
theorem position_div
    {width x : Nat}
    (inWidth : x < width)
    (y : Nat) :
    (x + y * width) / width = y := by
  have positive : 0 < width := Nat.zero_lt_of_lt inWidth
  rw [Nat.add_mul_div_right _ _ positive, Nat.div_eq_of_lt inWidth,
    Nat.zero_add]

/-- Every place of a row lies before every place of a later row. -/
theorem position_lt_of_row_lt
    {width x x' y y' : Nat}
    (inWidth : x < width)
    (earlierRow : y < y') :
    x + y * width < x' + y' * width := by
  have rowEnd : (y + 1) * width ≤ y' * width :=
    Nat.mul_le_mul_right width earlierRow
  rw [Nat.succ_mul] at rowEnd
  omega

/-- Positions are in the order of rows, and of columns within a row. -/
theorem position_lt_position_iff
    {width x x' y y' : Nat}
    (inWidth : x < width)
    (inWidth' : x' < width) :
    x + y * width < x' + y' * width ↔ y < y' ∨ y = y' ∧ x < x' := by
  constructor
  · intro before
    rcases Nat.lt_trichotomy y y' with earlierRow | sameRow | laterRow
    · exact .inl earlierRow
    · subst y'
      exact .inr ⟨rfl, by omega⟩
    · have after : x' + y' * width < x + y * width :=
        position_lt_of_row_lt inWidth' laterRow
      omega
  · rintro (earlierRow | ⟨rfl, further⟩)
    · exact position_lt_of_row_lt inWidth earlierRow
    · omega

namespace Raster

/-- A raster of plain indices counts as one of eight bits. -/
theorem bitDepth_of_ofIndices?
    {width height : Nat}
    {indices : Bytes}
    {palette : List Colour}
    {raster : Raster}
    (complete : ofIndices? width height indices palette = some raster) :
    raster.bitDepth = 8 := by
  unfold ofIndices? at complete
  split at complete
  · rw [← Option.some.inj complete]
  · cases complete

variable (raster : Raster)

@[simp] theorem length_pixels :
    raster.pixels.length = raster.indices.length := by
  simp [pixels]

theorem getElem_pixels
    (position : Nat)
    (inside : position < raster.pixels.length) :
    raster.pixels[position] =
      ⟨position % raster.width, position / raster.width,
        getElem raster.indices position
          (Nat.lt_of_lt_of_eq inside raster.length_pixels)⟩ := by
  simp [pixels]

/-- The column of a position lies inside the raster; in particular no width is zero. -/
theorem column_lt
    {position : Nat}
    (inside : position < raster.indices.length) :
    position % raster.width < raster.width := by
  apply Nat.mod_lt
  apply Nat.pos_of_ne_zero
  intro noWidth
  rw [raster.length_indices, noWidth, Nat.zero_mul] at inside
  exact Nat.not_lt_zero position inside

/-- The row of a position lies inside the raster. -/
theorem row_lt
    {position : Nat}
    (inside : position < raster.indices.length) :
    position / raster.width < raster.height := by
  apply Nat.div_lt_of_lt_mul
  rw [← raster.length_indices]
  exact inside

/-- The index at the column and row of a position is the one in that position. -/
theorem index_of_position
    {position : Nat}
    (inside : position < raster.indices.length) :
    raster.index (position % raster.width) (position / raster.width)
        (raster.column_lt inside) (raster.row_lt inside) =
      raster.indices[position] := by
  simp only [index, List.get_eq_getElem, Nat.mod_add_div']

/-- The pixel in the position of a place is the one that is read there. -/
theorem getElem_pixels_position
    {x y : Nat}
    (inWidth : x < raster.width)
    (inHeight : y < raster.height) :
    getElem raster.pixels (x + y * raster.width)
        (Nat.lt_of_lt_of_eq (raster.position_lt inWidth inHeight)
          raster.length_pixels.symm) =
      ⟨x, y, raster.index x y inWidth inHeight⟩ := by
  rw [getElem_pixels]
  simp only [position_mod inWidth, position_div inWidth, index,
    List.get_eq_getElem]

/-- A property of all listed indices is one of the indices at all places. -/
theorem forall_mem_indices_iff
    (property : UInt8 → Prop) :
    (∀ index ∈ raster.indices, property index) ↔
      ∀ x y (inWidth : x < raster.width) (inHeight : y < raster.height),
        property (raster.index x y inWidth inHeight) := by
  constructor
  · intro holds x y inWidth inHeight
    exact holds _ (List.get_mem ..)
  · intro holds index member
    obtain ⟨position, inside, rfl⟩ := List.mem_iff_getElem.mp member
    rw [← raster.index_of_position inside]
    exact holds ..

/-- A raster without width has no rows; any other has one for each line of its height. -/
theorem length_rows :
    raster.rows.length = if raster.width = 0 then 0 else raster.height := by
  have complete := raster.length_indices
  split
  next noWidth =>
    rw [noWidth, Nat.zero_mul] at complete
    rw [rows, List.eq_nil_of_length_eq_zero complete, Traversal.chunks_nil,
      List.length_nil]
  next someWidth =>
    rw [Nat.mul_comm] at complete
    exact (Traversal.chunks_full (Nat.pos_of_ne_zero someWidth) complete).1

theorem length_of_mem_rows
    {row : Bytes}
    (member : row ∈ raster.rows) :
    row.length = raster.width := by
  have complete := raster.length_indices
  rw [Nat.mul_comm] at complete
  have someWidth : raster.width ≠ 0 := by
    intro noWidth
    have noRows := raster.length_rows
    rw [if_pos noWidth] at noRows
    rw [List.eq_nil_of_length_eq_zero noRows] at member
    exact List.not_mem_nil member
  exact (Traversal.chunks_full (Nat.pos_of_ne_zero someWidth) complete).2
    row member

theorem length_rows_eq_height
    (widthPos : 0 < raster.width) :
    raster.rows.length = raster.height := by
  rw [length_rows, if_neg (Nat.ne_of_gt widthPos)]

theorem flatten_rows
    (widthPos : 0 < raster.width) :
    raster.rows.flatten = raster.indices :=
  Traversal.flatten_chunks widthPos raster.indices

/-- What holds of all indices holds of those in the rows. -/
theorem forall_mem_rows
    {property : UInt8 → Prop}
    (holds : ∀ index ∈ raster.indices, property index) :
    ∀ row ∈ raster.rows, ∀ index ∈ row, property index := by
  intro row inRows index inRow
  have widthPos : 0 < raster.width := by
    rw [← raster.length_of_mem_rows inRows]
    exact List.length_pos_of_mem inRow
  apply holds
  rw [← raster.flatten_rows widthPos]
  exact List.mem_flatten.mpr ⟨row, inRows, inRow⟩

/-- The pixels of a row stand in it by their columns. -/
theorem getElem?_row
    {x y : Nat}
    (inWidth : x < raster.width)
    (inHeight : y < raster.height) :
    (raster.rows[y]?.bind fun row => row[x]?) =
      some (raster.index x y inWidth inHeight) := by
  have positive : 0 < raster.width := Nat.zero_lt_of_lt inWidth
  have sized :=
    fun row (member : row ∈ raster.rows) => raster.length_of_mem_rows member
  rw [← Traversal.getElem?_flatten_of_sized sized y inWidth,
    raster.flatten_rows positive, Nat.add_comm]
  exact List.getElem?_eq_getElem (raster.position_lt inWidth inHeight)

end Raster

end SpritePack
