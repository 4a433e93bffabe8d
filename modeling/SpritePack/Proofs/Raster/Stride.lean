import SpritePack.Proofs.Scanline.Access

namespace SpritePack

/-!
# Rasters at another stride

A buffer may have its scanlines further apart than they are long.  Whoever takes
them to follow each other without gaps finds each pixel at a place that belongs
to another one, or to none.  A raster is seen as it is if there are no gaps, or
no second row.
-/

namespace Raster

/-- The index at a coordinate, which is zero outside the rectangle. -/
def indexOrZero
    (raster : Raster)
    (x y : Nat) :
    UInt8 :=
  if inside : x < raster.width ∧ y < raster.height then
    raster.index x y inside.1 inside.2
  else
    0

/--
The index that is found at a coordinate if scanlines that start every `stride`
bytes are read as if they followed each other.
-/
def indexSeenAt
    (raster : Raster)
    (stride x y : Nat) :
    UInt8 :=
  let perByte := 8 / raster.bitDepth
  let place := x / perByte + y * Scanline.size raster.bitDepth raster.width
  raster.indexOrZero (place % stride * perByte + x % perByte) (place / stride)

/-- The raster that is seen if its scanlines start every `stride` bytes. -/
def seenAt
    (raster : Raster)
    (stride : Nat) :
    Raster :=
  { raster with
    indices :=
      (List.range (raster.width * raster.height)).map fun position =>
        raster.indexSeenAt stride (position % raster.width)
          (position / raster.width)
    length_indices := by
      rw [List.length_map, List.length_range] }

variable {raster : Raster}

theorem indexOrZero_of_lt
    {x y : Nat}
    (inWidth : x < raster.width)
    (inHeight : y < raster.height) :
    raster.indexOrZero x y = raster.index x y inWidth inHeight :=
  dif_pos ⟨inWidth, inHeight⟩

theorem indexOrZero_of_width_le
    {x : Nat}
    (beyond : raster.width ≤ x)
    (y : Nat) :
    raster.indexOrZero x y = 0 :=
  dif_neg fun inside => Nat.not_lt.mpr beyond inside.1

/-- Rows that are extended by zeros hold the indices at all coordinates. -/
theorem getD_rows
    (widthPos : 0 < raster.width)
    (x y : Nat) :
    (raster.rows.getD y []).getD x 0 = raster.indexOrZero x y := by
  have count := raster.length_rows_eq_height widthPos
  by_cases inHeight : y < raster.height
  · have inRows := Nat.lt_of_lt_of_eq inHeight count.symm
    have row := raster.length_of_mem_rows (List.getElem_mem inRows)
    rw [List.getD_eq_getElem _ _ inRows]
    by_cases inWidth : x < raster.width
    · have found := raster.getElem?_row inWidth inHeight
      rw [List.getElem?_eq_getElem inRows, Option.bind_some] at found
      rw [List.getD_eq_getElem?_getD, found, Option.getD_some,
        indexOrZero_of_lt inWidth inHeight]
    · have beyond := Nat.le_of_not_lt inWidth
      rw [indexOrZero_of_width_le beyond,
        List.getD_eq_default _ _ (Nat.le_trans (Nat.le_of_eq row) beyond)]
  · have beyond := Nat.le_of_not_lt inHeight
    rw [List.getD_eq_default _ _ (Nat.le_trans (Nat.le_of_eq count) beyond),
      List.getD_nil, indexOrZero, dif_neg fun inside => inHeight inside.2]

theorem index_seenAt
    (raster : Raster)
    (stride : Nat)
    {x y : Nat}
    (inWidth : x < raster.width)
    (inHeight : y < raster.height) :
    (raster.seenAt stride).index x y inWidth inHeight =
      raster.indexSeenAt stride x y := by
  simp only [index, seenAt, List.get_eq_getElem, List.getElem_map,
    List.getElem_range, position_mod inWidth, position_div inWidth]

/-- Indices are those of a raster if they stand at the positions of its coordinates. -/
theorem eq_indices
    (raster : Raster)
    {indices : Bytes}
    (complete : indices.length = raster.width * raster.height)
    (same :
      ∀ x y (inWidth : x < raster.width) (inHeight : y < raster.height),
        indices[x + y * raster.width]? =
          some (raster.index x y inWidth inHeight)) :
    indices = raster.indices := by
  apply List.ext_getElem
  · rw [complete, raster.length_indices]
  · intro position inside inside'
    have found := same _ _ (raster.column_lt inside') (raster.row_lt inside')
    rw [Nat.mod_add_div', List.getElem?_eq_getElem inside,
      raster.index_of_position inside'] at found
    exact Option.some.inj found

/-- A raster is seen as it is if every index is found at its own coordinate. -/
theorem seenAt_eq_self
    {stride : Nat}
    (same :
      ∀ x y (inWidth : x < raster.width) (inHeight : y < raster.height),
        raster.indexSeenAt stride x y = raster.index x y inWidth inHeight) :
    raster.seenAt stride = raster := by
  have indices : (raster.seenAt stride).indices = raster.indices := by
    apply raster.eq_indices (raster.seenAt stride).length_indices
    intro x y inWidth inHeight
    rw [← same, ← raster.index_seenAt stride inWidth inHeight]
    exact List.getElem?_eq_getElem ((raster.seenAt stride).position_lt inWidth inHeight)
  obtain ⟨width, height, bitDepth, _, palette, _⟩ := raster
  simp only [seenAt, mk.injEq, true_and, and_true] at indices ⊢
  exact indices

section Lines

variable
  (standard : raster.bitDepth ∈ Scanline.depths)
  (widthPos : 0 < raster.width)
  (small : ∀ index ∈ raster.indices, index.toNat < 2 ^ raster.bitDepth)

include standard widthPos small

/-- The pixels of the scanlines of a raster are its indices, with zeros on all sides. -/
theorem pixelIn_scanlines
    (row byte : Nat)
    {place : Nat}
    (inByte : place < 8 / raster.bitDepth) :
    Scanline.pixelIn raster.bitDepth
        (((raster.rows.map (Scanline.pack raster.bitDepth)).getD row []).getD
          byte 0)
        place =
      raster.indexOrZero (byte * (8 / raster.bitDepth) + place) row := by
  have rowSmall :
      ∀ index ∈ raster.rows.getD row [], index.toNat < 2 ^ raster.bitDepth := by
    by_cases inRows : row < raster.rows.length
    · rw [List.getD_eq_getElem _ _ inRows]
      exact
        raster.forall_mem_rows small _ (List.getElem_mem inRows)
    · rw [List.getD_eq_default _ _ (Nat.le_of_not_lt inRows)]
      exact fun _ member => (List.not_mem_nil member).elim
  rw [← Scanline.pack_nil, List.getD_map,
    Scanline.pixelIn_pack standard rowSmall byte inByte,
    raster.getD_rows widthPos]

/-- What is seen of a raster is what is read from a buffer of its spaced scanlines. -/
theorem unpackAll_spaced
    {stride : Nat}
    (wide : Scanline.size raster.bitDepth raster.width ≤ stride) :
    Scanline.unpackAll raster.bitDepth raster.width
        (Scanline.size raster.bitDepth raster.width) raster.height
        (Scanline.spaced stride
          (Scanline.size raster.bitDepth raster.width * raster.height)
          (raster.rows.map (Scanline.pack raster.bitDepth))) =
      (raster.seenAt stride).indices := by
  have lineSizePos := Scanline.size_pos standard widthPos
  have stridePos := Nat.lt_of_lt_of_le lineSizePos wide
  have narrow :
      ∀ scanline ∈ raster.rows.map (Scanline.pack raster.bitDepth),
        scanline.length ≤ stride := by
    intro scanline member
    rw [Scanline.length_of_mem_scanlines standard
      (fun _ inRows => raster.length_of_mem_rows inRows)
      (Scanline.holds_map_pack standard raster.rows) member]
    exact wide
  apply (raster.seenAt stride).eq_indices
  · exact Scanline.length_unpackAll standard widthPos Scanline.length_spaced
  · intro x y inWidth inHeight
    have inByte := Nat.mod_lt x (Scanline.pixelsPerByte_pos standard)
    have inRoom :
        x / (8 / raster.bitDepth) +
            y * Scanline.size raster.bitDepth raster.width <
          Scanline.size raster.bitDepth raster.width * raster.height := by
      rw [Nat.mul_comm (Scanline.size _ _), ← Nat.zero_add (raster.height * _)]
      exact
        position_lt_of_row_lt (Scanline.byte_lt standard inWidth) inHeight
    calc
      _ = some
            (Scanline.pixelIn raster.bitDepth
              ((Scanline.spaced stride
                  (Scanline.size raster.bitDepth raster.width * raster.height)
                  (raster.rows.map (Scanline.pack raster.bitDepth))).getD
                (x / (8 / raster.bitDepth) +
                  y * Scanline.size raster.bitDepth raster.width) 0)
              (x % (8 / raster.bitDepth))) :=
          Scanline.getElem?_unpackAll standard widthPos Scanline.length_spaced
            inWidth inHeight
      _ = some (raster.indexSeenAt stride x y) := by
          rw [List.getD_eq_getElem?_getD,
            Scanline.getElem?_spaced stridePos narrow inRoom, Option.getD_some,
            pixelIn_scanlines standard widthPos small _ _ inByte]
          rfl
      _ = some ((raster.seenAt stride).index x y inWidth inHeight) := by
          rw [raster.index_seenAt stride inWidth inHeight]

end Lines

section Agreement

/-- A place within the first line of a buffer is one of the first row. -/
theorem indexSeenAt_of_lt
    {stride x y : Nat}
    (first :
      x / (8 / raster.bitDepth) +
          y * Scanline.size raster.bitDepth raster.width < stride) :
    raster.indexSeenAt stride x y =
      raster.indexOrZero
        ((x / (8 / raster.bitDepth) +
            y * Scanline.size raster.bitDepth raster.width) *
          (8 / raster.bitDepth) + x % (8 / raster.bitDepth))
        0 := by
  rw [indexSeenAt, Nat.mod_eq_of_lt first, Nat.div_eq_of_lt first]

variable (standard : raster.bitDepth ∈ Scanline.depths)

include standard

/-- Scanlines without gaps are seen as they are. -/
theorem seenAt_size :
    raster.seenAt (Scanline.size raster.bitDepth raster.width) = raster := by
  apply seenAt_eq_self
  intro x y inWidth inHeight
  have inLine := Scanline.byte_lt standard inWidth
  rw [indexSeenAt, position_mod inLine, position_div inLine,
    Nat.div_add_mod', indexOrZero_of_lt inWidth inHeight]

/-- A single row is seen as it is, however far the next one would be. -/
theorem seenAt_of_height_eq_one
    {stride : Nat}
    (single : raster.height = 1)
    (wide : Scanline.size raster.bitDepth raster.width ≤ stride) :
    raster.seenAt stride = raster := by
  apply seenAt_eq_self
  intro x y inWidth inHeight
  obtain rfl : y = 0 := by
    omega
  have inLine := Scanline.byte_lt standard inWidth
  rw [indexSeenAt_of_lt (by omega), Nat.zero_mul, Nat.add_zero, Nat.div_add_mod',
    indexOrZero_of_lt inWidth inHeight]

/-- If there are gaps, the start of the second row is seen behind the end of the first. -/
theorem indexSeenAt_second_row
    {stride : Nat}
    (gap : Scanline.size raster.bitDepth raster.width < stride) :
    raster.indexSeenAt stride 0 1 = 0 := by
  have enough := (Scanline.size_bounds standard raster.width).1
  rw [indexSeenAt_of_lt (by simpa using gap)]
  apply indexOrZero_of_width_le
  simpa using enough

end Agreement

end Raster

end SpritePack
