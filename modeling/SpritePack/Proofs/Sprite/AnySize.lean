import SpritePack.Proofs.Raster.Access
import SpritePack.Proofs.Scanline.Access
import SpritePack.Proofs.Sprite.WellFormed

namespace SpritePack

/-!
# Packing rasters of any size

Packing does not depend on the size that sprites have.  At any width and height
each row is packed on its own, two neighbours to a byte, and a lone last column
is judged but not packed.  Reading the bitmap's pairs of pixels at their places
gives the same bytes, without a place that has no index.
-/

section Nibbles

/-- Unpacking gives back all pixels but a lone last one. -/
theorem unpackNibbles_packNibbles
    {pixels : Bytes}
    (small : ∀ pixel ∈ pixels, pixel.toNat < 16) :
    unpackNibbles (packNibbles pixels) =
      pixels.take (2 * (pixels.length / 2)) := by
  fun_induction packNibbles pixels with
  | case1 left right rest inductionHypothesis =>
      have restSmall : ∀ pixel ∈ rest, pixel.toNat < 16 :=
        fun pixel member => small pixel (by simp [member])
      have leftSmall := small left (by simp)
      have rightSmall := small right (by simp)
      have count :
          2 * ((left :: right :: rest).length / 2) =
            2 * (rest.length / 2) + 1 + 1 := by
        simp only [List.length_cons]
        omega
      have unfolded :
          unpackNibbles (((left <<< 4) ||| right) :: packNibbles rest) =
            (((left <<< 4) ||| right) >>> 4) ::
              (((left <<< 4) ||| right) &&& 15) ::
                unpackNibbles (packNibbles rest) :=
        rfl
      rw [unfolded, high_nibble leftSmall rightSmall,
        low_nibble leftSmall rightSmall, inductionHypothesis restSmall, count,
        List.take_succ_cons, List.take_succ_cons]
  | case2 pixels noPair =>
      have short := length_le_one_of_no_pair noPair
      have none : 2 * (pixels.length / 2) = 0 := by omega
      rw [none, List.take_zero]
      rfl

end Nibbles

namespace Raster

/--
What the bitmap of a raster is: half as many bytes to a row as the raster is wide,
and in each byte two neighbours of its row, the left one in the high bits.
-/
structure PacksInto
    (raster : Raster)
    (bitmap : Bytes) : Prop where
  length_eq :
    bitmap.length = raster.height * (raster.width / 2)
  pair :
    ∀ pair y (inWidth : 2 * pair + 1 < raster.width)
      (inHeight : y < raster.height),
      ∃ byte : UInt8,
        bitmap[y * (raster.width / 2) + pair]? = some byte ∧
          byte >>> 4 =
            raster.index (2 * pair) y (Nat.lt_of_succ_lt inWidth) inHeight ∧
          byte &&& 15 = raster.index (2 * pair + 1) y inWidth inHeight

variable {raster : Raster}

section Bitmaps

variable
  (small :
    ∀ x y (inWidth : x < raster.width) (inHeight : y < raster.height),
      (raster.index x y inWidth inHeight).toNat < 16)

include small

theorem packsInto_rows :
    raster.PacksInto (raster.rows.flatMap packNibbles) where
  length_eq := raster.length_bitmap
  pair _ _ inWidth inHeight :=
    ⟨_, raster.getElem?_bitmap inWidth inHeight,
      high_nibble (small _ _ _ _) (small _ _ _ _),
      low_nibble (small _ _ _ _) (small _ _ _ _)⟩

/-- Each row is unpacked up to a lone last pixel. -/
theorem unpackNibbles_rows :
    unpackNibbles (raster.rows.flatMap packNibbles) =
      raster.rows.flatMap (List.take (2 * (raster.width / 2))) := by
  have rowSmall :=
    raster.forall_mem_rows
      ((raster.forall_mem_indices_iff fun index => index.toNat < 16).mpr small)
  rw [unpackNibbles, List.flatMap_assoc]
  apply List.flatMap_congr
  intro row member
  have unpacked := unpackNibbles_packNibbles (rowSmall row member)
  rw [raster.length_of_mem_rows member] at unpacked
  exact unpacked

/-- At an even width the nibbles are all indices. -/
theorem unpackNibbles_rows_of_even
    (even : raster.width % 2 = 0) :
    unpackNibbles (raster.rows.flatMap packNibbles) = raster.indices := by
  have whole : 2 * (raster.width / 2) = raster.width := by omega
  have rowsWhole :
      ∀ row ∈ raster.rows, row.take raster.width = row := by
    intro row member
    exact List.take_of_length_le (Nat.le_of_eq (raster.length_of_mem_rows member))
  rw [unpackNibbles_rows small, whole, List.flatMap_def,
    List.map_congr_left rowsWhole, List.map_id']
  by_cases noWidth : raster.width = 0
  · have complete := raster.length_indices
    rw [noWidth, Nat.zero_mul] at complete
    have noRows := raster.length_rows
    rw [if_pos noWidth] at noRows
    rw [List.eq_nil_of_length_eq_zero complete,
      List.eq_nil_of_length_eq_zero noRows, List.flatten_nil]
  · exact raster.flatten_rows (Nat.pos_of_ne_zero noWidth)

/-- At an odd width the nibbles are all indices but those of the last column. -/
theorem unpackNibbles_rows_of_odd
    (odd : raster.width % 2 = 1) :
    unpackNibbles (raster.rows.flatMap packNibbles) =
      raster.rows.flatMap List.dropLast := by
  have allButOne : 2 * (raster.width / 2) = raster.width - 1 := by omega
  rw [unpackNibbles_rows small, allButOne]
  apply List.flatMap_congr
  intro row member
  rw [List.dropLast_eq_take, raster.length_of_mem_rows member]

end Bitmaps

section Outcomes

variable {colours : Nat}

theorem packBitmap_eq_error_iff
    {fault : SpriteFault} :
    raster.packBitmap colours = .error fault ↔
      ∃ pixel,
        raster.FirstBeyond colours pixel ∧
          fault = .indexOutOfRange pixel colours := by
  simp only [← firstOutOfRange?_eq_some_iff, packBitmap]
  cases raster.firstOutOfRange? colours with
  | none =>
      simp
  | some pixel =>
      simp [eq_comm]

theorem packBitmap_eq_ok_iff
    {bitmap : Bytes} :
    raster.packBitmap colours = .ok bitmap ↔
      (∀ x y (inWidth : x < raster.width) (inHeight : y < raster.height),
        (raster.index x y inWidth inHeight).toNat < colours) ∧
      bitmap = raster.rows.flatMap packNibbles := by
  simp only [← firstOutOfRange?_eq_none_iff, packBitmap]
  cases raster.firstOutOfRange? colours with
  | none =>
      simp [eq_comm]
  | some pixel =>
      simp

end Outcomes

/-- Every byte of a bitmap is that of a pair. -/
theorem exists_pair_of_position
    {position : Nat}
    (inside : position < raster.height * (raster.width / 2)) :
    ∃ pair y,
      2 * pair + 1 < raster.width ∧
        y < raster.height ∧
        position = y * (raster.width / 2) + pair := by
  have halfPos : 0 < raster.width / 2 :=
    Nat.pos_of_mul_pos_left (Nat.zero_lt_of_lt inside)
  have pairInside := Nat.mod_lt position halfPos
  refine
    ⟨position % (raster.width / 2), position / (raster.width / 2), by omega,
      Nat.div_lt_of_lt_mul (Nat.mul_comm _ _ ▸ inside), ?_⟩
  rw [Nat.mul_comm]
  exact (Nat.div_add_mod ..).symm

/-- No two bitmaps hold the same pairs. -/
theorem PacksInto.unique
    {first second : Bytes}
    (isFirst : raster.PacksInto first)
    (isSecond : raster.PacksInto second) :
    first = second := by
  apply List.ext_getElem?
  intro position
  by_cases inside : position < raster.height * (raster.width / 2)
  · obtain ⟨pair, y, inWidth, inHeight, rfl⟩ := exists_pair_of_position inside
    obtain ⟨byte, found, high, low⟩ := isFirst.pair _ _ inWidth inHeight
    obtain ⟨byte', found', high', low'⟩ := isSecond.pair _ _ inWidth inHeight
    rw [found, found', ← pack_nibbles byte, ← pack_nibbles byte', high, low,
      high', low']
  · rw [List.getElem?_eq_none (by rw [isFirst.length_eq]; omega),
      List.getElem?_eq_none (by rw [isSecond.length_eq]; omega)]

section Reading

/-- The pairs of a row. -/
theorem length_pairs_row
    (y : Nat) :
    ((List.range (raster.width / 2)).map fun pair => (2 * pair, y)).length =
      raster.width / 2 := by
  rw [List.length_map, List.length_range]

theorem length_pairs :
    raster.pairs.length = raster.height * (raster.width / 2) := by
  rw [pairs, Traversal.length_flatMap_of_sized fun y _ => length_pairs_row y,
    List.length_range]

/-- The pairs are listed in the order of the bitmap's bytes. -/
theorem getElem?_pairs
    {pair y : Nat}
    (inWidth : pair < raster.width / 2)
    (inHeight : y < raster.height) :
    raster.pairs[y * (raster.width / 2) + pair]? = some (2 * pair, y) := by
  rw [pairs,
    Traversal.getElem?_flatMap_of_sized (fun y _ => length_pairs_row y) y
      inWidth,
    List.getElem?_range inHeight, Option.bind_some, List.getElem?_map,
    List.getElem?_range inWidth, Option.map_some]

theorem mem_pairs
    {x y : Nat}
    (member : (x, y) ∈ raster.pairs) :
    ∃ pair, x = 2 * pair ∧ 2 * pair + 1 < raster.width ∧ y < raster.height := by
  obtain ⟨y, inHeight, inRow⟩ := List.mem_flatMap.mp member
  obtain ⟨pair, inWidth, equal⟩ := List.mem_map.mp inRow
  obtain ⟨rfl, rfl⟩ := Prod.mk.inj equal
  have pairInside := List.mem_range.mp inWidth
  exact ⟨pair, rfl, by omega, List.mem_range.mp inHeight⟩

/-- The byte of a pair is the one that the bitmap has in the pair's place. -/
theorem readPair_eq_ok
    (held : raster.indices.length < UInt64.size)
    {pair y : Nat}
    (inWidth : 2 * pair + 1 < raster.width)
    (inHeight : y < raster.height) :
    raster.readPair (2 * pair) y =
      .ok
        ((raster.rows.flatMap packNibbles).getD
          (y * (raster.width / 2) + pair) 0) := by
  have left := raster.readIndex_eq_ok held (Nat.lt_of_succ_lt inWidth) inHeight
  have right := raster.readIndex_eq_ok held inWidth inHeight
  rw [List.getD_eq_getElem?_getD, raster.getElem?_bitmap inWidth inHeight,
    Option.getD_some]
  simp only [readPair, left, right, bind, Except.bind]

/-- Reading pair after pair gives the bitmap. -/
theorem mapM_readPair
    (held : raster.indices.length < UInt64.size) :
    (raster.pairs.mapM fun (x, y) => raster.readPair x y) =
      .ok (raster.rows.flatMap packNibbles) := by
  have read :
      ∀ place ∈ raster.pairs,
        raster.readPair place.1 place.2 =
          .ok
            ((raster.rows.flatMap packNibbles).getD
              (place.2 * (raster.width / 2) + place.1 / 2) 0) := by
    rintro ⟨x, y⟩ member
    obtain ⟨pair, rfl, inWidth, inHeight⟩ := mem_pairs member
    rw [Nat.mul_div_cancel_left pair (by decide)]
    exact readPair_eq_ok held inWidth inHeight
  rw [Scanline.mapM_eq_ok read]
  apply congrArg
  apply List.ext_getElem?
  intro position
  by_cases inside : position < raster.height * (raster.width / 2)
  · obtain ⟨pair, y, inWidth, inHeight, rfl⟩ := exists_pair_of_position inside
    have pairInside : pair < raster.width / 2 := by omega
    have packed := raster.getElem?_bitmap inWidth inHeight
    rw [List.getElem?_map, getElem?_pairs pairInside inHeight, Option.map_some]
    dsimp only
    rw [Nat.mul_div_cancel_left pair (by decide),
      List.getD_eq_getElem?_getD, packed, Option.getD_some]
  · rw [List.getElem?_eq_none (by rw [List.length_map, length_pairs]; omega),
      List.getElem?_eq_none (by rw [raster.length_bitmap]; omega)]

theorem readBitmap_eq_ok
    (held : raster.indices.length < UInt64.size)
    (colours : Nat) :
    raster.readBitmap colours = .ok (raster.packBitmap colours) := by
  simp only [readBitmap, raster.readPixels_eq_ok, bind, Except.bind, packBitmap,
    firstOutOfRange?]
  cases raster.pixels.find? fun pixel => decide (colours ≤ pixel.index.toNat) with
  | some pixel =>
      rfl
  | none =>
      dsimp only
      rw [mapM_readPair held]

end Reading

/--
The exact outcome of packing a raster of any size.  It fails exactly if some pixel
is beyond the colours, and names the first one; otherwise each byte holds its pair
of neighbours, so that the nibbles are all indices, but for those of a lone last
column.  Reading the pairs at their places takes no step that cannot be taken.
-/
theorem packBitmap_outcome
    (raster : Raster)
    {colours : Nat}
    (few : colours ≤ 16) :
    (∀ fault,
      raster.packBitmap colours = .error fault ↔
        ∃ pixel,
          raster.FirstBeyond colours pixel ∧
            fault = .indexOutOfRange pixel colours) ∧
    ((∃ fault, raster.packBitmap colours = .error fault) ↔
      ∃ x y, ∃ (inWidth : x < raster.width) (inHeight : y < raster.height),
        colours ≤ (raster.index x y inWidth inHeight).toNat) ∧
    ((∃ bitmap, raster.packBitmap colours = .ok bitmap) ↔
      ∀ x y (inWidth : x < raster.width) (inHeight : y < raster.height),
        (raster.index x y inWidth inHeight).toNat < colours) ∧
    (∀ bitmap,
      raster.packBitmap colours = .ok bitmap →
        raster.PacksInto bitmap ∧
          (∀ other, raster.PacksInto other → other = bitmap) ∧
          (raster.width % 2 = 0 → unpackNibbles bitmap = raster.indices) ∧
          (raster.width % 2 = 1 →
            unpackNibbles bitmap = raster.rows.flatMap List.dropLast)) ∧
    (raster.indices.length < UInt64.size →
      raster.readBitmap colours = .ok (raster.packBitmap colours)) := by
  refine ⟨fun _ => packBitmap_eq_error_iff, ?_, ?_, ?_, ?_⟩
  · constructor
    · rintro ⟨fault, refused⟩
      obtain ⟨pixel, first, _⟩ := packBitmap_eq_error_iff.mp refused
      refine ⟨pixel.x, pixel.y, first.inWidth, first.inHeight, ?_⟩
      rw [← first.index_eq]
      exact first.beyond
    · rintro ⟨x, y, inWidth, inHeight, beyond⟩
      obtain ⟨pixel, first⟩ := raster.exists_firstBeyond inWidth inHeight beyond
      exact ⟨_, packBitmap_eq_error_iff.mpr ⟨pixel, first, rfl⟩⟩
  · constructor
    · rintro ⟨bitmap, packed⟩
      exact (packBitmap_eq_ok_iff.mp packed).1
    · intro inRange
      exact ⟨_, packBitmap_eq_ok_iff.mpr ⟨inRange, rfl⟩⟩
  · intro bitmap packed
    obtain ⟨inRange, rfl⟩ := packBitmap_eq_ok_iff.mp packed
    have small :
        ∀ x y (inWidth : x < raster.width) (inHeight : y < raster.height),
          (raster.index x y inWidth inHeight).toNat < 16 :=
      fun x y inWidth inHeight =>
        Nat.lt_of_lt_of_le (inRange x y inWidth inHeight) few
    have packs := packsInto_rows small
    exact
      ⟨packs, fun other isOther => isOther.unique packs,
        unpackNibbles_rows_of_even small, unpackNibbles_rows_of_odd small⟩
  · intro held
    exact readBitmap_eq_ok held colours

/-- A raster of three columns, the last of which has no neighbour. -/
def threeColumns : Raster where
  width := 3
  height := 2
  bitDepth := 8
  indices := [1, 2, 3, 4, 5, 6]
  palette := []
  length_indices := rfl

/-- The lone column is not packed, and no pixel of it with one of the next row. -/
theorem packBitmap_outcome_of_threeColumns :
    7 ≤ 16 ∧
      ∃ bitmap,
        threeColumns.packBitmap 7 = .ok bitmap ∧
          threeColumns.PacksInto bitmap ∧
          unpackNibbles bitmap = [1, 2, 4, 5] := by
  have rows : threeColumns.rows = [[1, 2, 3], [4, 5, 6]] := by
    simp [Raster.rows, threeColumns, Traversal.chunks_eq_cons]
  have few : 7 ≤ 16 := by decide
  obtain ⟨_, _, accepted, packed, _⟩ :=
    threeColumns.packBitmap_outcome few
  have small :
      ∀ index ∈ threeColumns.indices, index.toNat < 7 := by
    simp [threeColumns]
  obtain ⟨bitmap, found⟩ :=
    accepted.mpr
      ((threeColumns.forall_mem_indices_iff fun index => index.toNat < 7).mp
        small)
  obtain ⟨packs, _, _, odd⟩ := packed bitmap found
  have unpacked := odd rfl
  rw [rows] at unpacked
  exact ⟨few, bitmap, found, packs, unpacked⟩

end Raster

end SpritePack
