import SpritePack.Proofs.Png.Loading
import SpritePack.Proofs.Png.Safety
import SpritePack.Proofs.Raster.Pixels
import SpritePack.Raster.Access

namespace SpritePack

/-!
# Rasters within machine words

A product of two sizes may be too large for a word, but no more indices than a
word can count are ever held.  So the check of a raster's sizes is exact, and
every position that is computed in reading a raster is one of an index.
-/

/-- The order of pixels in a list: by rows, and from left to right within a row. -/
def Pixel.Before (first second : Pixel) : Prop :=
  first.y < second.y ∨ first.y = second.y ∧ first.x < second.x

namespace Raster

/-- What a raster is that was made of a list of indices. -/
structure MadeOf
    (raster : Raster)
    (width height : Nat)
    (indices : Bytes)
    (palette : List Colour) : Prop where
  width_eq : raster.width = width
  height_eq : raster.height = height
  bitDepth_eq : raster.bitDepth = 8
  indices_eq : raster.indices = indices
  palette_eq : raster.palette = palette

section Making

variable
  (width height : UInt64)
  (indices : IndexList)
  (palette : List Colour)

/-- A raster is made of words exactly if it can be made of numbers. -/
theorem ofWords_eq_ofIndices? :
    ofWords width height indices palette =
      match ofIndices? width.toNat height.toNat indices.bytes palette with
      | some raster => .ok raster
      | none =>
          .error
            (.pixelCount width.toNat height.toNat indices.bytes.length) := by
  rw [ofWords, ofIndices?]
  by_cases complete :
      indices.bytes.length = width.toNat * height.toNat
  · have product : Word.product? width height = some indices.count := by
      rw [Word.product?_eq_some_iff, indices.toNat_count, complete]
    rw [dif_pos product, dif_pos complete]
  · have noProduct : Word.product? width height ≠ some indices.count := by
      rw [Ne, Word.product?_eq_some_iff, indices.toNat_count]
      exact fun equal => complete equal.symm
    rw [dif_neg noProduct, dif_neg complete, indices.toNat_count]

variable {width height indices palette}

theorem ofWords_of_complete
    (palette : List Colour)
    (complete : width.toNat * height.toNat = indices.bytes.length) :
    ∃ raster,
      ofWords width height indices palette = .ok raster ∧
        raster.MadeOf width.toNat height.toNat indices.bytes palette := by
  rw [ofWords_eq_ofIndices?, ofIndices?, dif_pos complete.symm]
  exact ⟨_, rfl, ⟨rfl, rfl, rfl, rfl, rfl⟩⟩

theorem ofWords_of_incomplete
    (incomplete : width.toNat * height.toNat ≠ indices.bytes.length) :
    ofWords width height indices palette =
      .error
        (.pixelCount width.toNat height.toNat indices.bytes.length) := by
  rw [ofWords_eq_ofIndices?, ofIndices?, dif_neg incomplete.symm]

/-- The raster that is made is the one with the given parts. -/
theorem ofWords_eq_ok_iff
    {raster : Raster} :
    ofWords width height indices palette = .ok raster ↔
      raster.MadeOf width.toNat height.toNat indices.bytes palette := by
  by_cases complete : width.toNat * height.toNat = indices.bytes.length
  · obtain ⟨made, found, parts⟩ :=
      ofWords_of_complete palette complete
    rw [found, Except.ok.injEq]
    constructor
    · rintro rfl
      exact parts
    · intro same
      obtain ⟨width', height', depth', indices', palette', _⟩ := raster
      obtain ⟨rfl, rfl, rfl, rfl, rfl⟩ := same
      obtain ⟨width', height', depth', indices', palette', _⟩ := made
      obtain ⟨rfl, rfl, rfl, rfl, rfl⟩ := parts
      rfl
  · rw [ofWords_of_incomplete complete]
    constructor
    · rintro ⟨⟩
    · intro parts
      have all := raster.length_indices
      rw [parts.width_eq, parts.height_eq, parts.indices_eq] at all
      exact (complete all.symm).elim

end Making

section Reading

variable
  (raster : Raster)

/-- A pixel is listed exactly if its index is the one that is read at its place. -/
theorem mem_pixels_iff
    {pixel : Pixel} :
    pixel ∈ raster.pixels ↔
      ∃ (inWidth : pixel.x < raster.width) (inHeight : pixel.y < raster.height),
        pixel.index = raster.index pixel.x pixel.y inWidth inHeight := by
  constructor
  · intro member
    obtain ⟨position, inside, rfl⟩ := List.mem_iff_getElem.mp member
    have inIndices : position < raster.indices.length :=
      Nat.lt_of_lt_of_eq inside raster.length_pixels
    rw [getElem_pixels]
    exact
      ⟨raster.column_lt inIndices, raster.row_lt inIndices,
        (raster.index_of_position inIndices).symm⟩
  · rintro ⟨inWidth, inHeight, read⟩
    have listed := raster.getElem_pixels_position inWidth inHeight
    rw [← read] at listed
    exact List.mem_of_getElem listed

/-- The list goes on from left to right and from row to row. -/
theorem pairwise_before_pixels :
    raster.pixels.Pairwise Pixel.Before := by
  rw [List.pairwise_iff_getElem]
  intro position later inside laterInside before
  rw [length_pixels] at inside laterInside
  rw [getElem_pixels, getElem_pixels]
  apply
    (position_lt_position_iff (raster.column_lt inside)
      (raster.column_lt laterInside)).mp
  rw [Nat.mod_add_div', Nat.mod_add_div']
  exact before

/-- No position is divided by zero, for a raster without width has no positions. -/
theorem readPixels_eq_ok :
    raster.readPixels = .ok raster.pixels := by
  apply Scanline.mapM_eq_ok
  intro (index, position) member
  have inside : position < raster.indices.length :=
    (List.mem_zipIdx' member).1
  have someWidth : raster.width ≠ 0 :=
    Nat.ne_of_gt (Nat.zero_lt_of_lt (raster.column_lt inside))
  exact if_neg someWidth

variable (held : raster.indices.length < UInt64.size)

include held

/-- The position of a place is a word, and has an index. -/
theorem readIndex_eq_ok
    {x y : Nat}
    (inWidth : x < raster.width)
    (inHeight : y < raster.height) :
    raster.readIndex x y = .ok (raster.index x y inWidth inHeight) := by
  have inside := raster.position_lt inWidth inHeight
  have positionFits : x + y * raster.width < UInt64.size :=
    Nat.lt_trans inside held
  have beforeFits : y * raster.width < UInt64.size :=
    Nat.lt_of_le_of_lt (Nat.le_add_left _ x) positionFits
  have first : Word.fit (y * raster.width) = .ok (y * raster.width) :=
    if_pos beforeFits
  have second : Word.fit (x + y * raster.width) = .ok (x + y * raster.width) :=
    if_pos positionFits
  have found :
      raster.indices[x + y * raster.width]? =
        some (raster.index x y inWidth inHeight) :=
    List.getElem?_eq_getElem inside
  simp only [readIndex, first, second, found, bind, Except.bind]

end Reading

/-- The sizes of a loaded raster are words of 32 bits. -/
theorem size_lt_of_load
    {file : Bytes}
    {raster : Raster}
    (loaded : load file = .ok raster) :
    raster.width < 4294967296 ∧ raster.height < 4294967296 := by
  obtain ⟨opening, table, opens, _, _, read⟩ := exists_opening_of_load loaded
  obtain ⟨sound, _⟩ := Png.Prelude.sound_of_read? opens
  have within := sound.frameSize_within
  rw [Png.frameSize_of_readRaster? read] at within
  exact
    ⟨Nat.lt_of_le_of_lt within.width_le sound.valid.width_lt,
      Nat.lt_of_le_of_lt within.height_le sound.valid.height_lt⟩

/-- How a raster comes about: it is made of indices or loaded from a file. -/
inductive Obtained (raster : Raster) : Prop where
  | made
      {width height : UInt64}
      {indices : IndexList}
      {palette : List Colour}
      (made : ofWords width height indices palette = .ok raster) :
      Obtained raster
  | loaded
      {file : Bytes}
      (loaded : load file = .ok raster) :
      Obtained raster

/-- However it comes about, a raster has no more indices than a word can count. -/
theorem Obtained.length_lt
    {raster : Raster}
    (obtained : raster.Obtained) :
    raster.indices.length < UInt64.size := by
  cases obtained with
  | @made width height indices palette made =>
      rw [(ofWords_eq_ok_iff.mp made).indices_eq]
      exact indices.length_lt
  | loaded loaded =>
      obtain ⟨widthSmall, heightSmall⟩ := size_lt_of_load loaded
      calc
        raster.indices.length = raster.width * raster.height :=
          raster.length_indices
        _ ≤ 4294967295 * 4294967295 :=
          Nat.mul_le_mul (Nat.le_of_lt_succ widthSmall)
            (Nat.le_of_lt_succ heightSmall)
        _ < UInt64.size := by decide

/--
That listing a raster and reading it at a place see the same picture: the list has
each place of the rectangle once and in order, with the index that is read there,
and no step of either is one that cannot be taken.
-/
structure PathsAgree (raster : Raster) : Prop where
  listed : raster.readPixels = .ok raster.pixels
  ordered : raster.pixels.Pairwise Pixel.Before
  complete :
    ∀ x y,
      (∃ pixel ∈ raster.pixels, pixel.x = x ∧ pixel.y = y) ↔
        x < raster.width ∧ y < raster.height
  read :
    ∀ pixel ∈ raster.pixels,
      raster.readIndex pixel.x pixel.y = .ok pixel.index
  inRange :
    ∀ x y (inWidth : x < raster.width) (inHeight : y < raster.height),
      raster.readIndex x y = .ok (raster.index x y inWidth inHeight)

theorem pathsAgree
    (raster : Raster)
    (held : raster.indices.length < UInt64.size) :
    raster.PathsAgree where
  listed := raster.readPixels_eq_ok
  ordered := raster.pairwise_before_pixels
  complete x y := by
    constructor
    · rintro ⟨pixel, member, rfl, rfl⟩
      obtain ⟨inWidth, inHeight, _⟩ := raster.mem_pixels_iff.mp member
      exact ⟨inWidth, inHeight⟩
    · rintro ⟨inWidth, inHeight⟩
      exact
        ⟨⟨x, y, raster.index x y inWidth inHeight⟩,
          raster.mem_pixels_iff.mpr ⟨inWidth, inHeight, rfl⟩, rfl, rfl⟩
  read pixel member := by
    obtain ⟨inWidth, inHeight, read⟩ := raster.mem_pixels_iff.mp member
    rw [raster.readIndex_eq_ok held inWidth inHeight, read]
  inRange _ _ := raster.readIndex_eq_ok held

/--
A raster is made of a list of indices exactly if the exact product of its sizes is
their number, however large that product is, and the refusal names the three
numbers.  All rasters, made or loaded, are listed and read alike.
-/
theorem making_and_reading :
    (∀ (width height : UInt64) (indices : IndexList) (palette : List Colour),
      ((∃ raster, ofWords width height indices palette = .ok raster) ↔
        width.toNat * height.toNat = indices.bytes.length) ∧
      (∀ raster,
        ofWords width height indices palette = .ok raster ↔
          raster.MadeOf width.toNat height.toNat indices.bytes palette) ∧
      (∀ error,
        ofWords width height indices palette = .error error ↔
          width.toNat * height.toNat ≠ indices.bytes.length ∧
            error =
              .pixelCount width.toNat height.toNat indices.bytes.length) ∧
      (ofWords width height indices palette).toOption =
        ofIndices? width.toNat height.toNat indices.bytes palette) ∧
    ∀ raster : Raster, raster.Obtained → raster.PathsAgree := by
  refine ⟨?_, fun raster obtained => raster.pathsAgree obtained.length_lt⟩
  intro width height indices palette
  refine ⟨?_, fun raster => ofWords_eq_ok_iff, ?_, ?_⟩
  · constructor
    · rintro ⟨raster, made⟩
      have parts := ofWords_eq_ok_iff.mp made
      rw [← parts.width_eq, ← parts.height_eq, ← parts.indices_eq,
        raster.length_indices]
    · intro complete
      obtain ⟨raster, made, _⟩ := ofWords_of_complete palette complete
      exact ⟨raster, made⟩
  · intro error
    constructor
    · intro refused
      by_cases complete : width.toNat * height.toNat = indices.bytes.length
      · obtain ⟨raster, made, _⟩ :=
          ofWords_of_complete palette complete
        rw [made] at refused
        cases refused
      · rw [ofWords_of_incomplete complete] at refused
        cases refused
        exact ⟨complete, rfl⟩
    · rintro ⟨incomplete, rfl⟩
      exact ofWords_of_incomplete incomplete
  · rw [ofWords_eq_ofIndices?]
    cases
      ofIndices? width.toNat height.toNat indices.bytes palette with
    | none =>
        rfl
    | some raster =>
        rfl

/-- A product that a word would take for zero makes no raster; a small one does. -/
theorem making_and_reading_of_wrappedProduct :
    ofWords 0x100000000 0x100000000 ⟨[], by decide⟩ [] =
        .error (.pixelCount 4294967296 4294967296 0) ∧
      ∃ raster,
        ofWords 3 2 ⟨[0, 1, 2, 3, 0, 1], by decide⟩ [] = .ok raster ∧
          raster.PathsAgree := by
  obtain ⟨outcome, agreement⟩ := making_and_reading
  refine ⟨?_, ?_⟩
  · obtain ⟨_, _, refused, _⟩ :=
      outcome 0x100000000 0x100000000 ⟨[], by decide⟩ []
    exact (refused _).mpr ⟨by decide, rfl⟩
  · obtain ⟨accepted, _⟩ := outcome 3 2 ⟨[0, 1, 2, 3, 0, 1], by decide⟩ []
    obtain ⟨raster, made⟩ := accepted.mpr rfl
    exact ⟨raster, made, agreement raster (.made made)⟩

end Raster

end SpritePack
