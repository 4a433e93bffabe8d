import SpritePack.Proofs.Sprite.Bitmap

namespace SpritePack

/-!
# What makes a raster a sprite

Storing a raster judges its size, then the number of its colours, then its
pixels.  A raster may be wrong in all three ways at once, so what is reported is
settled by that order and, among the pixels, by the order of rows.  Once all
three are right the packed parts have their sizes, and nothing else can fail.
-/

namespace Raster

/-- The first pixel, row by row and from left to right, that no colour belongs to. -/
structure FirstBeyond
    (raster : Raster)
    (colours : Nat)
    (pixel : Pixel) : Prop where
  inWidth : pixel.x < raster.width
  inHeight : pixel.y < raster.height
  index_eq :
    pixel.index = raster.index pixel.x pixel.y inWidth inHeight
  beyond :
    colours ≤ pixel.index.toNat
  earlier :
    ∀ x y (inWidth : x < raster.width) (inHeight : y < raster.height),
      y < pixel.y ∨ y = pixel.y ∧ x < pixel.x →
      (raster.index x y inWidth inHeight).toNat < colours

namespace FirstBeyond

variable {raster : Raster} {colours : Nat}

/-- No pixel beyond the colours comes before the first one. -/
theorem not_before
    {first second : Pixel}
    (isFirst : raster.FirstBeyond colours first)
    (isSecond : raster.FirstBeyond colours second) :
    ¬ (second.y < first.y ∨ second.y = first.y ∧ second.x < first.x) := by
  intro before
  have inRange :=
    isFirst.earlier second.x second.y isSecond.inWidth isSecond.inHeight before
  rw [← isSecond.index_eq] at inRange
  exact Nat.not_lt.mpr isSecond.beyond inRange

/-- A raster has at most one first pixel beyond the colours. -/
theorem unique
    {first second : Pixel}
    (isFirst : raster.FirstBeyond colours first)
    (isSecond : raster.FirstBeyond colours second) :
    first = second := by
  have notAfter := isFirst.not_before isSecond
  have notBefore := isSecond.not_before isFirst
  have sameRow : first.y = second.y := by
    omega
  have sameColumn : first.x = second.x := by
    omega
  obtain ⟨x, y, index⟩ := first
  obtain ⟨x', y', index'⟩ := second
  obtain rfl : x = x' := sameColumn
  obtain rfl : y = y' := sameRow
  have sameIndex : index = index' :=
    isFirst.index_eq.trans isSecond.index_eq.symm
  rw [sameIndex]

end FirstBeyond

variable (raster : Raster) {colours : Nat}

/--
The search through the list of pixels finds the first one in the order of
places: its position splits the places of the raster into earlier and later.
-/
theorem firstOutOfRange?_eq_some_iff
    {pixel : Pixel} :
    raster.firstOutOfRange? colours = some pixel ↔
      raster.FirstBeyond colours pixel := by
  rw [firstOutOfRange?, List.find?_eq_some_iff_getElem]
  constructor
  · rintro ⟨beyond, position, inside, rfl, before⟩
    have inIndices : position < raster.indices.length := by
      rw [← raster.length_pixels]
      exact inside
    rw [getElem_pixels] at beyond ⊢
    refine ⟨raster.column_lt inIndices, raster.row_lt inIndices,
      (raster.index_of_position inIndices).symm,
      of_decide_eq_true beyond, ?_⟩
    intro x y inWidth inHeight earlier
    have positionBefore :
        x + y * raster.width < position := by
      rw [← Nat.mod_add_div' position raster.width]
      exact (position_lt_position_iff inWidth
        (raster.column_lt inIndices)).mpr earlier
    have inRange := before _ positionBefore
    rw [raster.getElem_pixels_position inWidth inHeight] at inRange
    simpa using inRange
  · intro first
    refine ⟨decide_eq_true first.beyond, pixel.x + pixel.y * raster.width, ?_,
      ?_, ?_⟩
    · rw [length_pixels]
      exact raster.position_lt first.inWidth first.inHeight
    · rw [raster.getElem_pixels_position first.inWidth first.inHeight,
        ← first.index_eq]
    · intro position before
      have inIndices : position < raster.indices.length :=
        Nat.lt_trans before (raster.position_lt first.inWidth first.inHeight)
      rw [← Nat.mod_add_div' position raster.width] at before
      have earlier :=
        (position_lt_position_iff (raster.column_lt inIndices)
          first.inWidth).mp before
      have inRange :=
        first.earlier _ _ (raster.column_lt inIndices)
          (raster.row_lt inIndices) earlier
      rw [raster.index_of_position inIndices] at inRange
      rw [getElem_pixels]
      simpa using inRange

theorem firstOutOfRange?_eq_none_iff :
    raster.firstOutOfRange? colours = none ↔
      ∀ x y (inWidth : x < raster.width) (inHeight : y < raster.height),
        (raster.index x y inWidth inHeight).toNat < colours := by
  rw [← raster.forall_mem_indices_iff fun index => index.toNat < colours,
    firstOutOfRange?, List.find?_eq_none]
  constructor
  · intro none index member
    obtain ⟨position, inside, rfl⟩ := List.mem_iff_getElem.mp member
    have inPixels : position < raster.pixels.length := by
      rw [length_pixels]
      exact inside
    have inRange := none _ (List.getElem_mem inPixels)
    rw [getElem_pixels] at inRange
    simpa using inRange
  · intro inRange pixel member
    obtain ⟨position, inside, rfl⟩ := List.mem_iff_getElem.mp member
    rw [getElem_pixels]
    simpa using inRange _ (List.getElem_mem _)

/-- Some pixel is the first beyond the colours if any is beyond them. -/
theorem exists_firstBeyond
    {x y : Nat}
    (inWidth : x < raster.width)
    (inHeight : y < raster.height)
    (beyond : colours ≤ (raster.index x y inWidth inHeight).toNat) :
    ∃ pixel, raster.FirstBeyond colours pixel := by
  cases found : raster.firstOutOfRange? colours with
  | none =>
      have inRange :=
        (raster.firstOutOfRange?_eq_none_iff).mp found x y inWidth inHeight
      exact (Nat.not_lt.mpr beyond inRange).elim
  | some pixel =>
      exact ⟨pixel, (raster.firstOutOfRange?_eq_some_iff).mp found⟩

end Raster

/-- A stored palette takes two bytes for each colour. -/
theorem length_flatMap_toBytes
    (colours : List Colour) :
    (colours.flatMap Colour.toBytes).length = colours.length * 2 :=
  Traversal.length_flatMap_of_sized fun _ _ => rfl

namespace Raster

/-- The size that only sprites have. -/
def SpriteSized (raster : Raster) : Prop :=
  raster.width = 64 ∧ raster.height = 128

/-- The parts of a raster as a sprite stores them. -/
def packed (raster : Raster) : Sprite where
  bitmap := raster.rows.flatMap packNibbles
  palette := raster.palette.flatMap Colour.toBytes

/-- Every way that storing a raster can end, with what has been found by then. -/
inductive Verdict (raster : Raster) : Except SpriteFault Sprite → Prop where
  | invalidDimensions
      (missized : ¬ raster.SpriteSized) :
      Verdict raster
        (.error (.invalidDimensions raster.width raster.height))
  | tooManyColours
      (sized : raster.SpriteSized)
      (many : 16 < raster.palette.length) :
      Verdict raster (.error (.tooManyColours raster.palette.length))
  | indexOutOfRange
      (sized : raster.SpriteSized)
      (few : raster.palette.length ≤ 16)
      {pixel : Pixel}
      (first : raster.FirstBeyond raster.palette.length pixel) :
      Verdict raster
        (.error (.indexOutOfRange pixel raster.palette.length))
  | stored
      (sized : raster.SpriteSized)
      (few : raster.palette.length ≤ 16)
      (inRange :
        ∀ x y (inWidth : x < raster.width) (inHeight : y < raster.height),
          (raster.index x y inWidth inHeight).toNat < raster.palette.length) :
      Verdict raster (.ok raster.packed)

/-- The parts of a raster of the right size, with few colours, have their sizes. -/
theorem ofParts_packed
    {raster : Raster}
    (sized : raster.SpriteSized)
    (few : raster.palette.length ≤ 16) :
    Sprite.ofParts (raster.rows.flatMap packNibbles)
        (raster.palette.flatMap Colour.toBytes) =
      .ok raster.packed := by
  have bitmapSized :
      (raster.rows.flatMap packNibbles).length = bitmapBytes := by
    rw [length_bitmap, sized.1, sized.2]
    rfl
  have paletteSized :
      ¬ maxPaletteBytes < (raster.palette.flatMap Colour.toBytes).length := by
    rw [length_flatMap_toBytes, maxPaletteBytes, maxPaletteColours]
    omega
  rw [Sprite.ofParts, if_neg (not_not_intro bitmapSized), if_neg paletteSized]
  rfl

theorem verdict_toSprite
    (raster : Raster) :
    raster.Verdict raster.toSprite := by
  unfold toSprite
  split
  next sized =>
    unfold Palette.ofColours?
    by_cases few : raster.palette.length ≤ maxPaletteColours
    · rw [dif_pos few]
      simp only [Palette.size, Palette.toBytes, packBitmap]
      cases found : raster.firstOutOfRange? raster.palette.length with
      | some pixel =>
          exact .indexOutOfRange sized few
            ((raster.firstOutOfRange?_eq_some_iff).mp found)
      | none =>
          simp only
          rw [ofParts_packed sized few]
          exact .stored sized few
            ((raster.firstOutOfRange?_eq_none_iff).mp found)
    · rw [dif_neg few]
      exact .tooManyColours sized (Nat.lt_of_not_le few)
  next missized =>
    exact .invalidDimensions missized

/-- A sprite that is stored holds the packed parts of its raster. -/
theorem eq_packed_of_toSprite
    {raster : Raster}
    {sprite : Sprite}
    (accepted : raster.toSprite = .ok sprite) :
    raster.SpriteSized ∧
      raster.palette.length ≤ 16 ∧
      (∀ x y (inWidth : x < raster.width) (inHeight : y < raster.height),
        (raster.index x y inWidth inHeight).toNat < raster.palette.length) ∧
      sprite = raster.packed := by
  have verdict := raster.verdict_toSprite
  rw [accepted] at verdict
  cases verdict with
  | stored sized few inRange =>
      exact ⟨sized, few, inRange, rfl⟩

theorem toSprite_of_missized
    {raster : Raster}
    (missized : ¬ raster.SpriteSized) :
    raster.toSprite =
      .error (.invalidDimensions raster.width raster.height) := by
  have verdict := raster.verdict_toSprite
  generalize raster.toSprite = outcome at verdict
  cases verdict with
  | invalidDimensions =>
      rfl
  | tooManyColours sized | indexOutOfRange sized | stored sized =>
      exact (missized sized).elim

theorem toSprite_of_many
    {raster : Raster}
    (sized : raster.SpriteSized)
    (many : 16 < raster.palette.length) :
    raster.toSprite = .error (.tooManyColours raster.palette.length) := by
  have verdict := raster.verdict_toSprite
  generalize raster.toSprite = outcome at verdict
  cases verdict with
  | invalidDimensions missized =>
      exact (missized sized).elim
  | tooManyColours =>
      rfl
  | indexOutOfRange _ few | stored _ few =>
      exact (Nat.not_lt.mpr few many).elim

theorem toSprite_of_firstBeyond
    {raster : Raster}
    (sized : raster.SpriteSized)
    (few : raster.palette.length ≤ 16)
    {pixel : Pixel}
    (first : raster.FirstBeyond raster.palette.length pixel) :
    raster.toSprite =
      .error (.indexOutOfRange pixel raster.palette.length) := by
  have verdict := raster.verdict_toSprite
  generalize raster.toSprite = outcome at verdict
  cases verdict with
  | invalidDimensions missized =>
      exact (missized sized).elim
  | tooManyColours _ many =>
      exact (Nat.not_lt.mpr few many).elim
  | indexOutOfRange _ _ found =>
      rw [found.unique first]
  | stored _ _ inRange =>
      have below := inRange pixel.x pixel.y first.inWidth first.inHeight
      rw [← first.index_eq] at below
      exact (Nat.not_lt.mpr first.beyond below).elim

/-- A raster of the right size, with few colours and all pixels among them, is stored. -/
theorem toSprite_eq_ok
    {raster : Raster}
    (sized : raster.SpriteSized)
    (few : raster.palette.length ≤ 16)
    (inRange :
      ∀ x y (inWidth : x < raster.width) (inHeight : y < raster.height),
        (raster.index x y inWidth inHeight).toNat < raster.palette.length) :
    raster.toSprite = .ok raster.packed := by
  have verdict := raster.verdict_toSprite
  generalize raster.toSprite = outcome at verdict
  cases verdict with
  | invalidDimensions missized =>
      exact (missized sized).elim
  | tooManyColours _ many =>
      exact (Nat.not_lt.mpr few many).elim
  | indexOutOfRange _ _ first =>
      have below := inRange _ _ first.inWidth first.inHeight
      rw [← first.index_eq] at below
      exact (Nat.not_lt.mpr first.beyond below).elim
  | stored =>
      rfl

section Outcomes

variable (raster : Raster)

theorem toSprite_eq_invalidDimensions_iff
    (width height : Nat) :
    raster.toSprite = .error (.invalidDimensions width height) ↔
      ¬ raster.SpriteSized ∧
        width = raster.width ∧ height = raster.height := by
  have verdict := raster.verdict_toSprite
  constructor
  · intro reported
    rw [reported] at verdict
    cases verdict with
    | invalidDimensions missized =>
        exact ⟨missized, rfl, rfl⟩
  · rintro ⟨missized, rfl, rfl⟩
    exact toSprite_of_missized missized

theorem toSprite_eq_tooManyColours_iff
    (count : Nat) :
    raster.toSprite = .error (.tooManyColours count) ↔
      raster.SpriteSized ∧
        16 < raster.palette.length ∧ count = raster.palette.length := by
  have verdict := raster.verdict_toSprite
  constructor
  · intro reported
    rw [reported] at verdict
    cases verdict with
    | tooManyColours sized many =>
        exact ⟨sized, many, rfl⟩
  · rintro ⟨sized, many, rfl⟩
    exact toSprite_of_many sized many

theorem toSprite_eq_indexOutOfRange_iff
    (pixel : Pixel)
    (colours : Nat) :
    raster.toSprite = .error (.indexOutOfRange pixel colours) ↔
      raster.SpriteSized ∧
        raster.palette.length ≤ 16 ∧
        raster.FirstBeyond raster.palette.length pixel ∧
        colours = raster.palette.length := by
  have verdict := raster.verdict_toSprite
  constructor
  · intro reported
    rw [reported] at verdict
    cases verdict with
    | indexOutOfRange sized few first =>
        exact ⟨sized, few, first, rfl⟩
  · rintro ⟨sized, few, first, rfl⟩
    exact toSprite_of_firstBeyond sized few first

/-- Some pixel is reported as soon as there is one to report. -/
theorem exists_toSprite_eq_indexOutOfRange_iff :
    (∃ pixel colours,
      raster.toSprite = .error (.indexOutOfRange pixel colours)) ↔
      raster.SpriteSized ∧
        raster.palette.length ≤ 16 ∧
        ∃ x y, ∃ (inWidth : x < raster.width) (inHeight : y < raster.height),
          raster.palette.length ≤
            (raster.index x y inWidth inHeight).toNat := by
  constructor
  · rintro ⟨pixel, colours, reported⟩
    obtain ⟨sized, few, first, _⟩ :=
      (raster.toSprite_eq_indexOutOfRange_iff pixel colours).mp reported
    refine ⟨sized, few, pixel.x, pixel.y,
      first.inWidth, first.inHeight, ?_⟩
    rw [← first.index_eq]
    exact first.beyond
  · rintro ⟨sized, few, x, y, inWidth, inHeight, beyond⟩
    obtain ⟨pixel, first⟩ :=
      raster.exists_firstBeyond inWidth inHeight beyond
    exact ⟨pixel, _, toSprite_of_firstBeyond sized few first⟩

theorem exists_toSprite_eq_ok_iff :
    (∃ sprite, raster.toSprite = .ok sprite) ↔
      raster.SpriteSized ∧
        raster.palette.length ≤ 16 ∧
        ∀ x y (inWidth : x < raster.width) (inHeight : y < raster.height),
          (raster.index x y inWidth inHeight).toNat <
            raster.palette.length := by
  constructor
  · rintro ⟨sprite, accepted⟩
    obtain ⟨sized, few, inRange, _⟩ := eq_packed_of_toSprite accepted
    exact ⟨sized, few, inRange⟩
  · rintro ⟨sized, few, inRange⟩
    exact ⟨_, toSprite_eq_ok sized few inRange⟩

theorem toSprite_ne_partSize
    (part : SpritePart)
    (expected actual : Nat) :
    raster.toSprite ≠ .error (.partSize part expected actual) := by
  intro reported
  have verdict := raster.verdict_toSprite
  rw [reported] at verdict
  cases verdict

end Outcomes

/--
The exact outcome of storing a raster.  Each fault is reported in exactly one
situation, with what it is about; a pixel without a colour is the first of its
kind; a raster without any of the three faults is stored, and no part ever has
a wrong size.
-/
theorem toSprite_outcome
    (raster : Raster) :
    (∀ width height,
      raster.toSprite = .error (.invalidDimensions width height) ↔
        ¬ raster.SpriteSized ∧
          width = raster.width ∧ height = raster.height) ∧
    (∀ count,
      raster.toSprite = .error (.tooManyColours count) ↔
        raster.SpriteSized ∧
          16 < raster.palette.length ∧ count = raster.palette.length) ∧
    (∀ pixel colours,
      raster.toSprite = .error (.indexOutOfRange pixel colours) ↔
        raster.SpriteSized ∧
          raster.palette.length ≤ 16 ∧
          raster.FirstBeyond raster.palette.length pixel ∧
          colours = raster.palette.length) ∧
    ((∃ pixel colours,
      raster.toSprite = .error (.indexOutOfRange pixel colours)) ↔
        raster.SpriteSized ∧
          raster.palette.length ≤ 16 ∧
          ∃ x y, ∃ (inWidth : x < raster.width) (inHeight : y < raster.height),
            raster.palette.length ≤
              (raster.index x y inWidth inHeight).toNat) ∧
    ((∃ sprite, raster.toSprite = .ok sprite) ↔
        raster.SpriteSized ∧
          raster.palette.length ≤ 16 ∧
          ∀ x y (inWidth : x < raster.width) (inHeight : y < raster.height),
            (raster.index x y inWidth inHeight).toNat <
              raster.palette.length) ∧
    (∀ part expected actual,
      raster.toSprite ≠ .error (.partSize part expected actual)) := by
  refine ⟨?_, ?_, ?_, ?_, ?_, ?_⟩
  · exact raster.toSprite_eq_invalidDimensions_iff
  · exact raster.toSprite_eq_tooManyColours_iff
  · exact raster.toSprite_eq_indexOutOfRange_iff
  · exact raster.exists_toSprite_eq_indexOutOfRange_iff
  · exact raster.exists_toSprite_eq_ok_iff
  · exact raster.toSprite_ne_partSize

end Raster

end SpritePack
