import SpritePack.Proofs.Colour
import SpritePack.Proofs.Sprite.Validation

namespace SpritePack

/-!
# The picture in a sprite

A stored sprite shows the raster it was made from: each index is read back from
its half of a byte, each colour as far as the display can tell.  Nothing else is
stored, so two rasters are stored alike exactly when they have the same indices
and, entry by entry, colours that the display cannot tell apart.
-/

/-- That a sprite holds the picture of a raster, index by index and colour by colour. -/
structure Sprite.Depicts
    (sprite : Sprite)
    (raster : Raster) : Prop where
  width_eq : raster.width = 64
  height_eq : raster.height = 128
  length_bitmap : sprite.bitmap.length = 4096
  pixel :
    ∀ x y (inWidth : x < raster.width) (inHeight : y < raster.height),
      sprite.nibble? x y = some (raster.index x y inWidth inHeight)
  length_palette :
    sprite.palette.length = 2 * raster.palette.length
  entry :
    ∀ entry (inside : entry < raster.palette.length),
      sprite.palette[2 * entry]? =
          some raster.palette[entry].toRgb12.toUInt8 ∧
        sprite.palette[2 * entry + 1]? =
          some (raster.palette[entry].toRgb12 >>> 8).toUInt8
  shown :
    ∀ x y (inWidth : x < raster.width) (inHeight : y < raster.height),
      ∃ colour,
        raster.palette[(raster.index x y inWidth inHeight).toNat]? =
            some colour ∧
          sprite.shown? x y = some colour.coarse

/-- That two rasters of one size look the same on the display. -/
structure Raster.LooksLike
    (first second : Raster) : Prop where
  pixels :
    ∀ x y (inWidth : x < first.width) (inHeight : y < first.height)
      (inWidth' : x < second.width) (inHeight' : y < second.height),
      first.index x y inWidth inHeight = second.index x y inWidth' inHeight'
  length_palette :
    first.palette.length = second.palette.length
  palette :
    ∀ entry (inside : entry < first.palette.length)
      (inside' : entry < second.palette.length),
      first.palette[entry].SameHighBits second.palette[entry]

/-- The bytes of an entry stand in its place in the stored palette. -/
theorem getElem?_flatMap_toBytes
    {colours : List Colour}
    {entry : Nat}
    (inside : entry < colours.length) :
    (colours.flatMap Colour.toBytes)[2 * entry]? =
        some colours[entry].toRgb12.toUInt8 ∧
      (colours.flatMap Colour.toBytes)[2 * entry + 1]? =
        some (colours[entry].toRgb12 >>> 8).toUInt8 := by
  have byteAt := fun place (inPlace : place < 2) =>
    Traversal.getElem?_flatMap_of_sized
      (fun colour (_ : colour ∈ colours) =>
        (rfl : colour.toBytes.length = 2))
      entry inPlace
  simp only [List.getElem?_eq_getElem inside, Option.bind_some] at byteAt
  rw [Nat.mul_comm]
  exact ⟨byteAt 0 (by decide), byteAt 1 (by decide)⟩

namespace Raster

variable {raster : Raster}

/-- The index at a place is read back from the packed bitmap. -/
theorem nibble?_packed
    (sized : raster.SpriteSized)
    {x y : Nat}
    (small :
      ∀ x y (inWidth : x < raster.width) (inHeight : y < raster.height),
        (raster.index x y inWidth inHeight).toNat < 16)
    (inWidth : x < raster.width)
    (inHeight : y < raster.height) :
    raster.packed.nibble? x y =
      some (raster.index x y inWidth inHeight) := by
  have width_eq := sized.1
  have pairInWidth : 2 * (x / 2) + 1 < raster.width := by
    omega
  have leftSmall := small (2 * (x / 2)) y (by omega) inHeight
  have rightSmall := small (2 * (x / 2) + 1) y pairInWidth inHeight
  have byteAt := raster.getElem?_bitmap pairInWidth inHeight
  have stride : y * 32 + x / 2 = y * (raster.width / 2) + x / 2 := by
    rw [width_eq]
  rw [Sprite.nibble?, packed]
  dsimp only
  rw [stride, byteAt, Option.map_some]
  rcases Nat.mod_two_eq_zero_or_one x with even | odd
  · have column : 2 * (x / 2) = x := by
      omega
    rw [if_pos even, high_nibble leftSmall rightSmall]
    simp only [column]
  · have column : 2 * (x / 2) + 1 = x := by
      omega
    rw [if_neg (by omega), low_nibble leftSmall rightSmall]
    simp only [column]

/-- The word of a colour is read back from the packed palette. -/
theorem word?_packed
    {entry : Nat}
    (inside : entry < raster.palette.length) :
    raster.packed.word? entry = some raster.palette[entry].toRgb12 := by
  obtain ⟨low, high⟩ := getElem?_flatMap_toBytes inside
  rw [Sprite.word?, packed]
  dsimp only
  rw [low, high]
  simp only [Colour.or_shiftLeft_bytes]

theorem packed_depicts
    (sized : raster.SpriteSized)
    (few : raster.palette.length ≤ 16)
    (inRange :
      ∀ x y (inWidth : x < raster.width) (inHeight : y < raster.height),
        (raster.index x y inWidth inHeight).toNat < raster.palette.length) :
    raster.packed.Depicts raster where
  width_eq :=
    sized.1
  height_eq :=
    sized.2
  length_bitmap := by
    rw [packed, length_bitmap, sized.1, sized.2]
  pixel x y inWidth inHeight :=
    nibble?_packed sized
      (fun x y inWidth inHeight =>
        Nat.lt_of_lt_of_le (inRange x y inWidth inHeight) few)
      inWidth inHeight
  length_palette := by
    rw [packed, length_flatMap_toBytes, Nat.mul_comm]
  entry _ inside :=
    getElem?_flatMap_toBytes inside
  shown x y inWidth inHeight := by
    have inside := inRange x y inWidth inHeight
    refine ⟨_, List.getElem?_eq_getElem inside, ?_⟩
    have index :=
      nibble?_packed sized
        (fun x y inWidth inHeight =>
          Nat.lt_of_lt_of_le (inRange x y inWidth inHeight) few)
        inWidth inHeight
    have word := word?_packed inside
    simp only [Sprite.shown?, index, word, Option.bind_eq_bind,
      Option.bind_some, Colour.ofRgb12_toRgb12]

/-- Rasters of one size with the same index at every place list the same indices. -/
theorem indices_eq_of_index_eq
    {first second : Raster}
    (sameWidth : first.width = second.width)
    (sameHeight : first.height = second.height)
    (samePixels :
      ∀ x y (inWidth : x < first.width) (inHeight : y < first.height)
        (inWidth' : x < second.width) (inHeight' : y < second.height),
        first.index x y inWidth inHeight =
          second.index x y inWidth' inHeight') :
    first.indices = second.indices := by
  apply List.ext_getElem
  · rw [first.length_indices, second.length_indices, sameWidth, sameHeight]
  · intro position inFirst inSecond
    rw [← first.index_of_position inFirst, ← second.index_of_position inSecond]
    simp only [← sameWidth]
    exact samePixels ..

/-- Palettes whose colours the display cannot tell apart are stored alike. -/
theorem flatMap_toBytes_congr
    {first second : List Colour}
    (sameLength : first.length = second.length)
    (alike :
      ∀ entry (inside : entry < first.length) (inside' : entry < second.length),
        first[entry].SameHighBits second[entry]) :
    first.flatMap Colour.toBytes = second.flatMap Colour.toBytes := by
  have sameWords : first.map Colour.toBytes = second.map Colour.toBytes := by
    apply List.ext_getElem
    · rw [List.length_map, List.length_map, sameLength]
    · intro entry inFirst inSecond
      rw [List.length_map] at inFirst inSecond
      rw [List.getElem_map, List.getElem_map, Colour.toBytes, Colour.toBytes,
        Colour.toRgb12_eq_iff.mpr (alike entry inFirst inSecond)]
  rw [List.flatMap_def, List.flatMap_def, sameWords]

/-- Rasters that look alike are stored alike. -/
theorem packed_eq_of_looksLike
    {first second : Raster}
    (firstSized : first.SpriteSized)
    (secondSized : second.SpriteSized)
    (alike : first.LooksLike second) :
    first.packed = second.packed := by
  have sameWidth : first.width = second.width := by
    rw [firstSized.1, secondSized.1]
  have sameHeight : first.height = second.height := by
    rw [firstSized.2, secondSized.2]
  have sameIndices :=
    indices_eq_of_index_eq sameWidth sameHeight alike.pixels
  rw [packed, packed, rows, rows, sameWidth, sameIndices,
    flatMap_toBytes_congr alike.length_palette alike.palette]

/-- One sprite cannot hold two pictures that look different. -/
theorem looksLike_of_depicts
    {sprite : Sprite}
    {first second : Raster}
    (ofFirst : sprite.Depicts first)
    (ofSecond : sprite.Depicts second) :
    first.LooksLike second where
  pixels x y inWidth inHeight inWidth' inHeight' := by
    have sameNibble :=
      (ofFirst.pixel x y inWidth inHeight).symm.trans
        (ofSecond.pixel x y inWidth' inHeight')
    exact Option.some.inj sameNibble
  length_palette := by
    have firstLength := ofFirst.length_palette
    have secondLength := ofSecond.length_palette
    omega
  palette entry inside inside' := by
    obtain ⟨firstLow, firstHigh⟩ := ofFirst.entry entry inside
    obtain ⟨secondLow, secondHigh⟩ := ofSecond.entry entry inside'
    have sameLow := Option.some.inj (firstLow.symm.trans secondLow)
    have sameHigh := Option.some.inj (firstHigh.symm.trans secondHigh)
    apply Colour.toRgb12_eq_iff.mp
    rw [← Colour.or_shiftLeft_bytes first.palette[entry].toRgb12,
      sameLow, sameHigh, Colour.or_shiftLeft_bytes]

/--
A stored sprite depicts its raster, and two rasters are stored as the same
sprite exactly when they look alike on the display.
-/
theorem toSprite_depicts
    {raster : Raster}
    {sprite : Sprite}
    (accepted : raster.toSprite = .ok sprite) :
    sprite.Depicts raster ∧
      ∀ {other : Raster} {otherSprite : Sprite},
        other.toSprite = .ok otherSprite →
        (sprite = otherSprite ↔ raster.LooksLike other) := by
  obtain ⟨sized, few, inRange, rfl⟩ := eq_packed_of_toSprite accepted
  have depicts := packed_depicts sized few inRange
  refine ⟨depicts, ?_⟩
  intro other otherSprite otherAccepted
  obtain ⟨otherSized, otherFew, otherInRange, rfl⟩ :=
    eq_packed_of_toSprite otherAccepted
  have otherDepicts := packed_depicts otherSized otherFew otherInRange
  constructor
  · intro same
    rw [← same] at otherDepicts
    exact looksLike_of_depicts depicts otherDepicts
  · intro alike
    exact packed_eq_of_looksLike sized otherSized alike

/-- A raster of the right size that goes through three colours over and over. -/
def stripes (first second third : Colour) : Raster where
  width := 64
  height := 128
  bitDepth := 8
  indices := (List.range 8192).map fun position => (position % 3).toUInt8
  palette := [first, second, third]
  length_indices := by
    rw [List.length_map, List.length_range]

theorem lt_of_mem_stripes
    {first second third : Colour}
    {index : UInt8}
    (member : index ∈ (stripes first second third).indices) :
    index.toNat < 3 := by
  simp only [stripes, List.mem_map] at member
  obtain ⟨position, _, rfl⟩ := member
  have remainder : position % 3 < 3 :=
    Nat.mod_lt position (by decide)
  rw [Nat.toUInt8_eq, UInt8.toNat_ofNat']
  omega

theorem toSprite_stripes
    (first second third : Colour) :
    (stripes first second third).toSprite =
      .ok (stripes first second third).packed := by
  have few : (stripes first second third).palette.length ≤ 16 :=
    show 3 ≤ 16 by decide
  apply toSprite_eq_ok ⟨rfl, rfl⟩ few
  apply (forall_mem_indices_iff _ fun index => index.toNat < 3).mp
  exact fun _ member => lt_of_mem_stripes member

/-- Stripes in two sets of colours that the display cannot tell apart. -/
theorem stripes_depicted :
    ∃ sprite,
      (stripes ⟨0, 0, 0⟩ ⟨0xFF, 0x10, 0⟩ ⟨0x12, 0x34, 0x56⟩).toSprite =
          .ok sprite ∧
        sprite.Depicts (stripes ⟨0, 0, 0⟩ ⟨0xFF, 0x10, 0⟩ ⟨0x12, 0x34, 0x56⟩) ∧
        (stripes ⟨9, 0, 3⟩ ⟨0xF0, 0x1A, 0⟩ ⟨0x1F, 0x30, 0x5A⟩).toSprite =
          .ok sprite := by
  have accepted := toSprite_stripes ⟨0, 0, 0⟩ ⟨0xFF, 0x10, 0⟩ ⟨0x12, 0x34, 0x56⟩
  have otherAccepted :=
    toSprite_stripes ⟨9, 0, 3⟩ ⟨0xF0, 0x1A, 0⟩ ⟨0x1F, 0x30, 0x5A⟩
  obtain ⟨depicts, same⟩ := toSprite_depicts accepted
  refine ⟨_, accepted, depicts, ?_⟩
  rw [(same otherAccepted).mpr]
  · exact otherAccepted
  · refine ⟨fun _ _ _ _ _ _ => rfl, rfl, ?_⟩
    intro entry inside inside'
    have few : entry < 3 := inside
    match entry, few with
    | 0, _ =>
        exact show Colour.SameHighBits ⟨0, 0, 0⟩ ⟨9, 0, 3⟩ by decide
    | 1, _ =>
        exact show Colour.SameHighBits ⟨0xFF, 0x10, 0⟩ ⟨0xF0, 0x1A, 0⟩ by decide
    | 2, _ =>
        exact show Colour.SameHighBits ⟨0x12, 0x34, 0x56⟩ ⟨0x1F, 0x30, 0x5A⟩ by
          decide

end Raster

end SpritePack
