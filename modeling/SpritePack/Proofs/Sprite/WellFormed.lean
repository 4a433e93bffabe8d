import SpritePack.Proofs.Conversion.Success
import SpritePack.Proofs.Sprite.Picture

namespace SpritePack

/-!
# Well-formed sprites

Two runs of bytes may come out of a conversion exactly if they have the sizes of
a bitmap and a palette, no word of the palette has a fourth digit, and no index
of the bitmap is beyond the palette.  Any such sprite is the one that its own
picture is stored as.
-/

/-- The form that the two parts of a sprite have. -/
structure Sprite.WellFormed (sprite : Sprite) : Prop where
  length_bitmap :
    sprite.bitmap.length = 4096
  palette_even :
    sprite.palette.length % 2 = 0
  palette_ge :
    2 ≤ sprite.palette.length
  palette_le :
    sprite.palette.length ≤ 32
  clear :
    ∀ (entry : Nat) (byte : UInt8),
      sprite.palette[2 * entry + 1]? = some byte → byte >>> 4 = 0
  nibbles_lt :
    ∀ byte : UInt8, byte ∈ sprite.bitmap →
      (byte >>> 4).toNat < sprite.palette.length / 2 ∧
        (byte &&& 15).toNat < sprite.palette.length / 2

section Bitmaps

theorem toNat_lowNibble
    (byte : UInt8) :
    (byte &&& 15).toNat = byte.toNat % 16 := by
  have mask : (15 : UInt8).toNat = 2 ^ 4 - 1 := rfl
  rw [UInt8.toNat_and, mask, Nat.and_two_pow_sub_one_eq_mod]

/-- A byte is packed again from its two halves. -/
theorem pack_nibbles
    (byte : UInt8) :
    ((byte >>> 4) <<< 4) ||| (byte &&& 15) = byte := by
  have small := byte.toNat_lt
  have high := Colour.toNat_shiftRight_four byte
  have low := toNat_lowNibble byte
  apply UInt8.toNat_inj.mp
  rw [toNat_nibbles (by omega) (by omega), high, low]
  omega

@[simp] theorem length_unpackNibbles
    (bitmap : Bytes) :
    (unpackNibbles bitmap).length = bitmap.length * 2 :=
  Traversal.length_flatMap_of_sized fun _ _ => rfl

/-- Packing undoes unpacking, whatever the bytes are. -/
@[simp] theorem packNibbles_unpackNibbles
    (bitmap : Bytes) :
    packNibbles (unpackNibbles bitmap) = bitmap := by
  induction bitmap with
  | nil =>
      rfl
  | cons byte rest inductionHypothesis =>
      have unfolded :
          unpackNibbles (byte :: rest) =
            (byte >>> 4) :: (byte &&& 15) :: unpackNibbles rest :=
        rfl
      rw [unfolded, packNibbles, pack_nibbles, inductionHypothesis]

end Bitmaps

section Palettes

/-- The number of a word stored in two bytes. -/
theorem toNat_word
    (low high : UInt8) :
    (low.toUInt16 ||| (high.toUInt16 <<< 8)).toNat =
      high.toNat * 256 + low.toNat := by
  have lowSmall := low.toNat_lt
  have highSmall := high.toNat_lt
  have shifted : (high.toUInt16 <<< 8).toNat = high.toNat <<< 8 := by
    simp only [UInt16.toNat_shiftLeft, UInt8.toNat_toUInt16,
      UInt16.reduceToNat, Nat.reduceMod, Nat.shiftLeft_eq]
    omega
  rw [UInt16.toNat_or, shifted, UInt8.toNat_toUInt16, Nat.or_comm,
    ← Nat.shiftLeft_add_eq_or_of_lt lowSmall, Nat.shiftLeft_eq]

/-- A word without a fourth digit is stored in the two bytes that it came from. -/
theorem toBytes_ofRgb12_word
    {low high : UInt8}
    (clear : high >>> 4 = 0) :
    (Colour.ofRgb12 (low.toUInt16 ||| (high.toUInt16 <<< 8))).toBytes =
      [low, high] := by
  have number := toNat_word low high
  have lowSmall := low.toNat_lt
  have digit : high.toNat / 16 = 0 := by
    rw [← Colour.toNat_shiftRight_four, clear]
    rfl
  rw [Colour.toBytes, Colour.toRgb12_ofRgb12 (by omega), Colour.wordBytes]
  have lowByte :
      (low.toUInt16 ||| (high.toUInt16 <<< 8)).toUInt8 = low := by
    apply UInt8.toNat_inj.mp
    rw [UInt16.toNat_toUInt8, number]
    omega
  have highByte :
      ((low.toUInt16 ||| (high.toUInt16 <<< 8)) >>> 8).toUInt8 = high := by
    apply UInt8.toNat_inj.mp
    simp only [UInt16.toNat_toUInt8, UInt16.toNat_shiftRight, number,
      UInt16.reduceToNat, Nat.reduceMod, Nat.shiftRight_eq_div_pow,
      Nat.reducePow]
    omega
  rw [lowByte, highByte]

@[simp] theorem length_unpackWords
    (palette : Bytes) :
    (unpackWords palette).length = palette.length / 2 := by
  fun_induction unpackWords palette with
  | case1 low high rest inductionHypothesis =>
      simp only [List.length_cons, inductionHypothesis]
      omega
  | case2 palette noPair =>
      have short := length_le_one_of_no_pair noPair
      rw [List.length_nil]
      omega

/-- A palette of clear words is stored again from its colours. -/
theorem flatMap_toBytes_unpackWords
    {palette : Bytes}
    (even : palette.length % 2 = 0)
    (clear :
      ∀ (entry : Nat) (byte : UInt8),
        palette[2 * entry + 1]? = some byte → byte >>> 4 = 0) :
    ((unpackWords palette).map Colour.ofRgb12).flatMap Colour.toBytes =
      palette := by
  fun_induction unpackWords palette with
  | case1 low high rest inductionHypothesis =>
      have restEven : rest.length % 2 = 0 := by
        simp only [List.length_cons] at even
        omega
      have restClear := fun entry byte stored => clear (entry + 1) byte stored
      rw [List.map_cons, List.flatMap_cons,
        toBytes_ofRgb12_word (clear 0 high rfl),
        inductionHypothesis restEven restClear]
      rfl
  | case2 palette noPair =>
      have short := length_le_one_of_no_pair noPair
      rw [List.eq_nil_of_length_eq_zero (show palette.length = 0 by omega)]
      rfl

end Palettes

namespace Sprite

/-- What is stored of a raster is well-formed. -/
theorem wellFormed_of_toSprite
    {raster : Raster}
    {sprite : Sprite}
    (accepted : raster.toSprite = .ok sprite) :
    sprite.WellFormed := by
  obtain ⟨sized, few, inRange, rfl⟩ := Raster.eq_packed_of_toSprite accepted
  have depicts := Raster.packed_depicts sized few inRange
  have length_palette := depicts.length_palette
  -- The first pixel has a colour, so a palette without colours was refused.
  have present : 0 < raster.palette.length :=
    Nat.zero_lt_of_lt
      (inRange 0 0 (by rw [sized.1]; decide) (by rw [sized.2]; decide))
  refine {
    length_bitmap := depicts.length_bitmap
    palette_even := by omega
    palette_ge := by omega
    palette_le := by omega
    clear := ?_
    nibbles_lt := ?_
  }
  · intro entry byte stored
    have inside : entry < raster.palette.length := by
      obtain ⟨place, _⟩ := List.getElem?_eq_some_iff.mp stored
      omega
    obtain ⟨_, high⟩ := depicts.entry entry inside
    have threeDigits := raster.palette[entry].toRgb12_lt
    rw [Option.some.inj (stored.symm.trans high)]
    apply UInt8.toNat_inj.mp
    simp only [Colour.toNat_shiftRight_four, UInt16.toNat_toUInt8,
      UInt16.toNat_shiftRight, UInt16.reduceToNat, Nat.reduceMod,
      Nat.shiftRight_eq_div_pow, Nat.reducePow, UInt8.reduceToNat]
    omega
  · intro byte member
    have below :=
      (raster.forall_mem_indices_iff
        fun index => index.toNat < raster.palette.length).mpr inRange
    obtain ⟨row, inRows, inRow⟩ := List.mem_flatMap.mp member
    obtain ⟨left, leftMember, right, rightMember, rfl⟩ := mem_packNibbles inRow
    have inIndices : ∀ pixel ∈ row, pixel ∈ raster.indices := by
      intro pixel inPixels
      rw [← raster.flatten_rows (by rw [sized.1]; decide)]
      exact List.mem_flatten.mpr ⟨row, inRows, inPixels⟩
    have leftBelow := below left (inIndices left leftMember)
    have rightBelow := below right (inIndices right rightMember)
    rw [high_nibble (by omega) (by omega), low_nibble (by omega) (by omega)]
    omega

/-- The picture of a well-formed sprite can be read, and is stored as that sprite. -/
theorem WellFormed.rebuilt
    {sprite : Sprite}
    (wellFormed : sprite.WellFormed) :
    ∃ raster,
      Raster.ofIndices? 64 128 sprite.indices sprite.colours = some raster ∧
        raster.toSprite = .ok sprite := by
  have complete : sprite.indices.length = 64 * 128 := by
    rw [indices, length_unpackNibbles, wellFormed.length_bitmap]
  have coloursLength : sprite.colours.length = sprite.palette.length / 2 := by
    rw [colours, List.length_map, length_unpackWords]
  refine ⟨_, dif_pos complete, ?_⟩
  generalize made :
    (⟨64, 128, 8, sprite.indices, sprite.colours, complete⟩ : Raster) = raster
  have sized : raster.SpriteSized := by
    rw [← made]
    exact ⟨rfl, rfl⟩
  have few : raster.palette.length ≤ 16 := by
    have := wellFormed.palette_le
    rw [← made]
    show sprite.colours.length ≤ 16
    omega
  have inRange :
      ∀ index ∈ raster.indices, index.toNat < raster.palette.length := by
    rw [← made]
    show ∀ index ∈ sprite.indices, index.toNat < sprite.colours.length
    intro index member
    obtain ⟨byte, inBitmap, inByte⟩ := List.mem_flatMap.mp member
    obtain ⟨high, low⟩ := wellFormed.nibbles_lt byte inBitmap
    rw [coloursLength]
    rcases List.mem_pair.mp inByte with rfl | rfl
    · exact high
    · exact low
  rw [Raster.toSprite_eq_ok sized few
    ((raster.forall_mem_indices_iff _).mp inRange)]
  have evenRows : ∀ row ∈ raster.rows, row.length % 2 = 0 := by
    intro row member
    rw [raster.length_of_mem_rows member, sized.1]
  have bitmap : raster.rows.flatMap packNibbles = sprite.bitmap := by
    rw [flatMap_packNibbles evenRows,
      raster.flatten_rows (by rw [sized.1]; decide), ← made]
    exact packNibbles_unpackNibbles sprite.bitmap
  have palette : raster.palette.flatMap Colour.toBytes = sprite.palette := by
    rw [← made]
    exact
      flatMap_toBytes_unpackWords wellFormed.palette_even wellFormed.clear
  rw [Raster.packed, bitmap, palette]

/-- A raster of a well-formed sprite can be stored as a picture file of eight bits. -/
theorem storable_of_toSprite
    {raster : Raster}
    {sprite : Sprite}
    (accepted : raster.toSprite = .ok sprite)
    (deep : raster.bitDepth = 8) :
    raster.Storable := by
  obtain ⟨⟨width_eq, height_eq⟩, few, inRange, _⟩ :=
    Raster.eq_packed_of_toSprite accepted
  refine {
    width_pos := by omega
    width_lt := by omega
    height_pos := by omega
    height_lt := by omega
    bitDepth_mem := by rw [deep]; decide
    index_lt := ?_
    palette_pos := ?_
    palette_le := by omega
  }
  · intro index _
    rw [deep]
    exact index.toNat_lt
  · exact Nat.zero_lt_of_lt (inRange 0 0 (by omega) (by omega))

end Sprite

/-- The sprite of a conversion is that of some raster. -/
theorem World.exists_toSprite_of_convert
    {world : World}
    {config : Config}
    {sprite : Sprite}
    (converted : (world.perform (convert config)).1 = .ok sprite) :
    ∃ raster : Raster, raster.toSprite = .ok sprite := by
  have ends := world.converted_convert config
  rw [converted] at ends
  cases ends with
  | written _ accepted _ =>
      exact ⟨_, accepted⟩

/-- A fault of a sprite that a conversion reports is that of some raster. -/
theorem World.exists_toSprite_of_convert_fault
    {world : World}
    {config : Config}
    {fault : SpriteFault}
    (converted : (world.perform (convert config)).1 = .error (.sprite fault)) :
    ∃ raster : Raster, raster.toSprite = .error fault := by
  have ends := world.converted_convert config
  generalize (world.perform (convert config)).2 = after at ends
  rw [converted] at ends
  cases ends with
  | unloaded unloaded =>
      rcases Disk.eq_of_raster?_eq_error unloaded with ⟨_, same⟩ | ⟨_, same⟩
      · cases same
      · cases same
  | refused _ refused =>
      exact ⟨_, refused⟩
  | unwritten _ _ failed =>
      cases failed

/-- A disk with one file in its working directory, under a name of one letter. -/
def Disk.holding (content : Bytes) : Disk :=
  Disk.empty.put [[0x77], [0x61]] (.file content)

/-- The configuration that reads that file, and writes beside it. -/
def Config.beside : Config where
  input := ⟨[0x61]⟩
  bitmapOutput := ⟨[0x62]⟩
  paletteOutput := ⟨[0x63]⟩

namespace Sprite

/-- Every well-formed sprite comes out of a conversion of some file. -/
theorem WellFormed.converted
    {sprite : Sprite}
    (wellFormed : sprite.WellFormed) :
    ∃ (world : World) (config : Config),
      (world.perform (convert config)).1 = .ok sprite := by
  obtain ⟨raster, read, accepted⟩ := wellFormed.rebuilt
  have deep : raster.bitDepth = 8 := Raster.bitDepth_of_ofIndices? read
  have storable := storable_of_toSprite accepted deep
  let encoding :=
    Png.Encoding.ofSizes raster storable.bitDepth_mem (fun _ => .none)
      (show 0 < 1 by decide) (by decide) (show 0 < 1 by decide) (by decide)
  exact
    ⟨⟨.holding encoding.file, []⟩, .beside,
      perform_convert_encoding accepted
        (show (Disk.holding encoding.file).target _ = .ok [[0x77], [0x63]] from
          rfl)
        (show (Disk.holding encoding.file).target _ = .ok [[0x77], [0x62]] from
          rfl)
        storable encoding rfl⟩

/--
The sprites that rasters are stored as, those that conversions give, and those
that are stored again from their own picture are the same: the well-formed ones.
No part ever has a wrong size.
-/
theorem wellFormed_exactly
    (sprite : Sprite) :
    (sprite.WellFormed ↔ ∃ raster : Raster, raster.toSprite = .ok sprite) ∧
    (sprite.WellFormed ↔
      ∃ (world : World) (config : Config),
        (world.perform (convert config)).1 = .ok sprite) ∧
    (sprite.WellFormed ↔
      ∃ raster,
        Raster.ofIndices? 64 128 sprite.indices sprite.colours = some raster ∧
          raster.toSprite = .ok sprite) ∧
    (∀ (raster : Raster) part expected actual,
      raster.toSprite ≠ .error (.partSize part expected actual)) ∧
    (∀ (world : World) (config : Config) part expected actual,
      (world.perform (convert config)).1 ≠
        .error (.sprite (.partSize part expected actual))) := by
  refine ⟨⟨?_, ?_⟩, ⟨?_, ?_⟩, ⟨?_, ?_⟩, ?_, ?_⟩
  · intro wellFormed
    obtain ⟨raster, _, accepted⟩ := wellFormed.rebuilt
    exact ⟨raster, accepted⟩
  · rintro ⟨raster, accepted⟩
    exact wellFormed_of_toSprite accepted
  · exact WellFormed.converted
  · rintro ⟨world, config, converted⟩
    obtain ⟨raster, accepted⟩ := world.exists_toSprite_of_convert converted
    exact wellFormed_of_toSprite accepted
  · exact WellFormed.rebuilt
  · rintro ⟨raster, _, accepted⟩
    exact wellFormed_of_toSprite accepted
  · intro raster
    exact raster.toSprite_ne_partSize
  · intro world config part expected actual failed
    obtain ⟨raster, refused⟩ := world.exists_toSprite_of_convert_fault failed
    exact raster.toSprite_ne_partSize part expected actual refused

end Sprite

end SpritePack
