import SpritePack.Proofs.Scanline.Unpacking
import SpritePack.Proofs.Sprite.AnySize

namespace SpritePack

/-!
# Packing what was unpacked

At four bits a scanline and a row of the bitmap are the same bytes, for both have
the left one of two pixels in the high bits.  So a buffer is packed again from its
pixels, whatever its bytes are, as long as no row ends within one of them.
-/

namespace Scanline

section Whole

variable
  {depth width : Nat}
  (standard : depth ∈ depths)
  (whole : size depth width * (8 / depth) = width)

section Line

variable
  {scanline : Bytes}
  (sized : scanline.length = size depth width)

include whole sized

/-- No pixel of a scanline is left out if its row ends with a byte. -/
theorem unpack_of_whole :
    unpack depth width scanline = scanline.flatMap (unpackByte depth) := by
  rw [unpack]
  apply List.take_of_length_le
  rw [Traversal.length_flatMap_of_sized fun byte _ => length_unpackByte byte,
    sized, whole]

include standard

/-- A scanline is packed again from its row if that ends with a byte. -/
theorem pack_unpack_of_whole :
    pack depth (unpack depth width scanline) = scanline := by
  rw [unpack_of_whole whole sized, pack_flatMap_unpackByte standard]

end Line

include standard whole

/-- The pixels of a buffer are those of its bytes if all rows end with one. -/
theorem unpackAll_of_whole
    {count : Nat}
    {buffer : Bytes}
    (widthPos : 0 < width)
    (complete : buffer.length = size depth width * count) :
    unpackAll depth width (size depth width) count buffer =
      buffer.flatMap (unpackByte depth) := by
  obtain ⟨length, sized⟩ := lines_of_complete standard widthPos complete
  have joined :=
    Traversal.flatten_chunks (size_pos standard widthPos) buffer
  rw [unpackAll, List.take_of_length_le (Nat.le_of_eq length)]
  generalize
    Traversal.chunks (size depth width) buffer = scanlines at joined sized
  calc
    scanlines.flatMap (unpack depth width)
        = scanlines.flatMap fun scanline =>
            scanline.flatMap (unpackByte depth) :=
          List.flatMap_congr fun scanline member =>
            unpack_of_whole whole (sized scanline member)
    _ = scanlines.flatten.flatMap (unpackByte depth) := by
          rw [← List.flatMap_id, List.flatMap_assoc]
          rfl
    _ = buffer.flatMap (unpackByte depth) := by
          rw [joined]

end Whole

section Nibbles

theorem four_mem_depths : 4 ∈ depths := by
  decide

/-- Four bits to a pixel leave two pixels to a byte, the left one in the high bits. -/
theorem unpackByte_four
    (byte : UInt8) :
    unpackByte 4 byte = [byte >>> 4, byte &&& 15] := by
  have small := byte.toNat_lt
  have high : (byte.toNat >>> 4 % 16).toUInt8 = byte >>> 4 := by
    apply UInt8.toNat_inj.mp
    rw [Colour.toNat_shiftRight_four, Nat.toUInt8_eq, UInt8.toNat_ofNat',
      Nat.shiftRight_eq_div_pow]
    omega
  have low : (byte.toNat >>> 0 % 16).toUInt8 = byte &&& 15 := by
    apply UInt8.toNat_inj.mp
    rw [toNat_lowNibble, Nat.toUInt8_eq, UInt8.toNat_ofNat', Nat.shiftRight_zero]
    omega
  rw [← high, ← low]
  rfl

theorem flatMap_unpackByte_four
    (bytes : Bytes) :
    bytes.flatMap (unpackByte 4) = unpackNibbles bytes :=
  List.flatMap_congr fun byte _ => unpackByte_four byte

variable {width : Nat}

/-- Two pixels of four bits take a byte. -/
theorem size_four
    (even : width % 2 = 0) :
    size 4 width = width / 2 := by
  rw [size]
  omega

/-- At four bits, rows of an even width end with a byte. -/
theorem whole_of_even
    (even : width % 2 = 0) :
    size 4 width * (8 / 4) = width := by
  rw [size_four even]
  omega

/-- An even row has the same scanline at four bits as in the bitmap. -/
theorem pack_four_eq_packNibbles
    {row : Bytes}
    (even : row.length % 2 = 0)
    (small : ∀ pixel ∈ row, pixel.toNat < 16) :
    pack 4 row = packNibbles row := by
  have unpacked := unpackNibbles_packNibbles small
  rw [List.take_of_length_le (by omega), ← flatMap_unpackByte_four] at unpacked
  nth_rewrite 1 [← unpacked]
  exact pack_flatMap_unpackByte four_mem_depths _

/-- A buffer is packed again from its pixels, whatever its bytes are. -/
theorem packNibbles_unpackAll
    {height : Nat}
    {buffer : Bytes}
    (widthPos : 0 < width)
    (even : width % 2 = 0)
    (complete : buffer.length = height * (width / 2)) :
    packNibbles (unpackAll 4 width (width / 2) height buffer) = buffer := by
  have sizedComplete : buffer.length = size 4 width * height := by
    rw [complete, size_four even, Nat.mul_comm]
  rw [← size_four even,
    unpackAll_of_whole four_mem_depths (whole_of_even even) widthPos
      sizedComplete,
    flatMap_unpackByte_four, packNibbles_unpackNibbles]

end Nibbles

end Scanline

namespace Raster

variable {raster : Raster}

/-- At an even width the bitmap does not show where rows end. -/
theorem flatMap_packNibbles_rows
    (even : raster.width % 2 = 0) :
    raster.rows.flatMap packNibbles = packNibbles raster.indices := by
  have rowsEven : ∀ row ∈ raster.rows, row.length % 2 = 0 := by
    intro row member
    rw [raster.length_of_mem_rows member, even]
  rw [flatMap_packNibbles rowsEven]
  by_cases noWidth : raster.width = 0
  · have complete := raster.length_indices
    rw [noWidth, Nat.zero_mul] at complete
    rw [rows, List.eq_nil_of_length_eq_zero complete, Traversal.chunks_nil,
      List.flatten_nil]
  · rw [raster.flatten_rows (Nat.pos_of_ne_zero noWidth)]

/-- That a raster has the pixels of a buffer of scanlines at four bits. -/
structure Unpacks
    (raster : Raster)
    (buffer : Bytes) : Prop where
  width_pos : 0 < raster.width
  even : raster.width % 2 = 0
  complete : buffer.length = raster.height * (raster.width / 2)
  indices_eq :
    raster.indices =
      Scanline.unpackAll 4 raster.width (raster.width / 2) raster.height buffer

namespace Unpacks

variable
  {buffer : Bytes}
  (unpacks : raster.Unpacks buffer)

include unpacks

/-- The rows of the bitmap are the scanlines of the buffer. -/
theorem flatMap_packNibbles_rows :
    raster.rows.flatMap packNibbles = buffer := by
  rw [Raster.flatMap_packNibbles_rows unpacks.even, unpacks.indices_eq,
    Scanline.packNibbles_unpackAll unpacks.width_pos unpacks.even
      unpacks.complete]

/-- No index needs more than its four bits. -/
theorem index_lt
    {index : UInt8}
    (member : index ∈ raster.indices) :
    index.toNat < 16 := by
  rw [unpacks.indices_eq] at member
  exact Scanline.lt_of_mem_unpackAll member

/-- With sixteen colours there is one for every pixel, so that the buffer is packed again. -/
theorem packBitmap_eq_ok :
    raster.packBitmap 16 = .ok buffer :=
  packBitmap_eq_ok_iff.mpr
    ⟨(raster.forall_mem_indices_iff fun index => index.toNat < 16).mp
        fun _ member => unpacks.index_lt member,
      unpacks.flatMap_packNibbles_rows.symm⟩

end Unpacks

/-- Each buffer whose rows end with a byte is read to the end, and packed again. -/
theorem exists_readRows_repacked
    {width height : Nat}
    {buffer : Bytes}
    (wide : 2 ≤ width)
    (even : width % 2 = 0)
    (complete : buffer.length = height * (width / 2)) :
    ∃ indices,
      Scanline.readRows 4 width (width / 2) height buffer = .ok indices ∧
        (∀ palette, (ofIndices? width height indices palette).isSome) ∧
        ∀ raster : Raster,
          raster.width = width →
          raster.height = height →
          raster.indices = indices →
          raster.packBitmap 16 = .ok buffer ∧
            (raster.indices.length < UInt64.size →
              raster.readBitmap 16 = .ok (.ok buffer)) := by
  have widthPos : 0 < width := Nat.zero_lt_of_lt wide
  have size := Scanline.size_four even
  have enough : height * Scanline.size 4 width ≤ buffer.length := by
    rw [size, complete]
  have read :=
    Scanline.readRows_eq_ok_of_le Scanline.four_mem_depths widthPos enough
  have length :=
    Scanline.length_unpackAll_of_le Scanline.four_mem_depths widthPos enough
  rw [size] at read length
  refine ⟨_, read, ?_, ?_⟩
  · intro palette
    rw [ofIndices?, dif_pos length, Option.isSome_some]
  · rintro raster rfl rfl isUnpacked
    have unpacks : raster.Unpacks buffer := {
      width_pos := widthPos
      even := even
      complete := complete
      indices_eq := isUnpacked
    }
    refine ⟨unpacks.packBitmap_eq_ok, fun held => ?_⟩
    rw [readBitmap_eq_ok held, unpacks.packBitmap_eq_ok]

/-- The indices of a sprite are below sixteen. -/
theorem index_lt_of_toSprite
    {raster : Raster}
    {sprite : Sprite}
    (accepted : raster.toSprite = .ok sprite) :
    ∀ index ∈ raster.indices, index.toNat < 16 := by
  obtain ⟨_, few, inRange, _⟩ := eq_packed_of_toSprite accepted
  exact
    (raster.forall_mem_indices_iff fun index => index.toNat < 16).mpr
      fun x y inWidth inHeight =>
        Nat.lt_of_lt_of_le (inRange x y inWidth inHeight) few

/-- The bitmap of a sprite has its rows as scanlines of four bits. -/
theorem bitmap_eq_of_toSprite
    {raster : Raster}
    {sprite : Sprite}
    (accepted : raster.toSprite = .ok sprite) :
    sprite.bitmap = raster.rows.flatMap (Scanline.pack 4) := by
  have rowsSmall := raster.forall_mem_rows (index_lt_of_toSprite accepted)
  obtain ⟨sized, _, _, rfl⟩ := eq_packed_of_toSprite accepted
  apply List.flatMap_congr
  intro row member
  have even : row.length % 2 = 0 := by
    rw [raster.length_of_mem_rows member, sized.1]
  exact (Scanline.pack_four_eq_packNibbles even (rowsSmall row member)).symm

end Raster

end SpritePack
