import SpritePack.Proofs.Raster.Pixels
import SpritePack.Proofs.Scanline.Packing
import SpritePack.Proofs.Scanline.Spacing
import SpritePack.Scanline.Access

namespace SpritePack

/-!
# Pixels are within reach

At the depths of indices a byte holds a whole number of pixels, and a line has a
byte for each column.  So every checked access succeeds in a buffer of full
lines, and gives what unpacking the lines as a whole gives.
-/

namespace Scanline

variable {depth : Nat}

/-- A reader that succeeds on every item of a list succeeds on the list. -/
theorem mapM_eq_ok
    {α β ε : Type}
    {items : List α}
    {read : α → Except ε β}
    {result : α → β}
    (succeeds : ∀ item ∈ items, read item = .ok (result item)) :
    items.mapM read = .ok (items.map result) := by
  induction items with
  | nil =>
      rfl
  | cons item rest inductionHypothesis =>
      have restSucceeds := fun other member =>
        succeeds other (List.mem_cons_of_mem item member)
      rw [List.mapM_cons, succeeds item List.mem_cons_self,
        inductionHypothesis restSucceeds]
      rfl

theorem depth_bounds
    (standard : depth ∈ depths) :
    0 < depth ∧ depth ≤ 8 := by
  simp only [depths, List.mem_cons, List.not_mem_nil, or_false] at standard
  omega

@[simp] theorem length_unpackByte
    (byte : UInt8) :
    (unpackByte depth byte).length = 8 / depth := by
  rw [unpackByte, List.length_map, List.length_range]

/-- The bits of every pixel of a byte lie in it. -/
theorem used_le
    (standard : depth ∈ depths)
    (column : Nat) :
    depth * (column % (8 / depth) + 1) ≤ 8 :=
  calc
    depth * (column % (8 / depth) + 1)
        ≤ depth * (8 / depth) :=
          Nat.mul_le_mul_left depth
            (Nat.mod_lt column (pixelsPerByte_pos standard))
    _ = 8 := pixelsPerByte_mul standard

/-- The byte of every column lies in a line of the right length. -/
theorem byte_lt
    (standard : depth ∈ depths)
    {width column : Nat}
    (inWidth : column < width) :
    column / (8 / depth) < size depth width := by
  apply Nat.div_lt_of_lt_mul
  rw [Nat.mul_comm]
  exact Nat.lt_of_lt_of_le inWidth (size_bounds standard width).1

/-- Shifting and masking gives the pixel of a place in a byte. -/
theorem getElem?_unpackByte
    (standard : depth ∈ depths)
    (byte : UInt8)
    {place : Nat}
    (inByte : place < 8 / depth) :
    (unpackByte depth byte)[place]? = some (pixelIn depth byte place) := by
  obtain ⟨depthPos, depthLe⟩ := depth_bounds standard
  have shiftSmall : 8 - depth * (place + 1) < 8 := by
    have := Nat.le_mul_of_pos_right depth (show 0 < place + 1 by omega)
    omega
  have maskSmall : 2 ^ depth - 1 < 256 := by
    have := Nat.pow_le_pow_right (show 0 < 2 by decide) depthLe
    omega
  have inRange : place < (List.range (8 / depth)).length := by
    rw [List.length_range]
    exact inByte
  rw [unpackByte, List.getElem?_map, List.getElem?_eq_getElem inRange,
    List.getElem_range, Option.map_some, Option.some.injEq]
  apply UInt8.toNat_inj.mp
  rw [pixelIn, UInt8.toNat_and, UInt8.toNat_shiftRight]
  simp only [Nat.toUInt8_eq, UInt8.toNat_ofNat', Nat.one_shiftLeft,
    Nat.reducePow]
  rw [Nat.mod_eq_of_lt (show 8 - depth * (place + 1) < 256 by omega),
    Nat.mod_eq_of_lt shiftSmall, Nat.mod_eq_of_lt maskSmall,
    Nat.and_two_pow_sub_one_eq_mod]
  apply Nat.mod_eq_of_lt
  have := Nat.mod_lt (byte.toNat >>> (8 - depth * (place + 1)))
    (Nat.two_pow_pos depth)
  omega

@[simp] theorem pixelIn_zero
    (place : Nat) :
    pixelIn depth 0 place = 0 := by
  simp [pixelIn]

/-- No pixel of a byte needs more bits than the depth. -/
theorem lt_of_mem_unpackByte
    {byte pixel : UInt8}
    (member : pixel ∈ unpackByte depth byte) :
    pixel.toNat < 2 ^ depth := by
  obtain ⟨place, _, rfl⟩ := List.mem_map.mp member
  rw [Nat.toUInt8_eq, UInt8.toNat_ofNat', Nat.one_shiftLeft]
  exact
    Nat.lt_of_le_of_lt (Nat.mod_le _ _)
      (Nat.mod_lt _ (Nat.two_pow_pos depth))

theorem lt_of_mem_unpack
    {width : Nat}
    {scanline : Bytes}
    {pixel : UInt8}
    (member : pixel ∈ unpack depth width scanline) :
    pixel.toNat < 2 ^ depth := by
  obtain ⟨byte, _, inByte⟩ := List.mem_flatMap.mp (List.mem_of_mem_take member)
  exact lt_of_mem_unpackByte inByte

section Rows

variable
  {width : Nat}
  {scanline : Bytes}
  (standard : depth ∈ depths)
  (sized : scanline.length = size depth width)

include standard sized

theorem length_unpack :
    (unpack depth width scanline).length = width := by
  have enough := (size_bounds standard width).1
  rw [unpack, List.length_take,
    Traversal.length_flatMap_of_sized fun byte _ => length_unpackByte byte,
    sized]
  omega

/-- The pixel of each column is unpacked from its place in the scanline. -/
theorem getElem?_unpack
    {column : Nat}
    (inWidth : column < width) :
    (unpack depth width scanline)[column]? =
      some
        (pixelIn depth (scanline.getD (column / (8 / depth)) 0)
          (column % (8 / depth))) := by
  have inLine : column / (8 / depth) < scanline.length := by
    rw [sized]
    exact byte_lt standard inWidth
  have inByte := Nat.mod_lt column (pixelsPerByte_pos standard)
  have pixel :=
    Traversal.getElem?_flatMap_of_sized
      (fun byte (_ : byte ∈ scanline) => length_unpackByte byte)
      (column / (8 / depth)) inByte
  rw [Nat.div_add_mod', List.getElem?_eq_getElem inLine, Option.bind_some,
    getElem?_unpackByte standard _ inByte] at pixel
  rw [unpack, List.getElem?_take_of_lt inWidth, pixel,
    List.getD_eq_getElem _ _ inLine]

/-- The pixel of each column is found where unpacking puts it. -/
theorem pixelAt_eq_ok
    {column : Nat}
    (inWidth : column < width) :
    pixelAt depth scanline column =
      .ok ((unpack depth width scanline).getD column 0) := by
  obtain ⟨depthPos, depthLe⟩ := depth_bounds standard
  have inLine : column / (8 / depth) < scanline.length := by
    rw [sized]
    exact byte_lt standard inWidth
  rw [List.getD_eq_getElem?_getD, getElem?_unpack standard sized inWidth,
    Option.getD_some, List.getD_eq_getElem _ _ inLine, pixelAt,
    if_neg (by omega)]
  dsimp only
  rw [if_neg (Nat.not_lt.mpr (used_le standard column)),
    List.getElem?_eq_getElem inLine]

/-- A line of the right length is read without leaving it. -/
theorem readRow_eq_ok :
    readRow depth width scanline = .ok (unpack depth width scanline) := by
  have succeeds :
      ∀ column ∈ List.range width,
        pixelAt depth scanline column =
          .ok ((unpack depth width scanline).getD column 0) :=
    fun _ member => pixelAt_eq_ok standard sized (List.mem_range.mp member)
  rw [readRow, mapM_eq_ok succeeds]
  apply congrArg
  apply List.ext_getElem
  · rw [List.length_map, List.length_range, length_unpack standard sized]
  · intro column _ inside
    rw [List.getElem_map, List.getElem_range, List.getD_eq_getElem?_getD,
      List.getElem?_eq_getElem inside, Option.getD_some]

end Rows

/-- A row's scanline has its pixels in their columns, and clear bits behind them. -/
theorem pixelIn_pack
    (standard : depth ∈ depths)
    {row : Bytes}
    (small : ∀ pixel ∈ row, pixel.toNat < 2 ^ depth)
    (byte : Nat)
    {place : Nat}
    (inByte : place < 8 / depth) :
    pixelIn depth ((pack depth row).getD byte 0) place =
      row.getD (byte * (8 / depth) + place) 0 := by
  obtain ⟨enough, tight⟩ := size_bounds standard row.length
  obtain ⟨count, complete⟩ := Nat.exists_eq_add_of_le enough
  -- Filled up to the end of its last byte, the row has a pixel for all bits of its scanline.
  have packed : pack depth (row ++ List.replicate count 0) = pack depth row :=
    pack_append_replicate standard complete.symm (by omega)
  have filledSmall :
      ∀ pixel ∈ row ++ List.replicate count 0, pixel.toNat < 2 ^ depth := by
    intro pixel member
    rcases List.mem_append.mp member with inRow | inFiller
    · exact small pixel inRow
    · rw [List.eq_of_mem_replicate inFiller]
      exact Nat.two_pow_pos depth
  have holds : Holds depth (row ++ List.replicate count 0) (pack depth row) := by
    rw [← packed]
    exact holds_pack standard
  have unpacked := holds.unpack_eq standard filledSmall
  have length : (row ++ List.replicate count 0).length = row.length + count := by
    rw [List.length_append, List.length_replicate]
  by_cases within : byte * (8 / depth) + place < row.length + count
  · have pixel :=
      getElem?_unpack standard (holds.length_eq standard)
        (Nat.lt_of_lt_of_eq within length.symm)
    rw [unpacked, getElem?_append_replicate within, Nat.add_comm,
      position_div inByte, position_mod inByte, Option.some.injEq] at pixel
    rw [Nat.add_comm, pixel]
  · have beyond : (pack depth row).length ≤ byte := by
      rw [(holds_pack standard).length_eq standard]
      by_contra early
      have inside :=
        Nat.mul_le_mul_right (8 / depth) (Nat.lt_of_not_le early)
      rw [Nat.succ_mul] at inside
      omega
    rw [List.getD_eq_default _ _ beyond, pixelIn_zero,
      List.getD_eq_default _ _ (by omega)]

section Buffers

variable
  {width height : Nat}
  {buffer : Bytes}
  (standard : depth ∈ depths)
  (widthPos : 0 < width)
  (complete : buffer.length = size depth width * height)

include standard widthPos complete

/-- A buffer of full lines is cut into just these lines. -/
theorem lines_of_complete :
    (Traversal.chunks (size depth width) buffer).length = height ∧
      ∀ scanline ∈ Traversal.chunks (size depth width) buffer,
        scanline.length = size depth width :=
  Traversal.chunks_full (size_pos standard widthPos)
    (complete.trans (Nat.mul_comm ..))

/-- A buffer of full lines is read without leaving it. -/
theorem readRows_eq_ok :
    readRows depth width (size depth width) height buffer =
      .ok (unpackAll depth width (size depth width) height buffer) := by
  obtain ⟨_, sized⟩ := lines_of_complete standard widthPos complete
  have succeeds :
      ∀ scanline ∈
          (Traversal.chunks (size depth width) buffer).take height,
        readRow depth width scanline = .ok (unpack depth width scanline) :=
    fun scanline member =>
      readRow_eq_ok standard (sized scanline (List.mem_of_mem_take member))
  rw [readRows, if_neg (Nat.ne_of_gt (size_pos standard widthPos)),
    mapM_eq_ok succeeds, unpackAll, List.flatMap_def]
  rfl

/-- It gives one pixel for each place of the picture. -/
theorem length_unpackAll :
    (unpackAll depth width (size depth width) height buffer).length =
      width * height := by
  obtain ⟨count, sized⟩ := lines_of_complete standard widthPos complete
  rw [unpackAll,
    Traversal.length_flatMap_of_sized fun scanline member =>
      length_unpack standard (sized scanline (List.mem_of_mem_take member)),
    List.length_take, count, Nat.min_self, Nat.mul_comm]

/-- The pixel of each place is unpacked from its line of the buffer. -/
theorem getElem?_unpackAll
    {x y : Nat}
    (inWidth : x < width)
    (inHeight : y < height) :
    (unpackAll depth width (size depth width) height buffer)[x + y * width]? =
      some
        (pixelIn depth
          (buffer.getD (x / (8 / depth) + y * size depth width) 0)
          (x % (8 / depth))) := by
  obtain ⟨count, sized⟩ := lines_of_complete standard widthPos complete
  have joined :=
    Traversal.flatten_chunks (size_pos standard widthPos) buffer
  have inLines :
      y < (Traversal.chunks (size depth width) buffer).length :=
    Nat.lt_of_lt_of_eq inHeight count.symm
  have byte :=
    Traversal.getElem?_flatten_of_sized sized y (byte_lt standard inWidth)
  have pixel :=
    Traversal.getElem?_flatMap_of_sized
      (fun scanline member => length_unpack standard (sized scanline member))
      y inWidth
  rw [joined, List.getElem?_eq_getElem inLines, Option.bind_some,
    Nat.add_comm] at byte
  rw [List.getElem?_eq_getElem inLines, Option.bind_some,
    getElem?_unpack standard (sized _ (List.getElem_mem inLines)) inWidth,
    Nat.add_comm] at pixel
  rw [unpackAll, List.take_of_length_le (Nat.le_of_eq count), pixel,
    List.getD_eq_getElem?_getD, List.getD_eq_getElem?_getD, byte]

end Buffers

/-- No pixel read from a buffer needs more bits than the depth. -/
theorem lt_of_mem_unpackAll
    {width lineSize count : Nat}
    {buffer : Bytes}
    {pixel : UInt8}
    (member : pixel ∈ unpackAll depth width lineSize count buffer) :
    pixel.toNat < 2 ^ depth := by
  obtain ⟨_, _, inLine⟩ := List.mem_flatMap.mp member
  exact lt_of_mem_unpack inLine

end Scanline

end SpritePack
