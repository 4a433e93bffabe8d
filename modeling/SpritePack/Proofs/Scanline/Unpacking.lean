import SpritePack.Proofs.Scanline.Bits

namespace SpritePack.Scanline

/-!
# What unpacking reads

Of a buffer only the first scanlines are looked at, and of a scanline only the
bits of its pixels.  Each bit of the unpacked pixels is one of these, so that two
buffers are unpacked alike exactly if they agree in them.
-/

/-- A row's bits are no more than its scanline has. -/
theorem width_mul_depth_le
    (depth width : Nat) :
    width * depth ≤ size depth width * 8 := by
  rw [size]
  omega

section Start

variable
  {depth width lineSize : Nat}
  (positive : 0 < lineSize)
  (count : Nat)
  (buffer : Bytes)

include positive

/-- The first scanlines of a buffer are those of its start. -/
theorem take_chunks_take :
    (Traversal.chunks lineSize (buffer.take (count * lineSize))).take count =
      (Traversal.chunks lineSize buffer).take count := by
  rw [Traversal.take_chunks positive, Traversal.take_chunks positive,
    List.take_take, Nat.min_self]

/-- Nothing behind the scanlines that are asked for is read. -/
theorem readRows_take :
    readRows depth width lineSize count (buffer.take (count * lineSize)) =
      readRows depth width lineSize count buffer := by
  rw [readRows, readRows, take_chunks_take positive]

theorem unpackAll_take :
    unpackAll depth width lineSize count (buffer.take (count * lineSize)) =
      unpackAll depth width lineSize count buffer := by
  rw [unpackAll, unpackAll, take_chunks_take positive]

end Start

section Buffers

variable
  {depth width count : Nat}
  {buffer : Bytes}
  (standard : depth ∈ depths)
  (widthPos : 0 < width)
  (enough : count * size depth width ≤ buffer.length)

omit standard widthPos in
include enough in
theorem length_start :
    (buffer.take (count * size depth width)).length =
      size depth width * count := by
  rw [List.length_take, Nat.min_eq_left enough, Nat.mul_comm]

include standard widthPos enough

/-- A buffer with enough scanlines is read without leaving it. -/
theorem readRows_eq_ok_of_le :
    readRows depth width (size depth width) count buffer =
      .ok (unpackAll depth width (size depth width) count buffer) := by
  have positive := size_pos standard widthPos
  rw [← readRows_take positive, ← unpackAll_take positive]
  exact readRows_eq_ok standard widthPos (length_start enough)

theorem length_unpackAll_of_le :
    (unpackAll depth width (size depth width) count buffer).length =
      width * count := by
  rw [← unpackAll_take (size_pos standard widthPos)]
  exact length_unpackAll standard widthPos (length_start enough)

/-- Each bit of the unpacked pixels is the bit of the buffer in the same place of its row. -/
theorem getElem?_bits_unpackAll
    {row place : Nat}
    (inHeight : row < count)
    (inRow : place < width * depth) :
    (Bytes.bits depth
        (unpackAll depth width (size depth width) count buffer))[
          row * (width * depth) + place]? =
      (Bytes.bits 8 buffer)[row * (size depth width * 8) + place]? := by
  have positive := size_pos standard widthPos
  have inScanline : place < size depth width * 8 :=
    Nat.lt_of_lt_of_le inRow (width_mul_depth_le depth width)
  have inStart :
      row * (size depth width * 8) + place < count * size depth width * 8 := by
    rw [Nat.add_comm, Nat.mul_assoc, ← Nat.zero_add (count * _)]
    exact position_lt_of_row_lt inScanline inHeight
  obtain ⟨length, sized⟩ :=
    lines_of_complete standard widthPos (length_start enough)
  have joined :=
    Traversal.flatten_chunks positive
      (buffer.take (count * size depth width))
  rw [← unpackAll_take positive, unpackAll,
    List.take_of_length_le (Nat.le_of_eq length), List.flatMap_def]
  generalize
    Traversal.chunks (size depth width)
        (buffer.take (count * size depth width)) = scanlines at *
  have rowsSized :=
    Traversal.length_of_mem_map fun scanline (member : scanline ∈ scanlines) =>
      length_unpack standard (sized scanline member)
  have inScanlines : row < scanlines.length :=
    Nat.lt_of_lt_of_eq inHeight length.symm
  have scanlineBit := Bytes.getElem?_bits_flatten sized row inScanline
  rw [joined, Bytes.bits_take, List.getElem?_take_of_lt inStart] at scanlineBit
  rw [Bytes.getElem?_bits_flatten rowsSized row inRow, scanlineBit,
    List.getElem?_map, List.getElem?_eq_getElem inScanlines, Option.map_some,
    Option.bind_some, Option.bind_some, bits_unpack standard,
    List.getElem?_take_of_lt inRow]

end Buffers

section Agreement

variable
  {depth width count : Nat}
  {first second : Bytes}
  (standard : depth ∈ depths)
  (widthPos : 0 < width)
  (firstEnough : count * size depth width ≤ first.length)
  (secondEnough : count * size depth width ≤ second.length)

include standard widthPos firstEnough secondEnough

/-- Buffers are unpacked alike exactly if they have the same bits wherever a pixel has. -/
theorem unpackAll_eq_iff :
    unpackAll depth width (size depth width) count first =
        unpackAll depth width (size depth width) count second ↔
      SamePixelBits depth width count first second := by
  constructor
  · intro same row place inHeight inRow
    rw [← getElem?_bits_unpackAll standard widthPos firstEnough inHeight inRow,
      ← getElem?_bits_unpackAll standard widthPos secondEnough inHeight inRow,
      same]
  · intro same
    have firstLength := length_unpackAll_of_le standard widthPos firstEnough
    have secondLength := length_unpackAll_of_le standard widthPos secondEnough
    refine
      Bytes.bits_inj (firstLength.trans secondLength.symm)
        (fun _ member => lt_of_mem_unpackAll member)
        (fun _ member => lt_of_mem_unpackAll member) ?_
    apply List.ext_getElem?
    intro position
    have total : width * count * depth = width * depth * count :=
      Nat.mul_right_comm width count depth
    by_cases inside : position < width * depth * count
    · have rowBitsPos : 0 < width * depth :=
        Nat.mul_pos widthPos (depth_bounds standard).1
      have inHeight := Nat.div_lt_of_lt_mul inside
      have inRow := Nat.mod_lt position rowBitsPos
      rw [← Nat.div_add_mod' position (width * depth),
        getElem?_bits_unpackAll standard widthPos firstEnough inHeight inRow,
        getElem?_bits_unpackAll standard widthPos secondEnough inHeight inRow]
      exact same _ _ inHeight inRow
    · have outside := Nat.le_of_not_lt inside
      rw [List.getElem?_eq_none (by rw [Bytes.length_bits, firstLength, total]; exact outside),
        List.getElem?_eq_none (by rw [Bytes.length_bits, secondLength, total]; exact outside)]

end Agreement

section Rows

variable
  {depth width : Nat}
  {rows scanlines : List Bytes}
  (standard : depth ∈ depths)
  (small : ∀ row ∈ rows, ∀ pixel ∈ row, pixel.toNat < 2 ^ depth)
  (spells : List.Forall₂ (Spells depth) rows scanlines)

include standard small spells

/-- Scanlines hold the rows that they spell. -/
theorem forall₂_holds_of_spells :
    List.Forall₂ (Holds depth) rows scanlines := by
  induction spells with
  | nil =>
      exact .nil
  | cons first _ inductionHypothesis =>
      exact
        .cons
          ((holds_iff_spells standard (small _ List.mem_cons_self)).mpr first)
          (inductionHypothesis fun row member =>
            small row (List.mem_cons_of_mem _ member))

/-- Rows are read from scanlines that spell them, one byte at a time, whatever follows. -/
theorem readRows_of_spells
    (widthPos : 0 < width)
    (sized : ∀ row ∈ rows, row.length = width)
    (rest : Bytes) :
    readRows depth width (size depth width) rows.length
        (scanlines.flatten ++ rest) =
      .ok rows.flatten := by
  have holds := forall₂_holds_of_spells standard small spells
  have length :=
    Traversal.length_flatten_of_sized fun _ member =>
      length_of_mem_scanlines standard sized holds member
  have enough :
      rows.length * size depth width ≤ (scanlines.flatten ++ rest).length := by
    rw [List.length_append, length, holds.length_eq]
    exact Nat.le_add_right ..
  rw [readRows_eq_ok_of_le standard widthPos enough,
    unpackAll_of_holds standard widthPos sized small holds]

end Rows

/--
Unpacking undoes packing at every depth and width.  Rows are read back from
scanlines that start with their bits, whatever bits fill up the scanlines and
whatever follows the last; each choice of the filling bits is that of one
scanline.  Two buffers with enough scanlines are unpacked alike exactly if they
agree in the bits of the pixels.  No step leaves a buffer on the way.
-/
theorem unpacking_undoes_packing
    {depth width : Nat}
    (standard : depth ∈ depths)
    (widthPos : 0 < width) :
    (∀ (rows scanlines : List Bytes) (rest : Bytes),
      (∀ row ∈ rows, row.length = width) →
      (∀ row ∈ rows, ∀ pixel ∈ row, pixel.toNat < 2 ^ depth) →
      List.Forall₂ (Spells depth) rows scanlines →
      readRows depth width (size depth width) rows.length
          (scanlines.flatten ++ rest) =
        .ok rows.flatten) ∧
    (∀ (row : Bytes) (filler : List Bool),
      row.length * depth + filler.length = size depth row.length * 8 →
      ∃! scanline,
        Spells depth row scanline ∧
          Bytes.bits 8 scanline = Bytes.bits depth row ++ filler) ∧
    ∀ (count : Nat) (first second : Bytes),
      count * size depth width ≤ first.length →
      count * size depth width ≤ second.length →
      (readRows depth width (size depth width) count first =
          .ok (unpackAll depth width (size depth width) count first) ∧
        (readRows depth width (size depth width) count first =
            readRows depth width (size depth width) count second ↔
          SamePixelBits depth width count first second)) := by
  refine ⟨?_, fun _ _ complete => existsUnique_spells complete, ?_⟩
  · intro rows scanlines rest sized small spells
    exact readRows_of_spells standard small spells widthPos sized rest
  · intro count first second firstEnough secondEnough
    have firstRead := readRows_eq_ok_of_le standard widthPos firstEnough
    have secondRead := readRows_eq_ok_of_le standard widthPos secondEnough
    refine ⟨firstRead, ?_⟩
    rw [firstRead, secondRead, Except.ok.injEq]
    exact unpackAll_eq_iff standard widthPos firstEnough secondEnough

/-- Rows of five pixels at two bits, with set bits behind them and a byte behind the last. -/
theorem unpacking_undoes_packing_of_fivePixels :
    2 ∈ depths ∧
      0 < 5 ∧
      readRows 2 5 (size 2 5) 2 [0x1B, 0x6A, 0xE4, 0xBF, 0x07] =
        .ok [0, 1, 2, 3, 1, 3, 2, 1, 0, 2] ∧
      SamePixelBits 2 5 2 [0x1B, 0x6A, 0xE4, 0xBF, 0x07]
        [0x1B, 0x40, 0xE4, 0x80] := by
  have standard : 2 ∈ depths := by decide
  have widthPos : 0 < 5 := by decide
  obtain ⟨read, _, alike⟩ := unpacking_undoes_packing standard widthPos
  have filled :=
    read [[0, 1, 2, 3, 1], [3, 2, 1, 0, 2]] [[0x1B, 0x6A], [0xE4, 0xBF]] [0x07]
      (by simp) (by simp)
      (.cons ⟨rfl, by decide⟩ (.cons ⟨rfl, by decide⟩ .nil))
  have clear :=
    read [[0, 1, 2, 3, 1], [3, 2, 1, 0, 2]] [[0x1B, 0x40], [0xE4, 0x80]] []
      (by simp) (by simp)
      (.cons ⟨rfl, by decide⟩ (.cons ⟨rfl, by decide⟩ .nil))
  obtain ⟨_, agree⟩ :=
    alike 2 [0x1B, 0x6A, 0xE4, 0xBF, 0x07] [0x1B, 0x40, 0xE4, 0x80]
      (by decide) (by decide)
  exact ⟨standard, widthPos, filled, agree.mp (filled.trans clear.symm)⟩

end SpritePack.Scanline
