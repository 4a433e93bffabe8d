import Mathlib.Data.List.Forall2
import Mathlib.Data.List.Induction
import Mathlib.Tactic.Ring
import SpritePack.Proofs.Traversal.Pieces
import SpritePack.Scanline

namespace SpritePack

/-!
# Packed rows

A byte of a scanline spells its pixels as the digits of a number, the leftmost
first.  So the pixels are read back from it, and a row from its bytes, whatever
stands in the bits behind the row's last pixel.
-/

namespace Scanline

/-- The numbers of bits that an index may take: those that divide a byte. -/
abbrev depths : List Nat := [1, 2, 4, 8]

/-- The number whose digits of `depth` bits are the pixels, leftmost first. -/
def number
    (depth : Nat)
    (pixels : List UInt8) :
    Nat :=
  pixels.foldl (fun value pixel => (value <<< depth) + pixel.toNat) 0

/--
That a scanline holds a row of pixels.  The bits behind the row, up to the end of
the last byte, may be those of any other pixels.
-/
def Holds
    (depth : Nat)
    (row scanline : Bytes) : Prop :=
  ∃ filler : Bytes,
    (∀ pixel ∈ filler, pixel.toNat < 2 ^ depth) ∧
      (row ++ filler).length = size depth row.length * (8 / depth) ∧
      scanline = pack depth (row ++ filler)

section Digits

variable {depth : Nat}

theorem packByte_eq_number
    (pixels : List UInt8) :
    packByte depth pixels =
      (number depth pixels <<< (8 - depth * pixels.length)).toUInt8 :=
  rfl

theorem number_append_singleton
    (pixels : List UInt8)
    (pixel : UInt8) :
    number depth (pixels ++ [pixel]) =
      number depth pixels * 2 ^ depth + pixel.toNat := by
  rw [number, List.foldl_append, List.foldl_cons, List.foldl_nil,
    Nat.shiftLeft_eq]
  rfl

/-- Leading pixels are digits of higher value. -/
theorem number_append
    (leading trailing : List UInt8) :
    number depth (leading ++ trailing) =
      number depth leading * 2 ^ (depth * trailing.length) +
        number depth trailing := by
  induction trailing using List.reverseRecOn with
  | nil =>
      simp [number]
  | append_singleton trailing pixel inductionHypothesis =>
      rw [← List.append_assoc, number_append_singleton, inductionHypothesis,
        number_append_singleton, List.length_append, List.length_singleton,
        Nat.mul_add, Nat.mul_one, Nat.pow_add]
      ring

theorem number_lt
    {pixels : List UInt8}
    (small : ∀ pixel ∈ pixels, pixel.toNat < 2 ^ depth) :
    number depth pixels < 2 ^ (depth * pixels.length) := by
  induction pixels using List.reverseRecOn with
  | nil =>
      simp [number]
  | append_singleton pixels pixel inductionHypothesis =>
      have leadingLt :=
        inductionHypothesis fun leading member =>
          small leading (List.mem_append_left _ member)
      have pixelLt := small pixel (by simp)
      rw [number_append_singleton, List.length_append, List.length_singleton,
        Nat.mul_add, Nat.mul_one, Nat.pow_add]
      calc
        number depth pixels * 2 ^ depth + pixel.toNat
            < (number depth pixels + 1) * 2 ^ depth := by
              rw [Nat.succ_mul]
              omega
        _ ≤ 2 ^ (depth * pixels.length) * 2 ^ depth :=
              Nat.mul_le_mul_right _ leadingLt

/-- A pixel is the digit of its place, counted from the end. -/
theorem digit_number
    (leading : List UInt8)
    {pixel : UInt8}
    {trailing : List UInt8}
    (small : pixel.toNat < 2 ^ depth)
    (trailingSmall : ∀ later ∈ trailing, later.toNat < 2 ^ depth) :
    number depth (leading ++ pixel :: trailing) / 2 ^ (depth * trailing.length) %
        2 ^ depth =
      pixel.toNat := by
  have spelled :
      number depth (leading ++ pixel :: trailing) =
        number depth trailing +
          2 ^ (depth * trailing.length) *
            (number depth leading * 2 ^ depth + pixel.toNat) := by
    rw [← List.singleton_append, ← List.append_assoc, number_append,
      number_append_singleton]
    ring
  rw [spelled, Nat.add_mul_div_left _ _ (Nat.two_pow_pos _),
    Nat.div_eq_of_lt (number_lt trailingSmall), Nat.zero_add,
    Nat.mul_add_mod_self_right, Nat.mod_eq_of_lt small]

end Digits

section Bytes

variable {depth : Nat}

theorem pixelsPerByte_mul
    (standard : depth ∈ depths) :
    depth * (8 / depth) = 8 := by
  simp only [depths, List.mem_cons, List.not_mem_nil, or_false] at standard
  rcases standard with rfl | rfl | rfl | rfl <;> rfl

theorem pixelsPerByte_pos
    (standard : depth ∈ depths) :
    0 < 8 / depth := by
  apply Nat.pos_of_ne_zero
  intro none
  have product := pixelsPerByte_mul standard
  rw [none, Nat.mul_zero] at product
  exact absurd product (by decide)

/-- The bytes of a row are as few as can hold it. -/
theorem size_bounds
    (standard : depth ∈ depths)
    (width : Nat) :
    width ≤ size depth width * (8 / depth) ∧
      size depth width * (8 / depth) < width + 8 / depth := by
  simp only [depths, List.mem_cons, List.not_mem_nil, or_false] at standard
  rcases standard with rfl | rfl | rfl | rfl <;>
    simp only [size, Nat.reduceDiv] <;>
    omega

/-- An index takes at most a byte, so a row takes at most a byte for each. -/
theorem size_le_width
    (standard : depth ∈ depths)
    (width : Nat) :
    size depth width ≤ width := by
  have atMostByte : depth ≤ 8 := by
    simp only [depths, List.mem_cons, List.not_mem_nil, or_false] at standard
    rcases standard with rfl | rfl | rfl | rfl <;> decide
  have bits : width * depth ≤ width * 8 :=
    Nat.mul_le_mul_left width atMostByte
  rw [size]
  omega

/-- A wider row takes no fewer bytes. -/
theorem size_le_size
    {width wider : Nat}
    (le : width ≤ wider) :
    size depth width ≤ size depth wider :=
  Nat.div_le_div_right
    (Nat.add_le_add_right (Nat.mul_le_mul_right depth le) 7)

/-- The pixels of a full byte are read back from it. -/
theorem unpackByte_packByte
    {pixels : List UInt8}
    (standard : depth ∈ depths)
    (full : pixels.length = 8 / depth)
    (small : ∀ pixel ∈ pixels, pixel.toNat < 2 ^ depth) :
    unpackByte depth (packByte depth pixels) = pixels := by
  have bits : depth * pixels.length = 8 := by
    rw [full, pixelsPerByte_mul standard]
  have value : (packByte depth pixels).toNat = number depth pixels := by
    have below := number_lt small
    rw [bits] at below
    rw [packByte_eq_number, bits]
    exact Nat.mod_eq_of_lt below
  apply List.ext_getElem
  · rw [unpackByte, List.length_map, List.length_range, full]
  · intro place _ inside
    have split : pixels.take place ++ pixels[place] :: pixels.drop (place + 1) =
        pixels := by
      rw [List.getElem_cons_drop, List.take_append_drop]
    have later :
        8 - depth * (place + 1) =
          depth * (pixels.drop (place + 1)).length := by
      rw [List.length_drop, Nat.mul_sub, bits]
    have digit :=
      digit_number (pixels.take place)
        (small pixels[place] (List.getElem_mem inside))
        (fun pixel (member : pixel ∈ pixels.drop (place + 1)) =>
          small pixel (List.mem_of_mem_drop member))
    rw [split, ← later] at digit
    simp only [unpackByte, List.getElem_map, List.getElem_range, value]
    rw [Nat.shiftRight_eq_div_pow, Nat.one_shiftLeft, digit]
    exact UInt8.ofNat_toNat

end Bytes

section Rows

variable
  {depth : Nat}
  {row scanline : Bytes}

@[simp] theorem pack_nil : pack depth [] = [] := by
  rw [pack, Traversal.chunks_nil, List.map_nil]

/-- A scanline that holds a row is as long as a row of that width. -/
theorem Holds.length_eq
    (standard : depth ∈ depths)
    (holds : Holds depth row scanline) :
    scanline.length = size depth row.length := by
  obtain ⟨filler, _, complete, rfl⟩ := holds
  rw [pack, List.length_map]
  exact (Traversal.chunks_full (pixelsPerByte_pos standard) complete).1

/-- The row is read back from a scanline that holds it. -/
theorem Holds.unpack_eq
    (standard : depth ∈ depths)
    (small : ∀ pixel ∈ row, pixel.toNat < 2 ^ depth)
    (holds : Holds depth row scanline) :
    unpack depth row.length scanline = row := by
  obtain ⟨filler, fillerSmall, complete, rfl⟩ := holds
  have allSmall : ∀ pixel ∈ row ++ filler, pixel.toNat < 2 ^ depth := by
    intro pixel member
    rcases List.mem_append.mp member with inRow | inFiller
    · exact small pixel inRow
    · exact fillerSmall pixel inFiller
  have positive := pixelsPerByte_pos standard
  have joined := Traversal.flatten_chunks positive (row ++ filler)
  have full := (Traversal.chunks_full positive complete).2
  have bytewise :
      ∀ piece ∈ Traversal.chunks (8 / depth) (row ++ filler),
        unpackByte depth (packByte depth piece) = piece := by
    intro piece member
    apply unpackByte_packByte standard (full piece member)
    intro pixel inPiece
    apply allSmall
    rw [← joined]
    exact List.mem_flatten.mpr ⟨piece, member, inPiece⟩
  rw [unpack, pack, List.flatMap_map, List.flatMap_def,
    List.map_congr_left bytewise, List.map_id', joined, List.take_left]

theorem number_replicate_zero
    (count : Nat) :
    number depth (List.replicate count 0) = 0 := by
  induction count with
  | zero =>
      rfl
  | succ count inductionHypothesis =>
      rw [List.replicate_succ', number_append_singleton, inductionHypothesis]
      simp

/-- The clear bits of a last byte are those of pixels of index zero. -/
theorem packByte_append_replicate
    {pixels : List UInt8}
    {count : Nat}
    (full : depth * (pixels.length + count) = 8) :
    packByte depth (pixels ++ List.replicate count 0) =
      packByte depth pixels := by
  have missing : 8 - depth * pixels.length = depth * count := by
    rw [← full, Nat.mul_add, Nat.add_sub_cancel_left]
  rw [packByte_eq_number, packByte_eq_number, number_append,
    number_replicate_zero, List.length_append, List.length_replicate, full,
    Nat.sub_self, Nat.shiftLeft_zero, Nat.add_zero, missing, Nat.shiftLeft_eq]

/-- Filling a row up with pixels of index zero does not change its scanline. -/
theorem pack_append_replicate
    {count blocks : Nat}
    (standard : depth ∈ depths)
    (complete : row.length + count = blocks * (8 / depth))
    (few : count < 8 / depth) :
    pack depth (row ++ List.replicate count 0) = pack depth row := by
  have positive := pixelsPerByte_pos standard
  induction blocks generalizing row with
  | zero =>
      have none : count = 0 := by
        omega
      rw [none, List.replicate_zero, List.append_nil]
  | succ blocks inductionHypothesis =>
      rw [Nat.succ_mul] at complete
      have nonempty : row ≠ [] := by
        rintro rfl
        rw [List.length_nil] at complete
        omega
      have filledNonempty : row ++ List.replicate count 0 ≠ [] :=
        List.append_ne_nil_of_left_ne_nil nonempty _
      rw [pack, pack, Traversal.chunks_eq_cons positive nonempty,
        Traversal.chunks_eq_cons positive filledNonempty, List.map_cons,
        List.map_cons]
      by_cases whole : 8 / depth ≤ row.length
      · have restComplete :
            (row.drop (8 / depth)).length + count = blocks * (8 / depth) := by
          rw [List.length_drop]
          omega
        rw [List.take_append_of_le_length whole,
          List.drop_append_of_le_length whole]
        exact congrArg (_ :: ·) (inductionHypothesis restComplete)
      · have last : row.length + count = 8 / depth := by
          have noMore : blocks = 0 := by
            apply Nat.eq_zero_of_not_pos
            intro more
            have := Nat.le_mul_of_pos_left (8 / depth) more
            omega
          rw [complete, noMore, Nat.zero_mul, Nat.zero_add]
        have filledLength :
            (row ++ List.replicate count 0).length = 8 / depth := by
          rw [List.length_append, List.length_replicate, last]
        rw [List.take_of_length_le (Nat.le_of_eq filledLength),
          List.drop_of_length_le (Nat.le_of_eq filledLength),
          List.take_of_length_le (Nat.le_of_not_le whole),
          List.drop_of_length_le (Nat.le_of_not_le whole),
          packByte_append_replicate (by rw [last, pixelsPerByte_mul standard])]

/-- A row's own scanline holds it. -/
theorem holds_pack
    (standard : depth ∈ depths) :
    Holds depth row (pack depth row) := by
  obtain ⟨enough, tight⟩ := size_bounds standard row.length
  obtain ⟨count, complete⟩ := Nat.exists_eq_add_of_le enough
  refine ⟨List.replicate count 0, ?_, ?_, ?_⟩
  · intro pixel member
    rw [List.eq_of_mem_replicate member]
    exact Nat.two_pow_pos depth
  · rw [List.length_append, List.length_replicate, complete]
  · exact (pack_append_replicate standard complete.symm (by omega)).symm

theorem holds_map_pack
    (standard : depth ∈ depths)
    (rows : List Bytes) :
    List.Forall₂ (Holds depth) rows (rows.map (pack depth)) :=
  List.forall₂_map_right_iff.mpr
    (List.forall₂_same.mpr fun _ _ => holds_pack standard)

end Rows

section Buffers

variable
  {depth width : Nat}
  {rows scanlines : List Bytes}

theorem size_pos
    (standard : depth ∈ depths)
    (widthPos : 0 < width) :
    0 < size depth width := by
  have enough := (size_bounds standard width).1
  apply Nat.pos_of_ne_zero
  intro empty
  rw [empty, Nat.zero_mul] at enough
  omega

/-- The scanlines of rows of one width have one length. -/
theorem length_of_mem_scanlines
    (standard : depth ∈ depths)
    (sized : ∀ row ∈ rows, row.length = width)
    (holds : List.Forall₂ (Holds depth) rows scanlines)
    {scanline : Bytes}
    (member : scanline ∈ scanlines) :
    scanline.length = size depth width := by
  induction holds with
  | nil =>
      cases member
  | cons firstHolds _ inductionHypothesis =>
      rcases List.mem_cons.mp member with rfl | inRest
      · rw [firstHolds.length_eq standard, sized _ List.mem_cons_self]
      · exact
          inductionHypothesis
            (fun row inRows => sized row (List.mem_cons_of_mem _ inRows))
            inRest

/-- Rows are read back from the scanlines that hold them. -/
theorem map_unpack_of_holds
    (standard : depth ∈ depths)
    (sized : ∀ row ∈ rows, row.length = width)
    (small : ∀ row ∈ rows, ∀ pixel ∈ row, pixel.toNat < 2 ^ depth)
    (holds : List.Forall₂ (Holds depth) rows scanlines) :
    scanlines.map (unpack depth width) = rows := by
  induction holds with
  | nil =>
      rfl
  | @cons row scanline _ _ firstHolds _ inductionHypothesis =>
      have first : unpack depth width scanline = row := by
        rw [← sized row List.mem_cons_self]
        exact firstHolds.unpack_eq standard (small row List.mem_cons_self)
      have rest :=
        inductionHypothesis
          (fun row member => sized row (List.mem_cons_of_mem _ member))
          (fun row member => small row (List.mem_cons_of_mem _ member))
      rw [List.map_cons, first, rest]

/-- All rows are read back from a buffer of scanlines, whatever follows the last. -/
theorem unpackAll_of_holds
    (standard : depth ∈ depths)
    (widthPos : 0 < width)
    (sized : ∀ row ∈ rows, row.length = width)
    (small : ∀ row ∈ rows, ∀ pixel ∈ row, pixel.toNat < 2 ^ depth)
    (holds : List.Forall₂ (Holds depth) rows scanlines)
    (rest : Bytes) :
    unpackAll depth width (size depth width) rows.length
        (scanlines.flatten ++ rest) =
      rows.flatten := by
  have pieces :
      Traversal.chunks (size depth width) (scanlines.flatten ++ rest) =
        scanlines ++ Traversal.chunks (size depth width) rest :=
    Traversal.chunks_flatten_append (size_pos standard widthPos)
      (fun _ member => length_of_mem_scanlines standard sized holds member) rest
  rw [unpackAll, pieces, holds.length_eq, List.take_left, List.flatMap_def,
    map_unpack_of_holds standard sized small holds]

end Buffers

end Scanline

end SpritePack
