import Mathlib.Algebra.Group.Nat.Defs
import Mathlib.Data.Nat.Bitwise
import SpritePack.Proofs.Scanline.Access
import SpritePack.Scanline.Bits

namespace SpritePack

/-!
# Unpacking keeps the bits

Pixels that are unpacked from a scanline have the scanline's bits in the same
order, cut into numbers of another size.  So a row is unpacked exactly from the
scanlines that start with its bits, and of a buffer the bits of pixels count, and
no others.
-/

namespace Bytes

section Numbers

variable {count : Nat}

@[simp] theorem length_numberBits
    (number : Nat) :
    (numberBits count number).length = count := by
  rw [numberBits, List.length_map, List.length_range]

theorem getElem?_numberBits
    (number : Nat)
    {place : Nat}
    (inside : place < count) :
    (numberBits count number)[place]? =
      some (number.testBit (count - 1 - place)) := by
  rw [numberBits, List.getElem?_map, List.getElem?_range inside, Option.map_some]

/-- A number that needs no further bits is known by these. -/
theorem numberBits_inj
    {first second : Nat}
    (firstLt : first < 2 ^ count)
    (secondLt : second < 2 ^ count)
    (same : numberBits count first = numberBits count second) :
    first = second := by
  apply Nat.eq_of_testBit_eq
  intro place
  by_cases inside : place < count
  · have found := congrArg (fun bits => bits[count - 1 - place]?) same
    have counted : count - 1 - (count - 1 - place) = place := by omega
    rw [getElem?_numberBits first (by omega),
      getElem?_numberBits second (by omega), counted] at found
    exact Option.some.inj found
  · have wide : 2 ^ count ≤ 2 ^ place :=
      Nat.pow_le_pow_right (by decide) (Nat.le_of_not_lt inside)
    rw [Nat.testBit_lt_two_pow (Nat.lt_of_lt_of_le firstLt wide),
      Nat.testBit_lt_two_pow (Nat.lt_of_lt_of_le secondLt wide)]

/-- Any bits are those of a number. -/
theorem exists_numberBits
    {bits : List Bool}
    (length : bits.length = count) :
    ∃ number < 2 ^ count, numberBits count number = bits := by
  refine
    ⟨Nat.ofBits fun place : Fin count => bits.getD (count - 1 - place) false,
      Nat.ofBits_lt_two_pow _, ?_⟩
  apply List.ext_getElem?
  intro place
  by_cases inside : place < count
  · have counted : count - 1 - (count - 1 - place) = place := by omega
    rw [getElem?_numberBits _ inside,
      Nat.testBit_ofBits_lt _ _ (by omega), counted,
      List.getD_eq_getElem _ _ (by omega), List.getElem?_eq_getElem]
  · rw [List.getElem?_eq_none (by rw [length_numberBits]; omega),
      List.getElem?_eq_none (by omega)]

end Numbers

section Lists

variable {count : Nat}

@[simp] theorem bits_nil : bits count [] = [] := rfl

theorem bits_cons
    (number : UInt8)
    (numbers : Bytes) :
    bits count (number :: numbers) =
      numberBits count number.toNat ++ bits count numbers :=
  rfl

/-- The bits of joined lists are those of one list after the other. -/
theorem bits_flatMap
    {α : Type}
    (items : List α)
    (piece : α → Bytes) :
    bits count (items.flatMap piece) =
      items.flatMap fun item => bits count (piece item) :=
  List.flatMap_assoc

@[simp] theorem length_bits
    (numbers : Bytes) :
    (bits count numbers).length = numbers.length * count :=
  Traversal.length_flatMap_of_sized fun _ _ => length_numberBits _

/-- A bit in pieces of one length lies behind the bits of all pieces before. -/
theorem getElem?_bits_flatten
    {size : Nat}
    {pieces : List Bytes}
    (sized : ∀ piece ∈ pieces, piece.length = size)
    (number : Nat)
    {place : Nat}
    (inside : place < size * count) :
    (bits count pieces.flatten)[number * (size * count) + place]? =
      pieces[number]?.bind fun piece => (bits count piece)[place]? := by
  have bitsSized :
      ∀ piece ∈ pieces, (bits count piece).length = size * count := by
    intro piece member
    rw [length_bits, sized piece member]
  rw [List.flatten_eq_flatMap, bits_flatMap]
  exact Traversal.getElem?_flatMap_of_sized bitsSized number inside

/-- The bits of the first numbers are the first bits. -/
theorem bits_take
    (numbers : Bytes)
    (wanted : Nat) :
    bits count (numbers.take wanted) =
      (bits count numbers).take (wanted * count) := by
  induction numbers generalizing wanted with
  | nil =>
      rw [List.take_nil, bits_nil, List.take_nil]
  | cons number rest inductionHypothesis =>
      cases wanted with
      | zero =>
          rw [List.take_zero, Nat.zero_mul, List.take_zero, bits_nil]
      | succ wanted =>
          have reached : (numberBits count number.toNat).length ≤
              (wanted + 1) * count := by
            rw [length_numberBits]
            exact Nat.le_mul_of_pos_left count (Nat.succ_pos wanted)
          have rest : (wanted + 1) * count - count = wanted * count := by
            rw [Nat.succ_mul, Nat.add_sub_cancel]
          rw [List.take_succ_cons, bits_cons, bits_cons, List.take_append,
            List.take_of_length_le reached, length_numberBits, rest,
            inductionHypothesis]

/-- Numbers that need no further bits are known by their bits. -/
theorem bits_inj
    {first second : Bytes}
    (sameLength : first.length = second.length)
    (firstLt : ∀ number ∈ first, number.toNat < 2 ^ count)
    (secondLt : ∀ number ∈ second, number.toNat < 2 ^ count)
    (same : bits count first = bits count second) :
    first = second := by
  induction first generalizing second with
  | nil =>
      exact (List.eq_nil_of_length_eq_zero sameLength.symm).symm
  | cons number rest inductionHypothesis =>
      cases second with
      | nil =>
          cases sameLength
      | cons other others =>
          rw [bits_cons, bits_cons] at same
          obtain ⟨sameHead, sameRest⟩ :=
            List.append_inj same (by rw [length_numberBits, length_numberBits])
          have head : number = other :=
            UInt8.toNat_inj.mp <|
              numberBits_inj (firstLt number List.mem_cons_self)
                (secondLt other List.mem_cons_self) sameHead
          have tail : rest = others :=
            inductionHypothesis (Nat.succ.inj sameLength)
              (fun later member => firstLt later (List.mem_cons_of_mem _ member))
              (fun later member => secondLt later (List.mem_cons_of_mem _ member))
              sameRest
          rw [head, tail]

/-- Bytes are known by their bits. -/
theorem bits_eight_inj
    {first second : Bytes}
    (same : bits 8 first = bits 8 second) :
    first = second := by
  have sameLength := congrArg List.length same
  rw [length_bits, length_bits] at sameLength
  exact
    bits_inj (Nat.eq_of_mul_eq_mul_right (by decide) sameLength)
      (fun byte _ => byte.toNat_lt) (fun byte _ => byte.toNat_lt) same

/-- Any bits that fill up whole bytes are those of some bytes. -/
theorem exists_bits_eight
    {length : Nat}
    {wanted : List Bool}
    (complete : wanted.length = length * 8) :
    ∃ bytes : Bytes, bytes.length = length ∧ bits 8 bytes = wanted := by
  induction length generalizing wanted with
  | zero =>
      rw [Nat.zero_mul] at complete
      exact ⟨[], rfl, (List.eq_nil_of_length_eq_zero complete).symm⟩
  | succ length inductionHypothesis =>
      have headLength : (wanted.take 8).length = 8 := by
        rw [List.length_take]
        omega
      have restLength : (wanted.drop 8).length = length * 8 := by
        rw [List.length_drop]
        omega
      obtain ⟨number, small, head⟩ := exists_numberBits headLength
      obtain ⟨rest, sized, tail⟩ := inductionHypothesis restLength
      have value : number.toUInt8.toNat = number := Nat.mod_eq_of_lt small
      refine ⟨number.toUInt8 :: rest, by rw [List.length_cons, sized], ?_⟩
      rw [bits_cons, value, head, tail, List.take_append_drop]

end Lists

end Bytes

namespace Scanline

section Regrouping

variable
  {depth : Nat}
  (standard : depth ∈ depths)

include standard

/-- A pixel is the number that is left of its byte after shifting and masking. -/
theorem toNat_pixelIn
    (byte : UInt8)
    {place : Nat}
    (inByte : place < 8 / depth) :
    (pixelIn depth byte place).toNat =
      byte.toNat >>> (8 - depth * (place + 1)) % 2 ^ depth := by
  have found := getElem?_unpackByte standard byte inByte
  have small :
      byte.toNat >>> (8 - depth * (place + 1)) % 2 ^ depth < 256 :=
    Nat.lt_of_lt_of_le (Nat.mod_lt _ (Nat.two_pow_pos depth))
      (Nat.pow_le_pow_right (show 0 < 2 by decide) (depth_bounds standard).2)
  rw [unpackByte, List.getElem?_map, List.getElem?_range inByte,
    Option.map_some, Option.some.injEq] at found
  rw [← found, Nat.toUInt8_eq, UInt8.toNat_ofNat', Nat.one_shiftLeft]
  exact Nat.mod_eq_of_lt small

/-- A bit of a pixel is the bit of its byte that lies as many whole pixels further on. -/
theorem testBit_pixelIn
    (byte : UInt8)
    {place bit : Nat}
    (inByte : place < 8 / depth)
    (inPixel : bit < depth) :
    (pixelIn depth byte place).toNat.testBit (depth - 1 - bit) =
      byte.toNat.testBit (8 - 1 - (place * depth + bit)) := by
  have used : depth * (place + 1) ≤ 8 :=
    Nat.le_trans (Nat.mul_le_mul_left depth inByte)
      (Nat.le_of_eq (pixelsPerByte_mul standard))
  rw [Nat.mul_succ, Nat.mul_comm] at used
  have further :
      8 - depth * (place + 1) + (depth - 1 - bit) =
        8 - 1 - (place * depth + bit) := by
    rw [Nat.mul_succ, Nat.mul_comm]
    omega
  rw [toNat_pixelIn standard byte inByte, Nat.testBit_mod_two_pow,
    Nat.testBit_shiftRight, further,
    decide_eq_true (show depth - 1 - bit < depth by omega), Bool.true_and]

/-- The pixels of a byte have its bits, in the same order. -/
theorem bits_unpackByte
    (byte : UInt8) :
    Bytes.bits depth (unpackByte depth byte) = Bytes.numberBits 8 byte.toNat := by
  have depthPos := (depth_bounds standard).1
  have whole := pixelsPerByte_mul standard
  have length : (Bytes.bits depth (unpackByte depth byte)).length = 8 := by
    rw [Bytes.length_bits, length_unpackByte, Nat.mul_comm, whole]
  apply List.ext_getElem?
  intro place
  by_cases inside : place < 8
  · have inPixel := Nat.mod_lt place depthPos
    have inByte : place / depth < 8 / depth := by
      apply Nat.div_lt_of_lt_mul
      rw [whole]
      exact inside
    have sized :
        ∀ pixel ∈ unpackByte depth byte,
          (Bytes.numberBits depth pixel.toNat).length = depth :=
      fun pixel _ => Bytes.length_numberBits pixel.toNat
    have found :=
      Traversal.getElem?_flatMap_of_sized sized (place / depth) inPixel
    rw [Nat.div_add_mod', getElem?_unpackByte standard byte inByte,
      Option.bind_some, Bytes.getElem?_numberBits _ inPixel,
      testBit_pixelIn standard byte inByte inPixel, Nat.div_add_mod'] at found
    rw [Bytes.getElem?_numberBits _ inside]
    exact found
  · rw [List.getElem?_eq_none (by omega),
      List.getElem?_eq_none (by rw [Bytes.length_numberBits]; omega)]

/-- The pixels of a run of bytes have its bits, in the same order. -/
theorem bits_flatMap_unpackByte
    (bytes : Bytes) :
    Bytes.bits depth (bytes.flatMap (unpackByte depth)) = Bytes.bits 8 bytes := by
  rw [Bytes.bits_flatMap]
  exact List.flatMap_congr fun byte _ => bits_unpackByte standard byte

/-- The pixels of a row have the first bits of its scanline. -/
theorem bits_unpack
    (width : Nat)
    (scanline : Bytes) :
    Bytes.bits depth (unpack depth width scanline) =
      (Bytes.bits 8 scanline).take (width * depth) := by
  rw [unpack, Bytes.bits_take, bits_flatMap_unpackByte standard]

/-- A byte is packed again from its pixels. -/
theorem packByte_unpackByte
    (byte : UInt8) :
    packByte depth (unpackByte depth byte) = byte := by
  have again :=
    unpackByte_packByte standard (length_unpackByte byte)
      (fun _ member => lt_of_mem_unpackByte member)
  have sameBits := bits_unpackByte standard (packByte depth (unpackByte depth byte))
  rw [again, bits_unpackByte standard byte] at sameBits
  exact
    UInt8.toNat_inj.mp
      (Bytes.numberBits_inj (UInt8.toNat_lt _) (UInt8.toNat_lt _) sameBits).symm

/-- A scanline is packed again from all pixels of its bytes. -/
theorem pack_flatMap_unpackByte
    (scanline : Bytes) :
    pack depth (scanline.flatMap (unpackByte depth)) = scanline := by
  have pieces :
      Traversal.chunks (8 / depth) (scanline.flatMap (unpackByte depth)) =
        scanline.map (unpackByte depth) := by
    have sized :
        ∀ byte ∈ scanline, (unpackByte depth byte).length = 8 / depth :=
      fun byte _ => length_unpackByte byte
    have cut :=
      Traversal.chunks_flatten_append (pixelsPerByte_pos standard)
        (Traversal.length_of_mem_map sized) []
    rw [List.append_nil, Traversal.chunks_nil, List.append_nil,
      ← List.flatMap_def] at cut
    exact cut
  have packed :
      ∀ byte ∈ scanline, (packByte depth ∘ unpackByte depth) byte = byte :=
    fun byte _ => packByte_unpackByte standard byte
  rw [pack, pieces, List.map_map, List.map_congr_left packed, List.map_id']

end Regrouping

section Rows

variable
  {depth : Nat}
  {row scanline : Bytes}
  (standard : depth ∈ depths)
  (small : ∀ pixel ∈ row, pixel.toNat < 2 ^ depth)

include standard small

/-- A row is unpacked from the scanlines that start with its bits. -/
theorem unpack_eq_of_starts
    (sized : scanline.length = size depth row.length)
    (starts : Bytes.bits depth row <+: Bytes.bits 8 scanline) :
    unpack depth row.length scanline = row := by
  have first := List.prefix_iff_eq_take.mp starts
  rw [Bytes.length_bits, ← bits_unpack standard] at first
  exact
    (Bytes.bits_inj (length_unpack standard sized).symm small
      (fun _ member => lt_of_mem_unpack member) first).symm

/-- A scanline holds a row exactly if it spells it. -/
theorem holds_iff_spells :
    Holds depth row scanline ↔ Spells depth row scanline := by
  constructor
  · intro holds
    refine ⟨holds.length_eq standard, ?_⟩
    have unpacked := bits_unpack standard row.length scanline
    rw [holds.unpack_eq standard small] at unpacked
    rw [unpacked]
    exact List.take_prefix ..
  · rintro ⟨sized, starts⟩
    have unpacked := unpack_eq_of_starts standard small sized starts
    -- The pixels behind the row are what the scanline is filled up with.
    have all :
        row ++ (scanline.flatMap (unpackByte depth)).drop row.length =
          scanline.flatMap (unpackByte depth) := by
      nth_rewrite 1 [← unpacked]
      exact List.take_append_drop ..
    refine
      ⟨(scanline.flatMap (unpackByte depth)).drop row.length, ?_, ?_, ?_⟩
    · intro pixel member
      obtain ⟨_, _, inByte⟩ :=
        List.mem_flatMap.mp (List.mem_of_mem_drop member)
      exact lt_of_mem_unpackByte inByte
    · rw [all, Traversal.length_flatMap_of_sized fun byte _ =>
        length_unpackByte byte, sized]
    · rw [all, pack_flatMap_unpackByte standard]

omit standard small in
/-- Each choice of the bits behind a row is that of one scanline. -/
theorem existsUnique_spells
    {filler : List Bool}
    (complete :
      row.length * depth + filler.length = size depth row.length * 8) :
    ∃! scanline,
      Spells depth row scanline ∧
        Bytes.bits 8 scanline = Bytes.bits depth row ++ filler := by
  have length :
      (Bytes.bits depth row ++ filler).length = size depth row.length * 8 := by
    rw [List.length_append, Bytes.length_bits, complete]
  obtain ⟨scanline, sized, spelled⟩ := Bytes.exists_bits_eight length
  have starts : Bytes.bits depth row <+: Bytes.bits 8 scanline := by
    rw [spelled]
    exact List.prefix_append ..
  refine ⟨scanline, ⟨⟨sized, starts⟩, spelled⟩, ?_⟩
  rintro other ⟨_, otherSpelled⟩
  exact Bytes.bits_eight_inj (otherSpelled.trans spelled.symm)

end Rows

end Scanline

end SpritePack
