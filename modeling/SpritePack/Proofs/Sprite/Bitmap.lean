import SpritePack.Proofs.Raster.Pixels
import SpritePack.Proofs.Traversal.Pieces
import SpritePack.Sprite

namespace SpritePack

/-!
# Packed bitmaps

Two neighbours of a row share a byte, the left one in its high bits.  Each row
is packed on its own, so that the byte of a pair is found from its row and its
place there, at any width and height.
-/

/-- A byte of two indices below sixteen is their number in base sixteen. -/
theorem toNat_nibbles
    {left right : UInt8}
    (leftSmall : left.toNat < 16)
    (rightSmall : right.toNat < 16) :
    ((left <<< 4) ||| right).toNat = left.toNat * 16 + right.toNat := by
  have shifted : (left <<< 4).toNat = left.toNat <<< 4 := by
    simp only [UInt8.toNat_shiftLeft, UInt8.reduceToNat, Nat.reduceMod,
      Nat.shiftLeft_eq]
    omega
  rw [UInt8.toNat_or, shifted,
    ← Nat.shiftLeft_add_eq_or_of_lt (i := 4) rightSmall, Nat.shiftLeft_eq]

/-- The high bits of a packed byte hold the left index. -/
theorem high_nibble
    {left right : UInt8}
    (leftSmall : left.toNat < 16)
    (rightSmall : right.toNat < 16) :
    ((left <<< 4) ||| right) >>> 4 = left := by
  apply UInt8.toNat_inj.mp
  simp only [UInt8.toNat_shiftRight, toNat_nibbles leftSmall rightSmall,
    UInt8.reduceToNat, Nat.reduceMod, Nat.shiftRight_eq_div_pow]
  omega

/-- The low bits of a packed byte hold the right index. -/
theorem low_nibble
    {left right : UInt8}
    (leftSmall : left.toNat < 16)
    (rightSmall : right.toNat < 16) :
    ((left <<< 4) ||| right) &&& 15 = right := by
  apply UInt8.toNat_inj.mp
  have mask : (15 : UInt8).toNat = 2 ^ 4 - 1 := rfl
  rw [UInt8.toNat_and, toNat_nibbles leftSmall rightSmall, mask,
    Nat.and_two_pow_sub_one_eq_mod]
  omega

theorem length_le_one_of_no_pair
    {pixels : Bytes}
    (noPair : ∀ left right rest, pixels = left :: right :: rest → False) :
    pixels.length ≤ 1 := by
  match pixels, noPair with
  | [], _ => exact Nat.zero_le 1
  | [_], _ => exact Nat.le_refl 1
  | left :: right :: rest, noPair =>
      exact (noPair left right rest rfl).elim

/-- A row packs into half as many bytes; a last lone pixel has none. -/
@[simp] theorem length_packNibbles
    (pixels : Bytes) :
    (packNibbles pixels).length = pixels.length / 2 := by
  fun_induction packNibbles pixels with
  | case1 left right rest inductionHypothesis =>
      simp only [List.length_cons, inductionHypothesis]
      omega
  | case2 pixels noPair =>
      have short := length_le_one_of_no_pair noPair
      rw [List.length_nil]
      omega

/-- Each byte of a packed row holds the pair of pixels of its place. -/
theorem getElem?_packNibbles
    {pixels : Bytes}
    {pair : Nat}
    {left right : UInt8}
    (leftAt : pixels[2 * pair]? = some left)
    (rightAt : pixels[2 * pair + 1]? = some right) :
    (packNibbles pixels)[pair]? = some ((left <<< 4) ||| right) := by
  fun_induction packNibbles pixels generalizing pair with
  | case1 first second rest inductionHypothesis =>
      cases pair with
      | zero =>
          simp only [Nat.mul_zero, Nat.zero_add, List.getElem?_cons_zero,
            List.getElem?_cons_succ, Option.some.injEq] at leftAt rightAt
          rw [leftAt, rightAt, List.getElem?_cons_zero]
      | succ pair =>
          rw [List.getElem?_cons_succ]
          exact inductionHypothesis leftAt rightAt
  | case2 pixels noPair =>
      have short := length_le_one_of_no_pair noPair
      obtain ⟨enough, _⟩ := List.getElem?_eq_some_iff.mp rightAt
      omega

/-- Pairs of pixels may be packed in portions. -/
theorem packNibbles_append
    {pixels : Bytes}
    (even : pixels.length % 2 = 0)
    (rest : Bytes) :
    packNibbles (pixels ++ rest) = packNibbles pixels ++ packNibbles rest := by
  fun_induction packNibbles pixels with
  | case1 left right others inductionHypothesis =>
      have othersEven : others.length % 2 = 0 := by
        simp only [List.length_cons] at even
        omega
      rw [List.cons_append, List.cons_append, packNibbles,
        inductionHypothesis othersEven, List.cons_append]
  | case2 pixels noPair =>
      have short := length_le_one_of_no_pair noPair
      have none : pixels = [] :=
        List.eq_nil_of_length_eq_zero (by omega)
      rw [none, List.nil_append, List.nil_append]

/-- Rows of even width may be packed one by one. -/
theorem flatMap_packNibbles
    {rows : List Bytes}
    (even : ∀ row ∈ rows, row.length % 2 = 0) :
    rows.flatMap packNibbles = packNibbles rows.flatten := by
  induction rows with
  | nil =>
      rfl
  | cons row others inductionHypothesis =>
      have othersEven := fun other member =>
        even other (List.mem_cons_of_mem row member)
      rw [List.flatMap_cons, List.flatten_cons,
        packNibbles_append (even row List.mem_cons_self),
        inductionHypothesis othersEven]

/-- A packed byte is made of two of the pixels. -/
theorem mem_packNibbles
    {pixels : Bytes}
    {byte : UInt8}
    (member : byte ∈ packNibbles pixels) :
    ∃ left ∈ pixels, ∃ right ∈ pixels, byte = (left <<< 4) ||| right := by
  fun_induction packNibbles pixels with
  | case1 first second rest inductionHypothesis =>
      rcases List.mem_cons.mp member with isFirst | inRest
      · exact ⟨first, by simp, second, by simp, isFirst⟩
      · obtain ⟨left, leftMember, right, rightMember, made⟩ :=
          inductionHypothesis inRest
        exact ⟨left, by simp [leftMember], right, by simp [rightMember], made⟩
  | case2 =>
      cases member

namespace Raster

variable (raster : Raster)

theorem length_packNibbles_row
    {row : Bytes}
    (member : row ∈ raster.rows) :
    (packNibbles row).length = raster.width / 2 := by
  rw [length_packNibbles, raster.length_of_mem_rows member]

/-- The bitmap's rows take half as many bytes as the raster is wide. -/
theorem length_bitmap :
    (raster.rows.flatMap packNibbles).length =
      raster.height * (raster.width / 2) := by
  rw [Traversal.length_flatMap_of_sized fun _ member =>
    raster.length_packNibbles_row member, length_rows]
  split
  next noWidth =>
    simp [noWidth]
  next =>
    rfl

/-- The byte of a pair of neighbours, in the bitmap of a raster of any size. -/
theorem getElem?_bitmap
    {pair y : Nat}
    (inWidth : 2 * pair + 1 < raster.width)
    (inHeight : y < raster.height) :
    (raster.rows.flatMap packNibbles)[y * (raster.width / 2) + pair]? =
      some
        ((raster.index (2 * pair) y (Nat.lt_of_succ_lt inWidth) inHeight <<< 4) |||
          raster.index (2 * pair + 1) y inWidth inHeight) := by
  have pairInside : pair < raster.width / 2 := by omega
  have leftAt := raster.getElem?_row (Nat.lt_of_succ_lt inWidth) inHeight
  have rightAt := raster.getElem?_row inWidth inHeight
  rw [Traversal.getElem?_flatMap_of_sized
    (fun _ member => raster.length_packNibbles_row member) y pairInside]
  cases rowAt : raster.rows[y]? with
  | none =>
      rw [rowAt] at leftAt
      cases leftAt
  | some row =>
      rw [rowAt] at leftAt rightAt
      exact getElem?_packNibbles leftAt rightAt

end Raster

end SpritePack
