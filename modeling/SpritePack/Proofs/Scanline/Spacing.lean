import Mathlib.Data.List.GetD
import SpritePack.Proofs.Traversal.Pieces
import SpritePack.Scanline
import SpritePack.Scanline.Filter

namespace SpritePack

/-!
# Scanlines in a buffer

A buffer keeps its length whatever is put into it, and what stands at its start
does not depend on how far it goes on.  Scanlines as long as the stride fill it
without gaps, one after the other.
-/

namespace Scanline

/-- Enough zeros behind some bytes are as good as more of them. -/
theorem take_append_replicate
    {count more : Nat}
    (enough : count ≤ more)
    (bytes : Bytes) :
    (bytes ++ List.replicate more 0).take count =
      (bytes ++ List.replicate count 0).take count := by
  rw [List.take_append, List.take_append, List.take_replicate,
    List.take_replicate]
  congr 2
  omega

/-- A list that is filled up with zeros reads as one that is zero from its end on. -/
theorem getElem?_append_replicate
    {bytes : Bytes}
    {count place : Nat}
    (inside : place < bytes.length + count) :
    (bytes ++ List.replicate count 0)[place]? = some (bytes.getD place 0) := by
  by_cases within : place < bytes.length
  · rw [List.getElem?_append_left within, List.getElem?_eq_getElem within,
      List.getD_eq_getElem _ _ within]
  · have beyond : bytes.length ≤ place := Nat.le_of_not_lt within
    have filled : place - bytes.length < count := by
      omega
    rw [List.getElem?_append_right beyond, List.getElem?_replicate_of_lt filled,
      List.getD_eq_default _ _ beyond]

variable
  {stride room : Nat}
  {scanlines : List Bytes}

@[simp] theorem length_spaced :
    (spaced stride room scanlines).length = room := by
  simp only [spaced, List.length_take, List.length_append,
    List.length_replicate]
  omega

section Stride

variable (positive : 0 < stride)

include positive

/-- Full lines up to the one that a place lies in reach beyond that place. -/
theorem take_reached
    (line : Bytes → Bytes)
    (full : ∀ scanline, stride ≤ (line scanline).length)
    (extra : Nat) :
    ((scanlines.take (room / stride + 1)).flatMap line ++
          (((scanlines.drop (room / stride + 1)).take extra).flatMap line ++
            List.replicate room 0)).take room =
      ((scanlines.take (room / stride + 1)).flatMap line ++
          List.replicate room 0).take room := by
  by_cases all : scanlines.length ≤ room / stride + 1
  · rw [List.drop_of_length_le all, List.take_nil, List.flatMap_nil,
      List.nil_append]
  · have reached :
        room ≤ ((scanlines.take (room / stride + 1)).flatMap line).length :=
      calc
        room ≤ (room / stride + 1) * stride := by
          rw [Nat.mul_comm]
          exact Nat.le_of_lt (Nat.lt_mul_div_succ room positive)
        _ = (scanlines.take (room / stride + 1)).length * stride := by
          rw [List.length_take, Nat.min_eq_left (Nat.le_of_not_le all)]
        _ ≤ _ :=
          Traversal.le_length_flatMap fun scanline _ => full scanline
    rw [List.take_append_of_le_length reached,
      List.take_append_of_le_length reached]

/-- A shorter buffer holds the start of a longer one. -/
theorem take_spaced
    {more : Nat}
    (enough : room ≤ more) :
    (spaced stride more scanlines).take room =
      spaced stride room scanlines := by
  rw [spaced, spaced, List.take_take, Nat.min_eq_left enough,
    take_append_replicate enough]
  cases scanlines with
  | nil =>
      rfl
  | cons first rest =>
      by_cases narrow : room < stride
      · -- Only the first line is reached, and both buffers fill it up.
        have filled :
            ∀ pitch, room ≤ pitch → ∀ further : Bytes,
              (first ++ List.replicate (pitch - first.length) 0 ++
                  further ++ List.replicate room 0).take room =
                (first ++ List.replicate room 0).take room := by
          intro pitch wide further
          rw [List.append_assoc, List.take_append_of_le_length]
          · simp only [List.take_append, List.take_replicate]
            congr 2
            omega
          · simp only [List.length_append, List.length_replicate]
            omega
        have noMore : room / stride = 0 :=
          Nat.div_eq_of_lt narrow
        rw [noMore, List.take_succ_cons, List.take_succ_cons,
          List.flatMap_cons, List.flatMap_cons,
          filled (min stride more) (by omega),
          filled (min stride room) (by omega)]
      · -- The lines that only the longer buffer has lie behind the shorter one.
        have wide : stride ≤ room := Nat.le_of_not_lt narrow
        have further : room / stride + 1 ≤ more / stride + 1 :=
          Nat.succ_le_succ (Nat.div_le_div_right enough)
        obtain ⟨extra, count⟩ := Nat.exists_eq_add_of_le further
        rw [Nat.min_eq_left wide, Nat.min_eq_left (Nat.le_trans wide enough),
          count, List.take_add, List.flatMap_append, List.append_assoc]
        exact take_reached positive _ (fun scanline => by simp; omega) extra

/-- Scanlines as long as the stride stand in the buffer without gaps. -/
theorem spaced_of_sized
    (sized : ∀ scanline ∈ scanlines, scanline.length = stride) :
    spaced stride (stride * scanlines.length) scanlines =
      scanlines.flatten := by
  have length : scanlines.flatten.length = stride * scanlines.length := by
    rw [Traversal.length_flatten_of_sized sized, Nat.mul_comm]
  have lines :
      (scanlines.take (stride * scanlines.length / stride + 1)).flatMap
          (fun scanline : Bytes =>
            scanline ++
              List.replicate
                (min stride (stride * scanlines.length) - scanline.length) 0) =
        scanlines.flatten := by
    rw [List.take_of_length_le]
    · have unfilled :
          ∀ scanline ∈ scanlines,
            scanline ++
                List.replicate
                  (min stride (stride * scanlines.length) - scanline.length)
                  0 =
              scanline := by
        intro scanline member
        have noRoom :
            min stride (stride * scanlines.length) - scanline.length = 0 := by
          rw [sized scanline member]
          omega
        rw [noRoom, List.replicate_zero, List.append_nil]
      rw [List.flatMap_def, List.map_congr_left unfilled, List.map_id']
    · rw [Nat.mul_div_cancel_left _ positive]
      exact Nat.le_succ _
  rw [spaced, lines, List.take_left' length]

/-- Scanlines that are filled up to the stride, with zeros behind the last, read as they are. -/
theorem getElem?_lines
    (narrow : ∀ scanline ∈ scanlines, scanline.length ≤ stride)
    {place more : Nat}
    (inside : place < more) :
    (scanlines.flatMap
          (fun scanline =>
            scanline ++ List.replicate (stride - scanline.length) 0) ++
        List.replicate more 0)[place]? =
      some ((scanlines.getD (place / stride) []).getD (place % stride) 0) := by
  have sized :
      ∀ scanline ∈ scanlines,
        (scanline ++ List.replicate (stride - scanline.length) 0).length =
          stride := by
    intro scanline member
    rw [List.length_append, List.length_replicate]
    exact Nat.add_sub_cancel' (narrow scanline member)
  have length := Traversal.length_flatMap_of_sized sized
  have inLine := Nat.mod_lt place positive
  have found := Traversal.getElem?_flatMap_of_sized sized (place / stride) inLine
  rw [Nat.div_add_mod'] at found
  rw [getElem?_append_replicate (by omega), List.getD_eq_getElem?_getD, found]
  by_cases reached : place / stride < scanlines.length
  · rw [List.getD_eq_getElem _ _ reached, List.getElem?_eq_getElem reached,
      Option.bind_some, getElem?_append_replicate (by omega), Option.getD_some]
  · have beyond := Nat.le_of_not_lt reached
    rw [List.getD_eq_default _ _ beyond, List.getElem?_eq_none beyond,
      Option.bind_none, Option.getD_none, List.getD_nil]

/-- What stands at a place of a buffer, by the scanline that starts last before it. -/
theorem getElem?_spaced
    (narrow : ∀ scanline ∈ scanlines, scanline.length ≤ stride)
    {place : Nat}
    (inside : place < room) :
    (spaced stride room scanlines)[place]? =
      some ((scanlines.getD (place / stride) []).getD (place % stride) 0) := by
  -- In a buffer with room for all scanlines none of them is cut off.
  have enough : room ≤ room + stride * (scanlines.length + 1) :=
    Nat.le_add_right ..
  have wide : stride ≤ room + stride * (scanlines.length + 1) := by
    rw [Nat.mul_succ]
    omega
  have all :
      scanlines.length ≤
        (room + stride * (scanlines.length + 1)) / stride + 1 := by
    rw [Nat.add_mul_div_left _ _ positive]
    exact Nat.le_succ_of_le (Nat.le_succ_of_le (Nat.le_add_left ..))
  have insideAll := Nat.lt_of_lt_of_le inside enough
  rw [← take_spaced positive enough, List.getElem?_take_of_lt inside, spaced,
    List.getElem?_take_of_lt insideAll, Nat.min_eq_left wide,
    List.take_of_length_le all]
  exact getElem?_lines positive narrow insideAll

end Stride

end Scanline

end SpritePack
