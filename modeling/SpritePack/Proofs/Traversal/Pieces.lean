import SpritePack.Traversal

namespace SpritePack

/-!
# Pieces of equal length

Rows of a picture and scanlines of a buffer are lists cut into pieces of one
length.  Cutting and joining undo each other, and an item of the joined list is
found by the number of its piece and its place there.
-/

namespace Traversal

variable {α : Type}

/-- Joining the pieces of a list gives the list back. -/
theorem flatten_chunks
    {size : Nat}
    (positive : 0 < size)
    (items : List α) :
    (chunks size items).flatten = items := by
  by_cases nonempty : items = []
  · subst items
    simp
  · have shorter : (items.drop size).length < items.length := by
      have := List.length_pos_iff.mpr nonempty
      rw [List.length_drop]
      omega
    rw [chunks_eq_cons positive nonempty, List.flatten_cons,
      flatten_chunks positive (items.drop size), List.take_append_drop]
termination_by items.length

/-- No piece is longer than the size that a list is cut at. -/
theorem length_le_of_mem_chunks
    {size : Nat}
    {items piece : List α}
    (member : piece ∈ chunks size items) :
    piece.length ≤ size := by
  by_cases more : 0 < size ∧ items ≠ []
  · have shorter : (items.drop size).length < items.length := by
      have := List.length_pos_iff.mpr more.2
      rw [List.length_drop]
      omega
    rw [chunks_eq_cons more.1 more.2] at member
    rcases List.mem_cons.mp member with rfl | inRest
    · exact List.length_take_le size items
    · exact length_le_of_mem_chunks inRest
  · rw [chunks, chunksFrom, dif_neg more] at member
    cases member
termination_by items.length

/-- A first piece of the right length is cut off as it is. -/
theorem chunks_append
    {size : Nat}
    {piece : List α}
    (positive : 0 < size)
    (sized : piece.length = size)
    (rest : List α) :
    chunks size (piece ++ rest) = piece :: chunks size rest := by
  have nonempty : piece ++ rest ≠ [] := by
    intro empty
    have := congrArg List.length empty
    simp only [List.length_append, List.length_nil] at this
    omega
  rw [chunks_eq_cons positive nonempty, List.take_left' sized,
    List.drop_left' sized]

/-- Cutting joined pieces of one length gives the pieces back, whatever follows them. -/
theorem chunks_flatten_append
    {size : Nat}
    {pieces : List (List α)}
    (positive : 0 < size)
    (sized : ∀ piece ∈ pieces, piece.length = size)
    (rest : List α) :
    chunks size (pieces.flatten ++ rest) = pieces ++ chunks size rest := by
  induction pieces with
  | nil =>
      rfl
  | cons piece others inductionHypothesis =>
      have othersSized := fun other member =>
        sized other (List.mem_cons_of_mem piece member)
      rw [List.flatten_cons, List.append_assoc,
        chunks_append positive (sized piece List.mem_cons_self),
        inductionHypothesis othersSized, List.cons_append]

/-- A list of `count * size` items has `count` pieces, all of them full. -/
theorem chunks_full
    {size count : Nat}
    {items : List α}
    (positive : 0 < size)
    (complete : items.length = count * size) :
    (chunks size items).length = count ∧
      ∀ piece ∈ chunks size items, piece.length = size := by
  induction count generalizing items with
  | zero =>
      have empty : items = [] := by
        apply List.eq_nil_of_length_eq_zero
        rw [complete, Nat.zero_mul]
      subst items
      simp
  | succ count inductionHypothesis =>
      rw [Nat.succ_mul] at complete
      have nonempty : items ≠ [] := by
        rintro rfl
        simp only [List.length_nil] at complete
        omega
      have restComplete : (items.drop size).length = count * size := by
        rw [List.length_drop, complete, Nat.add_sub_cancel]
      obtain ⟨restCount, restSized⟩ := inductionHypothesis restComplete
      rw [chunks_eq_cons positive nonempty]
      refine ⟨by rw [List.length_cons, restCount], ?_⟩
      intro piece member
      rcases List.mem_cons.mp member with isFirst | inRest
      · rw [isFirst, List.length_take, complete]
        omega
      · exact restSized piece inRest

/-- The first pieces of a list are those of its start. -/
theorem take_chunks
    {size : Nat}
    (positive : 0 < size)
    (count : Nat)
    (items : List α) :
    (chunks size items).take count = chunks size (items.take (count * size)) := by
  induction count generalizing items with
  | zero =>
      rw [Nat.zero_mul, List.take_zero, List.take_zero, chunks_nil]
  | succ count inductionHypothesis =>
      by_cases nonempty : items = []
      · subst items
        rw [List.take_nil, chunks_nil, List.take_nil]
      · have reached : size ≤ (count + 1) * size :=
          Nat.le_mul_of_pos_left size (Nat.succ_pos count)
        have startNonempty : items.take ((count + 1) * size) ≠ [] := by
          rw [Ne, List.take_eq_nil_iff]
          rintro (none | empty)
          · exact Nat.ne_of_gt (Nat.lt_of_lt_of_le positive reached) none
          · exact nonempty empty
        have rest : (count + 1) * size - size = count * size := by
          rw [Nat.succ_mul, Nat.add_sub_cancel]
        rw [chunks_eq_cons positive nonempty,
          chunks_eq_cons positive startNonempty, List.take_succ_cons,
          inductionHypothesis, List.take_take, Nat.min_eq_left reached,
          List.drop_take, rest]

/-- Pieces of one length take up that length times their number. -/
theorem length_flatten_of_sized
    {size : Nat}
    {pieces : List (List α)}
    (sized : ∀ piece ∈ pieces, piece.length = size) :
    pieces.flatten.length = pieces.length * size := by
  induction pieces with
  | nil =>
      simp
  | cons piece others inductionHypothesis =>
      have othersSized := fun other member =>
        sized other (List.mem_cons_of_mem piece member)
      rw [List.flatten_cons, List.length_append, List.length_cons,
        sized piece List.mem_cons_self, inductionHypothesis othersSized,
        Nat.succ_mul, Nat.add_comm]

/-- The item at a place of a piece lies behind all the pieces before. -/
theorem getElem?_flatten_of_sized
    {size : Nat}
    {pieces : List (List α)}
    (sized : ∀ piece ∈ pieces, piece.length = size)
    (number : Nat)
    {place : Nat}
    (inside : place < size) :
    pieces.flatten[number * size + place]? =
      pieces[number]?.bind fun piece => piece[place]? := by
  induction pieces generalizing number with
  | nil =>
      simp
  | cons piece others inductionHypothesis =>
      have pieceSized := sized piece List.mem_cons_self
      have othersSized := fun other member =>
        sized other (List.mem_cons_of_mem piece member)
      cases number with
      | zero =>
          rw [Nat.zero_mul, Nat.zero_add, List.flatten_cons,
            List.getElem?_append_left (by rw [pieceSized]; exact inside)]
          rfl
      | succ number =>
          have past :
              (number + 1) * size + place =
                piece.length + (number * size + place) := by
            rw [Nat.succ_mul, pieceSized]
            omega
          rw [past, List.flatten_cons,
            List.getElem?_append_right (Nat.le_add_right ..),
            Nat.add_sub_cancel_left, inductionHypothesis othersSized,
            List.getElem?_cons_succ]

section FlatMap

variable
  {β : Type}
  {size : Nat}
  {items : List α}
  {piece : α → List β}

theorem length_of_mem_map
    (sized : ∀ item ∈ items, (piece item).length = size) :
    ∀ part ∈ items.map piece, part.length = size := by
  intro part member
  obtain ⟨item, itemMember, rfl⟩ := List.mem_map.mp member
  exact sized item itemMember

/-- Items that each bring a piece of one length take up that length times their number. -/
theorem length_flatMap_of_sized
    (sized : ∀ item ∈ items, (piece item).length = size) :
    (items.flatMap piece).length = items.length * size := by
  rw [List.flatMap_def, length_flatten_of_sized (length_of_mem_map sized),
    List.length_map]

/-- Items that each bring a piece of at least some length take up that length times their number. -/
theorem le_length_flatMap
    (enough : ∀ item ∈ items, size ≤ (piece item).length) :
    items.length * size ≤ (items.flatMap piece).length := by
  induction items with
  | nil =>
      simp
  | cons item others inductionHypothesis =>
      have first := enough item List.mem_cons_self
      have rest :=
        inductionHypothesis fun other member =>
          enough other (List.mem_cons_of_mem item member)
      rw [List.flatMap_cons, List.length_append, List.length_cons,
        Nat.succ_mul]
      omega

/-- What stands at a place of an item's piece. -/
theorem getElem?_flatMap_of_sized
    (sized : ∀ item ∈ items, (piece item).length = size)
    (number : Nat)
    {place : Nat}
    (inside : place < size) :
    (items.flatMap piece)[number * size + place]? =
      items[number]?.bind fun item => (piece item)[place]? := by
  rw [List.flatMap_def,
    getElem?_flatten_of_sized (length_of_mem_map sized) number inside,
    List.getElem?_map, Option.bind_map]
  rfl

end FlatMap

end Traversal

end SpritePack
