import Mathlib.Data.List.Forall2
import SpritePack.Interlace
import SpritePack.Proofs.Scanline.Filtering
import SpritePack.Proofs.Scanline.Packing

namespace SpritePack

/-!
# The passes of an interlaced picture

The format says of each pass which pixel it starts with and by how much it goes
on in each direction.  Halving columns and rows by turns takes the same pixels,
because a stride within a stride is a stride.  So the passes that are read are
those that the format defines, and they put the picture together.
-/

namespace Traversal

variable {α β : Type}

/-- The items from a place on, a step apart. -/
def strided
    (start step : Nat)
    (items : List α) :
    List α :=
  (List.range items.length).filterMap fun place =>
    items[start + step * place]?

/-- Where nothing comes after the first gap, items keep their places. -/
theorem getElem?_filterMap_range
    {found : Nat → Option α}
    (gapless : ∀ place, found place = none → found (place + 1) = none)
    (count place : Nat) :
    ((List.range count).filterMap found)[place]? =
      if place < count then found place else none := by
  induction count generalizing found place with
  | zero =>
      rfl
  | succ count inductionHypothesis =>
      have restGapless :
          ∀ later, (found ∘ Nat.succ) later = none →
            (found ∘ Nat.succ) (later + 1) = none :=
        fun later => gapless (later + 1)
      rw [List.range_succ_eq_map, List.filterMap_cons, List.filterMap_map]
      cases first : found 0 with
      | none =>
          have nothing : ∀ later, found later = none := by
            intro later
            induction later with
            | zero => exact first
            | succ later inductionHypothesis => exact gapless later inductionHypothesis
          have empty :
              (List.range count).filterMap (found ∘ Nat.succ) = [] := by
            rw [List.filterMap_eq_nil_iff]
            exact fun later _ => nothing (later + 1)
          dsimp only
          rw [empty, nothing place, ite_self, List.getElem?_nil]
      | some item =>
          cases place with
          | zero =>
              rw [if_pos (Nat.succ_pos count), first]
              rfl
          | succ place =>
              dsimp only
              rw [List.getElem?_cons_succ, inductionHypothesis restGapless]
              simp only [Nat.add_lt_add_iff_right, Function.comp_apply,
                Nat.succ_eq_add_one]

/-- A stride has the items that its places lead to. -/
theorem getElem?_strided
    {start step : Nat}
    (positive : 0 < step)
    (items : List α)
    (place : Nat) :
    (strided start step items)[place]? = items[start + step * place]? := by
  have gapless :
      ∀ place, items[start + step * place]? = none →
        items[start + step * (place + 1)]? = none := by
    intro place outside
    rw [List.getElem?_eq_none_iff] at outside ⊢
    rw [Nat.mul_succ]
    omega
  rw [strided, getElem?_filterMap_range gapless]
  split
  next =>
    rfl
  next outside =>
    have := Nat.le_mul_of_pos_left place positive
    rw [List.getElem?_eq_none (by omega)]

/-- A stride within a stride is a stride. -/
theorem strided_strided
    {start step start' step' : Nat}
    (positive : 0 < step)
    (positive' : 0 < step')
    (items : List α) :
    strided start' step' (strided start step items) =
      strided (start + step * start') (step * step') items := by
  apply List.ext_getElem?
  intro place
  rw [getElem?_strided positive', getElem?_strided positive,
    getElem?_strided (Nat.mul_pos positive positive'), Nat.mul_add,
    Nat.add_assoc, Nat.mul_assoc]

theorem strided_map
    (change : α → β)
    (start step : Nat)
    (items : List α) :
    strided start step (items.map change) =
      (strided start step items).map change := by
  rw [strided, strided, List.length_map, List.map_filterMap]
  simp only [List.getElem?_map]

theorem strided_one :
    strided 0 1 = (id : List α → List α) := by
  funext items
  apply List.ext_getElem?
  intro place
  rw [getElem?_strided Nat.one_pos, Nat.zero_add, Nat.one_mul, id]

/-- Even and odd places are strides of two. -/
theorem getElem?_evens_odds
    (items : List α)
    (place : Nat) :
    (evens items)[place]? = items[2 * place]? ∧
      (odds items)[place]? = items[1 + 2 * place]? := by
  induction items generalizing place with
  | nil =>
      exact ⟨rfl, rfl⟩
  | cons item rest inductionHypothesis =>
      obtain ⟨even, _⟩ := inductionHypothesis place
      refine ⟨?_, ?_⟩
      · rw [evens_cons]
        cases place with
        | zero =>
            rfl
        | succ place =>
            rw [List.getElem?_cons_succ, (inductionHypothesis place).2,
              Nat.mul_succ, List.getElem?_cons_succ, Nat.add_comm]
      · rw [odds_cons, even, Nat.add_comm, List.getElem?_cons_succ]

theorem mem_of_mem_strided
    {start step : Nat}
    {items : List α}
    {item : α}
    (member : item ∈ strided start step items) :
    item ∈ items := by
  obtain ⟨place, _, found⟩ := List.mem_filterMap.mp member
  exact List.mem_of_getElem? found

theorem evens_eq_strided
    (items : List α) :
    evens items = strided 0 2 items := by
  apply List.ext_getElem?
  intro place
  rw [getElem?_strided Nat.two_pos, (getElem?_evens_odds items place).1,
    Nat.zero_add]

theorem odds_eq_strided
    (items : List α) :
    odds items = strided 1 2 items := by
  apply List.ext_getElem?
  intro place
  rw [getElem?_strided Nat.two_pos, (getElem?_evens_odds items place).2]

theorem mem_of_mem_evens
    {items : List α}
    {item : α}
    (member : item ∈ evens items) :
    item ∈ items := by
  rw [evens_eq_strided] at member
  exact mem_of_mem_strided member

theorem mem_of_mem_odds
    {items : List α}
    {item : α}
    (member : item ∈ odds items) :
    item ∈ items := by
  rw [odds_eq_strided] at member
  exact mem_of_mem_strided member

end Traversal

namespace Interlace

/-- Which pixels a pass takes: those of some columns, in some rows. -/
structure Pass where
  left : Nat
  across : Nat
  top : Nat
  down : Nat
  deriving Repr, DecidableEq

/-- The seven passes, in their order. -/
def passes : List Pass := [
  ⟨0, 8, 0, 8⟩,
  ⟨4, 8, 0, 8⟩,
  ⟨0, 4, 4, 8⟩,
  ⟨2, 4, 0, 4⟩,
  ⟨0, 2, 2, 4⟩,
  ⟨1, 2, 0, 2⟩,
  ⟨0, 1, 1, 2⟩
]

/-- The picture that a pass makes of a whole one. -/
def Pass.rows
    (pass : Pass)
    (rows : Rows) :
    Rows :=
  (Traversal.strided pass.top pass.down rows).map
    (Traversal.strided pass.left pass.across)

/-- The pixels of a pass are the picture's, from the pass's first one on. -/
theorem Pass.getElem?_rows
    {pass : Pass}
    (member : pass ∈ passes)
    (rows : Rows)
    (column row : Nat) :
    ((pass.rows rows)[row]?.bind fun pixels => pixels[column]?) =
      rows[pass.top + pass.down * row]?.bind fun pixels =>
        pixels[pass.left + pass.across * column]? := by
  have positive : 0 < pass.across ∧ 0 < pass.down := by
    revert pass
    decide
  rw [Pass.rows, List.getElem?_map, Traversal.getElem?_strided positive.2]
  cases rows[pass.top + pass.down * row]? with
  | none =>
      rfl
  | some pixels =>
      exact Traversal.getElem?_strided positive.1 pixels column

/-- Halving columns and rows by turns gives the passes of the format. -/
theorem split_eq_passes
    (rows : Rows) :
    split rows = passes.map fun pass => pass.rows rows := by
  simp [split, passes, Pass.rows, evenColumns, oddColumns,
    Traversal.evens_eq_strided, Traversal.odds_eq_strided,
    Traversal.strided_map, Traversal.strided_strided, Traversal.strided_one]

/-- Of every second place, every second one is a fourth. -/
theorem gridSize_four
    (length : Nat) :
    gridSize 4 length = (gridSize 2 length + 1) / 2 := by
  simp only [gridSize]
  omega

/-- Of every fourth place, every second one is an eighth. -/
theorem gridSize_eight
    (length : Nat) :
    gridSize 8 length = (gridSize 4 length + 1) / 2 := by
  simp only [gridSize]
  omega

/-- That a picture has a size. -/
structure Sized
    (size : PassSize)
    (rows : Rows) : Prop where
  height_eq : rows.length = size.height
  width_eq : ∀ row ∈ rows, row.length = size.width

namespace Sized

variable
  {width height : Nat}
  {rows : Rows}
  (sized : Sized ⟨width, height⟩ rows)

include sized

theorem evens : Sized ⟨width, (height + 1) / 2⟩ (Traversal.evens rows) where
  height_eq := by
    rw [(Traversal.length_evens_odds rows).1, sized.height_eq]
  width_eq row member :=
    sized.width_eq row (Traversal.mem_of_mem_evens member)

theorem odds : Sized ⟨width, height / 2⟩ (Traversal.odds rows) where
  height_eq := by
    rw [(Traversal.length_evens_odds rows).2, sized.height_eq]
  width_eq row member :=
    sized.width_eq row (Traversal.mem_of_mem_odds member)

theorem evenColumns :
    Sized ⟨(width + 1) / 2, height⟩ (Interlace.evenColumns rows) where
  height_eq := by
    rw [Interlace.evenColumns, List.length_map, sized.height_eq]
  width_eq row member := by
    obtain ⟨whole, wholeMember, rfl⟩ := List.mem_map.mp member
    rw [(Traversal.length_evens_odds whole).1, sized.width_eq whole wholeMember]

theorem oddColumns :
    Sized ⟨width / 2, height⟩ (Interlace.oddColumns rows) where
  height_eq := by
    rw [Interlace.oddColumns, List.length_map, sized.height_eq]
  width_eq row member := by
    obtain ⟨whole, wholeMember, rfl⟩ := List.mem_map.mp member
    rw [(Traversal.length_evens_odds whole).2, sized.width_eq whole wholeMember]

/-- The passes have the sizes that are expected of them. -/
theorem split :
    List.Forall₂ Sized (passSizes width height) (Interlace.split rows) := by
  have allColumns : Sized ⟨width, gridSize 2 height⟩ _ := sized.evens
  have halfGrid : Sized ⟨gridSize 2 width, gridSize 2 height⟩ _ :=
    allColumns.evenColumns
  have halfColumns : Sized ⟨gridSize 2 width, gridSize 4 height⟩ _ :=
    gridSize_four height ▸ halfGrid.evens
  have quarterGrid : Sized ⟨gridSize 4 width, gridSize 4 height⟩ _ :=
    gridSize_four width ▸ halfColumns.evenColumns
  have quarterColumns : Sized ⟨gridSize 4 width, gridSize 8 height⟩ _ :=
    gridSize_eight height ▸ quarterGrid.evens
  have first : Sized ⟨gridSize 8 width, gridSize 8 height⟩ _ :=
    gridSize_eight width ▸ quarterColumns.evenColumns
  exact
    .cons first <| .cons quarterColumns.oddColumns <|
      .cons quarterGrid.odds <| .cons halfColumns.oddColumns <|
        .cons halfGrid.odds <| .cons allColumns.oddColumns <|
          .cons sized.odds .nil

end Sized

end Interlace

end SpritePack
