import SpritePack.Proofs.Interlace.Passes

namespace SpritePack.Interlace

/-!
# Streams of passes

Each pass is stored like a picture of its own: its rows are packed and filled up,
and its filters start afresh.  A pass without pixels is left out.  The passes
follow each other in one stream and are read back one after the other, by the
sizes that they must have.
-/

/-- The bytes that store a pass: none if it has no pixels, and otherwise its filtered scanlines. -/
inductive Stores
    (depth : Nat)
    (pass : Rows) :
    Bytes → Prop where
  | omitted
      (empty : ∀ row ∈ pass, row = []) :
      Stores depth pass []
  | stored
      {scanlines : List Bytes}
      {filters : Nat → Filter}
      {stream : Bytes}
      (present : ∃ row ∈ pass, row ≠ [])
      (holds : List.Forall₂ (Scanline.Holds depth) pass scanlines)
      (filtered : Scanline.Filtered filters 0 [] scanlines stream) :
      Stores depth pass stream

section Reading

variable
  {depth : Nat}
  {size : PassSize}
  {pass : Rows}
  {stream : Bytes}
  (sized : Sized size pass)

include sized

/-- A pass without pixels that could have some in each row has no rows. -/
theorem Sized.eq_nil_of_empty
    (wide : size.width ≠ 0)
    (empty : ∀ row ∈ pass, row = []) :
    pass = [] := by
  apply List.eq_nil_iff_forall_not_mem.mpr
  intro row member
  have width := sized.width_eq row member
  rw [empty row member] at width
  exact wide width.symm

theorem Sized.width_ne_zero
    (present : ∃ row ∈ pass, row ≠ []) :
    size.width ≠ 0 := by
  obtain ⟨row, member, nonempty⟩ := present
  rw [← sized.width_eq row member]
  exact fun none => nonempty (List.eq_nil_of_length_eq_zero none)

/-- A pass without pixels is read from nothing. -/
theorem readPass_of_empty
    (empty : ∀ row ∈ pass, row = [])
    (rest : Bytes) :
    readPass depth size rest = some (pass, rest) := by
  rw [readPass]
  split
  next =>
    rw [← sized.height_eq, ← List.eq_replicate_length.mpr empty]
  next wide =>
    obtain rfl := sized.eq_nil_of_empty wide empty
    rw [← sized.height_eq]
    rfl

/-- A pass with pixels is read back from its scanlines, whatever follows them. -/
theorem readPass_of_filtered
    (standard : depth ∈ Scanline.depths)
    (small : ∀ row ∈ pass, ∀ pixel ∈ row, pixel.toNat < 2 ^ depth)
    (present : ∃ row ∈ pass, row ≠ [])
    {scanlines : List Bytes}
    {filters : Nat → Filter}
    (holds : List.Forall₂ (Scanline.Holds depth) pass scanlines)
    (filtered : Scanline.Filtered filters 0 [] scanlines stream)
    (rest : Bytes) :
    readPass depth size (stream ++ rest) = some (pass, rest) := by
  have wide := sized.width_ne_zero present
  have count : scanlines.length = size.height := by
    rw [← holds.length_eq, sized.height_eq]
  have unfiltered :=
    filtered.readFiltered_append
      (fun scanline member =>
        Scanline.length_of_mem_scanlines standard sized.width_eq holds member)
      rest
  have unpacked :=
    Scanline.map_unpack_of_holds standard sized.width_eq small holds
  rw [count] at unfiltered
  rw [readPass, if_neg wide, unfiltered, Option.bind_eq_bind,
    Option.bind_some]
  dsimp only
  rw [unpacked]

theorem Stores.readPass_append
    (stores : Stores depth pass stream)
    (standard : depth ∈ Scanline.depths)
    (small : ∀ row ∈ pass, ∀ pixel ∈ row, pixel.toNat < 2 ^ depth)
    (rest : Bytes) :
    readPass depth size (stream ++ rest) = some (pass, rest) := by
  cases stores with
  | omitted empty =>
      exact readPass_of_empty sized empty rest
  | stored present holds filtered =>
      exact readPass_of_filtered sized standard small present holds filtered rest

end Reading

/-- Passes are read back from their streams, one after the other. -/
theorem readPasses_flatten
    {depth : Nat}
    {sizes : List PassSize}
    {passes : List Rows}
    {streams : List Bytes}
    (standard : depth ∈ Scanline.depths)
    (sized : List.Forall₂ Sized sizes passes)
    (small :
      ∀ pass ∈ passes, ∀ row ∈ pass, ∀ pixel ∈ row, pixel.toNat < 2 ^ depth)
    (stores : List.Forall₂ (Stores depth) passes streams) :
    readPasses depth sizes streams.flatten = some passes := by
  induction sized generalizing streams with
  | nil =>
      cases stores
      rfl
  | cons firstSized _ inductionHypothesis =>
      cases stores with
      | cons firstStores othersStore =>
          have first :=
            firstStores.readPass_append firstSized standard
              (small _ List.mem_cons_self)
          have others :=
            inductionHypothesis
              (fun pass member => small pass (List.mem_cons_of_mem _ member))
              othersStore
          rw [List.flatten_cons, readPasses, first, Option.bind_eq_bind,
            Option.bind_some]
          dsimp only
          rw [others]
          rfl

/-- The pixels of a pass are among those of the picture. -/
theorem exists_mem_of_mem_rows
    {pass : Pass}
    {rows : Rows}
    {row : Bytes}
    (member : row ∈ pass.rows rows) :
    ∃ whole ∈ rows, ∀ pixel ∈ row, pixel ∈ whole := by
  obtain ⟨whole, wholeMember, rfl⟩ := List.mem_map.mp member
  exact
    ⟨whole, Traversal.mem_of_mem_strided wholeMember, fun pixel inRow =>
      Traversal.mem_of_mem_strided inRow⟩

/-- A picture is read back from the streams of its passes. -/
theorem read?_of_stores
    {depth width height : Nat}
    {rows : Rows}
    {streams : List Bytes}
    (standard : depth ∈ Scanline.depths)
    (sized : Sized ⟨width, height⟩ rows)
    (small : ∀ row ∈ rows, ∀ pixel ∈ row, pixel.toNat < 2 ^ depth)
    (stores :
      List.Forall₂ (Stores depth) (passes.map fun pass => pass.rows rows)
        streams) :
    read? depth width height streams.flatten = some rows := by
  have passesSmall :
      ∀ part ∈ passes.map (fun pass => pass.rows rows), ∀ row ∈ part,
        ∀ pixel ∈ row, pixel.toNat < 2 ^ depth := by
    intro part partMember row rowMember pixel pixelMember
    obtain ⟨pass, _, rfl⟩ := List.mem_map.mp partMember
    obtain ⟨whole, wholeMember, within⟩ := exists_mem_of_mem_rows rowMember
    exact small whole wholeMember pixel (within pixel pixelMember)
  have passesSized := sized.split
  rw [split_eq_passes] at passesSized
  rw [read?, readPasses_flatten standard passesSized passesSmall stores,
    ← split_eq_passes]
  exact assemble?_split rows

end SpritePack.Interlace
