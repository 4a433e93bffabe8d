import SpritePack.Png.Scanlines
import SpritePack.Proofs.Interlace.Passes
import SpritePack.Proofs.Sprite.Repacking

namespace SpritePack

/-!
# Putting passes together

Weaving keeps every pixel: the halves that were woven are found again at the even
and the odd places, as long as their sizes are those of halves.  So the picture
that passes are put together to has these passes, and no others, whatever stream
they were read from.
-/

namespace Traversal

variable {α : Type}

/-- Items that take turns to the end are found again at even and at odd places. -/
theorem evens_odds_weave
    {first second : List α}
    (atLeast : second.length ≤ first.length)
    (atMost : first.length ≤ second.length + 1) :
    evens (weave first second) = first ∧ odds (weave first second) = second := by
  match first with
  | [] =>
      rw [List.eq_nil_of_length_eq_zero (Nat.eq_zero_of_le_zero atLeast),
        weave_nil]
      exact ⟨rfl, rfl⟩
  | item :: rest =>
      have restAtLeast := Nat.le_of_succ_le_succ atMost
      -- Behind the first item the two lists change places.
      obtain ⟨evenPlaces, oddPlaces⟩ :=
        evens_odds_weave restAtLeast atLeast
      rw [weave_cons, evens_cons, odds_cons, evenPlaces, oddPlaces]
      exact ⟨rfl, rfl⟩
termination_by first.length + second.length

/-- The halves of so many items are woven to as many, and found again among them. -/
theorem weave_of_halves
    {count : Nat}
    {first second : List α}
    (firstLength : first.length = (count + 1) / 2)
    (secondLength : second.length = count / 2) :
    (weave first second).length = count ∧
      evens (weave first second) = first ∧
      odds (weave first second) = second := by
  have atLeast : second.length ≤ first.length := by omega
  have atMost : first.length ≤ second.length + 1 := by omega
  obtain ⟨evenPlaces, oddPlaces⟩ := evens_odds_weave atLeast atMost
  have lengths := length_evens_odds (weave first second)
  rw [evenPlaces, oddPlaces] at lengths
  exact ⟨by omega, evenPlaces, oddPlaces⟩

/-- Weaving brings in no items. -/
theorem mem_weave
    {first second : List α}
    {item : α}
    (member : item ∈ weave first second) :
    item ∈ first ∨ item ∈ second := by
  match first with
  | [] =>
      rw [weave_nil] at member
      exact .inr member
  | head :: rest =>
      rw [weave_cons] at member
      rcases List.mem_cons.mp member with rfl | inRest
      · exact .inl List.mem_cons_self
      · rcases mem_weave inRest with inSecond | inFirst
        · exact .inr inSecond
        · exact .inl (List.mem_cons_of_mem head inFirst)
termination_by first.length + second.length

end Traversal

namespace Interlace

section Weaving

variable
  {width height : Nat}
  {first second : Rows}

/-- The rows of two halves are found again where they were woven. -/
theorem weaveRows_of_sized
    (firstSized : Sized ⟨width, (height + 1) / 2⟩ first)
    (secondSized : Sized ⟨width, height / 2⟩ second) :
    Sized ⟨width, height⟩ (weaveRows first second) ∧
      Traversal.evens (weaveRows first second) = first ∧
      Traversal.odds (weaveRows first second) = second := by
  obtain ⟨length, evenPlaces, oddPlaces⟩ :=
    Traversal.weave_of_halves firstSized.height_eq secondSized.height_eq
  refine ⟨⟨length, ?_⟩, evenPlaces, oddPlaces⟩
  intro row member
  rcases Traversal.mem_weave member with inFirst | inSecond
  · exact firstSized.width_eq row inFirst
  · exact secondSized.width_eq row inSecond

/-- That two rows are the even and the odd places of one. -/
def AreHalves
    (width : Nat)
    (first second : Bytes) : Prop :=
  first.length = (width + 1) / 2 ∧ second.length = width / 2

theorem weaveColumns_of_areHalves
    (halves : List.Forall₂ (AreHalves width) first second) :
    (weaveColumns first second).length = first.length ∧
      (∀ row ∈ weaveColumns first second, row.length = width) ∧
      evenColumns (weaveColumns first second) = first ∧
      oddColumns (weaveColumns first second) = second := by
  induction halves with
  | nil =>
      exact ⟨rfl, List.forall_mem_nil _, rfl, rfl⟩
  | cons row _ inductionHypothesis =>
      obtain ⟨length, evenPlaces, oddPlaces⟩ :=
        Traversal.weave_of_halves row.1 row.2
      obtain ⟨height, widths, evens, odds⟩ := inductionHypothesis
      rw [weaveColumns] at height widths evens odds
      rw [weaveColumns, List.zipWith_cons_cons]
      refine
        ⟨congrArg Nat.succ height, List.forall_mem_cons.mpr ⟨length, widths⟩,
          ?_, ?_⟩
      · rw [evenColumns, List.map_cons, evenPlaces]
        exact congrArg _ evens
      · rw [oddColumns, List.map_cons, oddPlaces]
        exact congrArg _ odds

/-- The columns of two halves are found again where they were woven. -/
theorem weaveColumns_of_sized
    (firstSized : Sized ⟨(width + 1) / 2, height⟩ first)
    (secondSized : Sized ⟨width / 2, height⟩ second) :
    Sized ⟨width, height⟩ (weaveColumns first second) ∧
      evenColumns (weaveColumns first second) = first ∧
      oddColumns (weaveColumns first second) = second := by
  have halves : List.Forall₂ (AreHalves width) first second := by
    apply List.forall₂_iff_zip.mpr
    refine ⟨firstSized.height_eq.trans secondSized.height_eq.symm, ?_⟩
    intro row row' member
    obtain ⟨inFirst, inSecond⟩ := List.of_mem_zip member
    exact ⟨firstSized.width_eq row inFirst, secondSized.width_eq row' inSecond⟩
  obtain ⟨length, widths, evens, odds⟩ := weaveColumns_of_areHalves halves
  exact ⟨⟨length.trans firstSized.height_eq, widths⟩, evens, odds⟩

end Weaving

/-- A picture that is put together from passes of the right sizes has these passes. -/
theorem split_of_assemble?
    {width height : Nat}
    {passes : List Rows}
    {rows : Rows}
    (sized : List.Forall₂ Sized (passSizes width height) passes)
    (assembled : assemble? passes = some rows) :
    Sized ⟨width, height⟩ rows ∧ split rows = passes := by
  obtain
    _ | ⟨first, _ | ⟨second, _ | ⟨third, _ | ⟨fourth, _ | ⟨fifth,
      _ | ⟨sixth, _ | ⟨seventh, _ | _⟩⟩⟩⟩⟩⟩⟩ := sized
  rw [← Option.some.inj assembled]
  obtain ⟨quarterColumns, firstFound, secondFound⟩ :=
    weaveColumns_of_sized (gridSize_eight width ▸ first) second
  obtain ⟨quarterGrid, quarterFound, thirdFound⟩ :=
    weaveRows_of_sized (gridSize_eight height ▸ quarterColumns) third
  obtain ⟨halfColumns, quarterGridFound, fourthFound⟩ :=
    weaveColumns_of_sized (gridSize_four width ▸ quarterGrid) fourth
  obtain ⟨halfGrid, halfFound, fifthFound⟩ :=
    weaveRows_of_sized (gridSize_four height ▸ halfColumns) fifth
  obtain ⟨allColumns, halfGridFound, sixthFound⟩ :=
    weaveColumns_of_sized halfGrid sixth
  obtain ⟨whole, allFound, seventhFound⟩ :=
    weaveRows_of_sized allColumns seventh
  refine ⟨whole, ?_⟩
  simp only [split, seventhFound, allFound, sixthFound, halfGridFound,
    fifthFound, halfFound, fourthFound, quarterGridFound, thirdFound,
    quarterFound, secondFound, firstFound]

section Pixels

variable
  {property : UInt8 → Prop}
  {first second : Rows}
  (firstHolds : ∀ row ∈ first, ∀ pixel ∈ row, property pixel)
  (secondHolds : ∀ row ∈ second, ∀ pixel ∈ row, property pixel)

include firstHolds secondHolds

theorem forall_mem_weaveRows :
    ∀ row ∈ weaveRows first second, ∀ pixel ∈ row, property pixel := by
  intro row member
  rcases Traversal.mem_weave member with inFirst | inSecond
  · exact firstHolds row inFirst
  · exact secondHolds row inSecond

theorem forall_mem_weaveColumns :
    ∀ row ∈ weaveColumns first second, ∀ pixel ∈ row, property pixel := by
  intro row member pixel inRow
  rw [weaveColumns, ← List.map_uncurry_zip_eq_zipWith] at member
  obtain ⟨⟨left, right⟩, inBoth, rfl⟩ := List.mem_map.mp member
  obtain ⟨inFirst, inSecond⟩ := List.of_mem_zip inBoth
  rcases Traversal.mem_weave inRow with inLeft | inRight
  · exact firstHolds left inFirst pixel inLeft
  · exact secondHolds right inSecond pixel inRight

omit firstHolds secondHolds in
/-- What holds of the pixels of all passes holds of those of the picture. -/
theorem forall_mem_of_assemble?
    {passes : List Rows}
    {rows : Rows}
    (holds : ∀ pass ∈ passes, ∀ row ∈ pass, ∀ pixel ∈ row, property pixel)
    (assembled : assemble? passes = some rows) :
    ∀ row ∈ rows, ∀ pixel ∈ row, property pixel := by
  unfold assemble? at assembled
  split at assembled
  next =>
    simp only [List.forall_mem_cons] at holds
    obtain ⟨first, second, third, fourth, fifth, sixth, seventh, _⟩ := holds
    rw [← Option.some.inj assembled]
    have quarterGrid :=
      forall_mem_weaveRows (forall_mem_weaveColumns first second) third
    have halfGrid :=
      forall_mem_weaveRows (forall_mem_weaveColumns quarterGrid fourth) fifth
    exact forall_mem_weaveRows (forall_mem_weaveColumns halfGrid sixth) seventh
  next =>
    cases assembled

end Pixels

section Reading

variable {depth : Nat}

/-- A pass without width is read from nothing, and any other from its scanlines. -/
theorem readPass_cases
    {size : PassSize}
    {stream rest : Bytes}
    {pass : Rows}
    (read : readPass depth size stream = some (pass, rest)) :
    size.width = 0 ∧ pass = List.replicate size.height [] ∧ rest = stream ∨
      size.width ≠ 0 ∧
        ∃ scanlines,
          Scanline.readFiltered (Scanline.size depth size.width) size.height
              stream =
            some (scanlines, rest) ∧
          pass = scanlines.map (Scanline.unpack depth size.width) := by
  rw [readPass] at read
  split at read
  next empty =>
    obtain ⟨rfl, rfl⟩ := Prod.mk.inj (Option.some.inj read)
    exact .inl ⟨empty, rfl, rfl⟩
  next wide =>
    obtain ⟨⟨scanlines, _⟩, unfiltered, read⟩ := Option.bind_eq_some_iff.mp read
    obtain ⟨rfl, rfl⟩ := Prod.mk.inj (Option.some.inj read)
    exact .inr ⟨wide, scanlines, unfiltered, rfl⟩

/-- Passes are read one after the other. -/
theorem exists_of_readPasses_cons
    {size : PassSize}
    {sizes : List PassSize}
    {stream : Bytes}
    {passes : List Rows}
    (read : readPasses depth (size :: sizes) stream = some passes) :
    ∃ pass rest others,
      readPass depth size stream = some (pass, rest) ∧
        readPasses depth sizes rest = some others ∧
        passes = pass :: others := by
  obtain ⟨⟨pass, rest⟩, first, read⟩ := Option.bind_eq_some_iff.mp read
  obtain ⟨others, following, read⟩ := Option.bind_eq_some_iff.mp read
  exact ⟨pass, rest, others, first, following, (Option.some.inj read).symm⟩

variable (standard : depth ∈ Scanline.depths)

include standard

/-- Whatever the stream is, a pass that is read from it has the size and depth asked for. -/
theorem sized_of_readPass
    {size : PassSize}
    {stream rest : Bytes}
    {pass : Rows}
    (read : readPass depth size stream = some (pass, rest)) :
    Sized size pass ∧ ∀ row ∈ pass, ∀ pixel ∈ row, pixel.toNat < 2 ^ depth := by
  rcases readPass_cases read with
    ⟨empty, rfl, _⟩ | ⟨_, scanlines, unfiltered, rfl⟩
  · refine ⟨⟨List.length_replicate, ?_⟩, ?_⟩
    · intro row member
      rw [List.eq_of_mem_replicate member, empty, List.length_nil]
    · intro row member
      rw [List.eq_of_mem_replicate member]
      exact List.forall_mem_nil _
  · obtain ⟨height, sized⟩ := Scanline.sized_of_readFiltered unfiltered
    refine ⟨⟨?_, ?_⟩, ?_⟩
    · rw [List.length_map, height]
    · exact
        Traversal.length_of_mem_map fun scanline member =>
          Scanline.length_unpack standard (sized scanline member)
    · intro row member pixel inRow
      obtain ⟨scanline, _, rfl⟩ := List.mem_map.mp member
      exact Scanline.lt_of_mem_unpack inRow

theorem sized_of_readPasses
    {sizes : List PassSize}
    {stream : Bytes}
    {passes : List Rows}
    (read : readPasses depth sizes stream = some passes) :
    List.Forall₂ Sized sizes passes ∧
      ∀ pass ∈ passes, ∀ row ∈ pass, ∀ pixel ∈ row, pixel.toNat < 2 ^ depth := by
  induction sizes generalizing stream passes with
  | nil =>
      cases read
      exact ⟨.nil, List.forall_mem_nil _⟩
  | cons size sizes inductionHypothesis =>
      obtain ⟨pass, rest, others, first, following, rfl⟩ :=
        exists_of_readPasses_cons read
      obtain ⟨sized, small⟩ := sized_of_readPass standard first
      obtain ⟨othersSized, othersSmall⟩ := inductionHypothesis following
      exact
        ⟨.cons sized othersSized, List.forall_mem_cons.mpr ⟨small, othersSmall⟩⟩

/-- Whatever the stream is, the picture that is read from it has the size and depth asked for. -/
theorem sized_of_read?
    {width height : Nat}
    {stream : Bytes}
    {rows : Rows}
    (read : read? depth width height stream = some rows) :
    Sized ⟨width, height⟩ rows ∧
      ∀ row ∈ rows, ∀ pixel ∈ row, pixel.toNat < 2 ^ depth := by
  obtain ⟨passes, passesRead, assembled⟩ := Option.bind_eq_some_iff.mp read
  obtain ⟨passesSized, small⟩ := sized_of_readPasses standard passesRead
  obtain ⟨sized, _⟩ := split_of_assemble? passesSized assembled
  exact ⟨sized, forall_mem_of_assemble? small assembled⟩

/-- That a pass has pixels in each of its rows, which fill up whole bytes. -/
structure PassSize.Whole
    (depth : Nat)
    (size : PassSize) : Prop where
  width_pos : 0 < size.width
  bytes : Scanline.size depth size.width * (8 / depth) = size.width

/-- The scanlines of a pass are its packed rows if these fill up whole bytes. -/
theorem readFiltered_of_readPass
    {size : PassSize}
    {stream rest : Bytes}
    {pass : Rows}
    (whole : size.Whole depth)
    (read : readPass depth size stream = some (pass, rest)) :
    Scanline.readFiltered (Scanline.size depth size.width) size.height stream =
      some (pass.map (Scanline.pack depth), rest) := by
  rcases readPass_cases read with
    ⟨empty, _⟩ | ⟨_, scanlines, unfiltered, rfl⟩
  · exact (Nat.ne_of_gt whole.width_pos empty).elim
  · obtain ⟨_, sized⟩ := Scanline.sized_of_readFiltered unfiltered
    have packed :
        ∀ scanline ∈ scanlines,
          (Scanline.pack depth ∘ Scanline.unpack depth size.width) scanline =
            scanline :=
      fun scanline member =>
        Scanline.pack_unpack_of_whole standard whole.bytes (sized scanline member)
    rw [unfiltered, List.map_map, List.map_congr_left packed, List.map_id']

omit standard in
theorem readScanlines?_cons
    {size : PassSize}
    {stream rest : Bytes}
    {scanlines : List Bytes}
    (wide : size.width ≠ 0)
    (unfiltered :
      Scanline.readFiltered (Scanline.size depth size.width) size.height stream =
        some (scanlines, rest))
    (sizes : List PassSize) :
    readScanlines? depth (size :: sizes) stream =
      (readScanlines? depth sizes rest).map (scanlines ++ ·) := by
  rw [readScanlines?, if_neg wide, unfiltered, Option.bind_eq_bind,
    Option.bind_some]
  dsimp only
  cases readScanlines? depth sizes rest <;> rfl

theorem readScanlines?_of_readPasses
    {sizes : List PassSize}
    {stream : Bytes}
    {passes : List Rows}
    (whole : ∀ size ∈ sizes, size.Whole depth)
    (read : readPasses depth sizes stream = some passes) :
    readScanlines? depth sizes stream =
      some (passes.flatten.map (Scanline.pack depth)) := by
  induction sizes generalizing stream passes with
  | nil =>
      cases read
      rfl
  | cons size sizes inductionHypothesis =>
      obtain ⟨pass, rest, others, first, following, rfl⟩ :=
        exists_of_readPasses_cons read
      have firstWhole := whole size List.mem_cons_self
      have otherScanlines :=
        inductionHypothesis
          (fun other member => whole other (List.mem_cons_of_mem size member))
          following
      rw [readScanlines?_cons (Nat.ne_of_gt firstWhole.width_pos)
          (readFiltered_of_readPass standard firstWhole first),
        otherScanlines, Option.map_some, List.flatten_cons, List.map_append]

/-- The stored scanlines of a picture are those of its passes, pass after pass. -/
theorem readScanlines?_of_read?
    {width height : Nat}
    {stream : Bytes}
    {rows : Rows}
    (whole : ∀ size ∈ passSizes width height, size.Whole depth)
    (read : read? depth width height stream = some rows) :
    readScanlines? depth (passSizes width height) stream =
      some
        ((passes.flatMap fun pass => pass.rows rows).map
          (Scanline.pack depth)) := by
  obtain ⟨found, passesRead, assembled⟩ := Option.bind_eq_some_iff.mp read
  obtain ⟨sized, _⟩ := sized_of_readPasses standard passesRead
  obtain ⟨_, splits⟩ := split_of_assemble? sized assembled
  rw [readScanlines?_of_readPasses standard whole passesRead, ← splits,
    split_eq_passes, ← List.flatMap_def]

end Reading

end Interlace

end SpritePack
