import SpritePack.Scanline.Filter

namespace SpritePack

/-!
# Filtering place by place

The format defines a filter at each place of a line: the stored byte is the
line's byte less a prediction from the bytes to the left, above, and above to
the left.  A stream that follows the definition is the one that is written, so
it is read back.
-/

namespace Filter

/-- The byte before a place of a line, which is the given one at the start. -/
def before
    (start : UInt8)
    (scanline : Bytes) :
    Nat → UInt8
  | 0 => start
  | place + 1 => scanline.getD place 0

/-- Of three neighbours, the first that is nearest to the sum of two less the third. -/
def closest (left above aboveLeft : UInt8) : UInt8 :=
  let estimate : Int := left.toNat + above.toNat - aboveLeft.toNat
  let toLeft := (estimate - left.toNat).natAbs
  let toAbove := (estimate - above.toNat).natAbs
  let toAboveLeft := (estimate - aboveLeft.toNat).natAbs
  if toLeft ≤ toAbove ∧ toLeft ≤ toAboveLeft then
    left
  else if toAbove ≤ toAboveLeft then
    above
  else
    aboveLeft

/-- The prediction that the format defines for a place, from its line and the one above. -/
def predicted
    (filter : Filter)
    (above scanline : Bytes)
    (place : Nat) :
    UInt8 :=
  let left := before 0 scanline place
  let overhead := above.getD place 0
  match filter with
  | .none => 0
  | .sub => left
  | .up => overhead
  | .average => ((left.toNat + overhead.toNat) / 2).toUInt8
  | .paeth => closest left overhead (before 0 above place)

/-- That a filtered line is what the format defines for a line below another. -/
structure Filtered
    (filter : Filter)
    (above scanline filtered : Bytes) : Prop where
  length_eq : filtered.length = scanline.length
  byte :
    ∀ place (inside : place < scanline.length),
      filtered[place]? =
        some (scanline[place] - filter.predicted above scanline place)

/-- The distances are the same, whether through the estimate or past it. -/
theorem nearest_eq_closest
    (left above aboveLeft : UInt8) :
    nearest left above aboveLeft = closest left above aboveLeft := by
  have toLeft :
      distance above.toNat aboveLeft.toNat =
        ((left.toNat : Int) + above.toNat - aboveLeft.toNat -
          left.toNat).natAbs := by
    rw [distance]
    omega
  have toAbove :
      distance left.toNat aboveLeft.toNat =
        ((left.toNat : Int) + above.toNat - aboveLeft.toNat -
          above.toNat).natAbs := by
    rw [distance]
    omega
  have toAboveLeft :
      distance (left.toNat + above.toNat)
          (aboveLeft.toNat + aboveLeft.toNat) =
        ((left.toNat : Int) + above.toNat - aboveLeft.toNat -
          aboveLeft.toNat).natAbs := by
    rw [distance]
    omega
  simp only [nearest, closest, toLeft, toAbove, toAboveLeft]

theorem predict_before
    (filter : Filter)
    (above scanline : Bytes)
    (place : Nat) :
    filter.predict (before 0 scanline place) (above.getD place 0)
        (before 0 above place) =
      filter.predicted above scanline place := by
  cases filter with
  | none => rfl
  | sub => rfl
  | up => rfl
  | average => rfl
  | paeth => exact nearest_eq_closest ..

/-- On the way along a line, the neighbours of a place are those of the lines themselves. -/
theorem getElem?_mapState
    (filter : Filter)
    (scanline : Bytes)
    (neighbours : Neighbours)
    {place : Nat}
    (inside : place < scanline.length) :
    (Traversal.mapState
        (fun neighbours byte =>
          (byte - neighbours.prediction filter, neighbours.advance byte))
        neighbours scanline)[place]? =
      some
        (scanline[place] -
          filter.predict (before neighbours.left scanline place)
            (neighbours.above.getD place 0)
            (before neighbours.aboveLeft neighbours.above place)) := by
  induction scanline generalizing neighbours place with
  | nil =>
      cases inside
  | cons byte rest inductionHypothesis =>
      cases place with
      | zero =>
          have overhead : neighbours.overhead = neighbours.above.getD 0 0 := by
            rw [Neighbours.overhead]
            cases neighbours.above <;> rfl
          rw [Traversal.mapState_cons, List.getElem?_cons_zero,
            Neighbours.prediction, overhead]
          rfl
      | succ place =>
          have restInside : place < rest.length :=
            Nat.lt_of_succ_lt_succ inside
          have left :
              before (neighbours.advance byte).left rest place =
                before neighbours.left (byte :: rest) (place + 1) := by
            cases place <;> rfl
          have above :
              (neighbours.advance byte).above.getD place 0 =
                neighbours.above.getD (place + 1) 0 := by
            rw [Neighbours.advance]
            cases neighbours.above <;> rfl
          have aboveLeft :
              before (neighbours.advance byte).aboveLeft
                  (neighbours.advance byte).above place =
                before neighbours.aboveLeft neighbours.above (place + 1) := by
            rw [Neighbours.advance, Neighbours.overhead]
            cases neighbours.above <;> cases place <;> rfl
          rw [Traversal.mapState_cons, List.getElem?_cons_succ,
            inductionHypothesis (neighbours.advance byte) restInside, left,
            above, aboveLeft]
          rfl

/-- The filtered form of a line is what the format defines. -/
theorem filtered_encode
    (filter : Filter)
    (above scanline : Bytes) :
    filter.Filtered above scanline (filter.encode above scanline) where
  length_eq :=
    filter.length_encode above scanline
  byte place inside := by
    rw [← predict_before]
    exact getElem?_mapState filter scanline (Neighbours.start above) inside

/-- The definition leaves no choice. -/
theorem Filtered.eq_encode
    {filter : Filter}
    {above scanline filtered : Bytes}
    (defined : filter.Filtered above scanline filtered) :
    filtered = filter.encode above scanline := by
  have encoded := filter.filtered_encode above scanline
  apply List.ext_getElem?
  intro place
  by_cases inside : place < scanline.length
  · rw [defined.byte place inside, encoded.byte place inside]
  · have outside := Nat.le_of_not_lt inside
    rw [← defined.length_eq] at outside
    rw [List.getElem?_eq_none outside]
    rw [defined.length_eq, ← encoded.length_eq] at outside
    rw [List.getElem?_eq_none outside]

end Filter

namespace Scanline

/--
That a stream is made of the given scanlines from a number on: each is filtered
as chosen for its number, below the one before it, and led by the filter's tag.
-/
inductive Filtered (filters : Nat → Filter) :
    Nat → Bytes → List Bytes → Bytes → Prop where
  | nil
      {number : Nat}
      {above : Bytes} :
      Filtered filters number above [] []
  | cons
      {number : Nat}
      {above scanline filtered stream : Bytes}
      {scanlines : List Bytes}
      (first : (filters number).Filtered above scanline filtered)
      (others : Filtered filters (number + 1) scanline scanlines stream) :
      Filtered filters number above (scanline :: scanlines)
        ((filters number).tag :: filtered ++ stream)

variable
  {filters : Nat → Filter}
  {number : Nat}
  {above stream : Bytes}
  {scanlines : List Bytes}

theorem Filtered.eq_filterLines
    (filtered : Filtered filters number above scanlines stream) :
    stream =
      (Traversal.mapState (filterLine filters) (number, above)
        scanlines).flatten := by
  induction filtered with
  | nil =>
      rfl
  | cons first _ inductionHypothesis =>
      rw [Traversal.mapState_cons, List.flatten_cons, first.eq_encode,
        inductionHypothesis]
      rfl

theorem filtered_filterLines
    (filters : Nat → Filter)
    (number : Nat)
    (above : Bytes)
    (scanlines : List Bytes) :
    Filtered filters number above scanlines
      (Traversal.mapState (filterLine filters) (number, above)
        scanlines).flatten := by
  induction scanlines generalizing number above with
  | nil =>
      exact .nil
  | cons scanline others inductionHypothesis =>
      rw [Traversal.mapState_cons, List.flatten_cons]
      exact
        .cons ((filters number).filtered_encode above scanline)
          (inductionHypothesis (number + 1) scanline)

/-- A stream that follows the format's definition is read back, whatever follows it. -/
theorem Filtered.readFiltered_append
    {lineSize : Nat}
    (filtered : Filtered filters 0 [] scanlines stream)
    (sized : ∀ scanline ∈ scanlines, scanline.length = lineSize)
    (rest : Bytes) :
    readFiltered lineSize scanlines.length (stream ++ rest) =
      some (scanlines, rest) := by
  rw [filtered.eq_filterLines]
  exact readFiltered_writeFiltered lineSize filters scanlines rest sized

theorem sized_of_readFilteredFrom
    {lineSize count : Nat}
    {restored lines : List Bytes}
    {rest : Bytes}
    (sized : ∀ scanline ∈ restored, scanline.length = lineSize)
    (read :
      readFilteredFrom lineSize restored above count stream =
        some (lines, rest)) :
    lines.length = restored.length + count ∧
      ∀ scanline ∈ lines, scanline.length = lineSize := by
  induction count generalizing restored above stream with
  | zero =>
      cases read
      refine ⟨by simp, ?_⟩
      intro scanline member
      exact sized scanline (List.mem_reverse.mp member)
  | succ count inductionHypothesis =>
      cases stream with
      | nil =>
          cases read
      | cons tag stream =>
      obtain ⟨filter, _, read⟩ := Option.bind_eq_some_iff.mp read
      obtain ⟨⟨filtered, _⟩, split, read⟩ := Option.bind_eq_some_iff.mp read
      obtain ⟨_, filteredSized⟩ := Bytes.splitExactly?_eq_some_iff.mp split
      have nextSized :
          ∀ scanline ∈ filter.decode above filtered :: restored,
            scanline.length = lineSize := by
        intro scanline member
        rcases List.mem_cons.mp member with rfl | inRestored
        · rw [Filter.length_decode, filteredSized]
        · exact sized scanline inRestored
      obtain ⟨total, linesSized⟩ := inductionHypothesis nextSized read
      rw [List.length_cons] at total
      exact ⟨by omega, linesSized⟩

/-- Whatever the stream is, the scanlines read from it are as many and as long as asked for. -/
theorem sized_of_readFiltered
    {lineSize count : Nat}
    {lines : List Bytes}
    {rest : Bytes}
    (read : readFiltered lineSize count stream = some (lines, rest)) :
    lines.length = count ∧ ∀ scanline ∈ lines, scanline.length = lineSize := by
  obtain ⟨total, sized⟩ :=
    sized_of_readFilteredFrom (List.forall_mem_nil _) read
  rw [List.length_nil, Nat.zero_add] at total
  exact ⟨total, sized⟩

end Scanline

end SpritePack
