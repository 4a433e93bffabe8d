import SpritePack.Bytes
import SpritePack.Traversal

namespace SpritePack

/-!
# Scanline filters

A filter stores each byte of a scanline as its difference from a prediction,
made from the bytes to the left, above, and above to the left. Undoing it makes
the same predictions from the bytes restored so far. Bytes before the start of
a scanline, and the whole line above the first, count as zero.
-/

/-- How the bytes of a scanline are predicted. -/
inductive Filter where
  | none
  | sub
  | up
  | average
  | paeth
  deriving Repr, DecidableEq

namespace Filter

/-- The filter that a scanline's leading byte names. -/
def ofTag? (tag : UInt8) : Option Filter :=
  match tag.toNat with
  | 0 => some .none
  | 1 => some .sub
  | 2 => some .up
  | 3 => some .average
  | 4 => some .paeth
  | _ => Option.none

/-- The byte that names a filter. -/
def tag : Filter → UInt8
  | .none => 0
  | .sub => 1
  | .up => 2
  | .average => 3
  | .paeth => 4

/-- A filter is found by its tag. -/
@[simp] theorem ofTag?_tag
    (filter : Filter) :
    ofTag? filter.tag = some filter := by
  cases filter <;> rfl

/-- The distance between two numbers. -/
def distance (first second : Nat) : Nat :=
  (first - second) + (second - first)

/--
Of the three neighbours, the one nearest to `left + above - aboveLeft`. Ties go
to the left neighbour, then to the one above.
-/
def nearest (left above aboveLeft : UInt8) : UInt8 :=
  let toLeft := distance above.toNat aboveLeft.toNat
  let toAbove := distance left.toNat aboveLeft.toNat
  let toAboveLeft :=
    distance (left.toNat + above.toNat) (aboveLeft.toNat + aboveLeft.toNat)
  if toLeft ≤ toAbove ∧ toLeft ≤ toAboveLeft then
    left
  else if toAbove ≤ toAboveLeft then
    above
  else
    aboveLeft

/-- The prediction for a byte from its three restored neighbours. -/
def predict
    (filter : Filter)
    (left above aboveLeft : UInt8) :
    UInt8 :=
  match filter with
  | .none => 0
  | .sub => left
  | .up => above
  | .average => ((left.toNat + above.toNat) / 2).toUInt8
  | .paeth => nearest left above aboveLeft

/-- What a prediction needs to know, on the way along a scanline. -/
structure Neighbours where
  left : UInt8
  aboveLeft : UInt8
  /-- The line above from the present byte on; it counts as zero where it ends. -/
  above : Bytes

namespace Neighbours

/-- The neighbours of a scanline's first byte. -/
def start (above : Bytes) : Neighbours where
  left := 0
  aboveLeft := 0
  above := above

/-- The byte above the present one. -/
def overhead (neighbours : Neighbours) : UInt8 :=
  neighbours.above.headD 0

/-- The neighbours of the next byte, given the present one restored. -/
def advance
    (neighbours : Neighbours)
    (restored : UInt8) :
    Neighbours where
  left := restored
  aboveLeft := neighbours.overhead
  above := neighbours.above.tail

/-- The prediction for the present byte. -/
def prediction
    (neighbours : Neighbours)
    (filter : Filter) :
    UInt8 :=
  filter.predict neighbours.left neighbours.overhead neighbours.aboveLeft

end Neighbours

/-- The filtered form of a scanline below another. -/
def encode
    (filter : Filter)
    (above scanline : Bytes) :
    Bytes :=
  Traversal.mapState
    (fun neighbours byte =>
      (byte - neighbours.prediction filter, neighbours.advance byte))
    (Neighbours.start above)
    scanline

/-- The scanline of a filtered form, below another. -/
def decode
    (filter : Filter)
    (above filtered : Bytes) :
    Bytes :=
  Traversal.mapState
    (fun neighbours byte =>
      let restored := byte + neighbours.prediction filter
      (restored, neighbours.advance restored))
    (Neighbours.start above)
    filtered

@[simp] theorem length_encode
    (filter : Filter)
    (above scanline : Bytes) :
    (filter.encode above scanline).length = scanline.length :=
  Traversal.length_mapState ..

@[simp] theorem length_decode
    (filter : Filter)
    (above filtered : Bytes) :
    (filter.decode above filtered).length = filtered.length :=
  Traversal.length_mapState ..

/-- Undoing a filter gives back the scanline, whatever lies above. -/
theorem decode_encode
    (filter : Filter)
    (above scanline : Bytes) :
    filter.decode above (filter.encode above scanline) = scanline := by
  unfold decode encode
  generalize Neighbours.start above = neighbours
  induction scanline generalizing neighbours with
  | nil => rfl
  | cons byte rest inductionHypothesis => simp [inductionHypothesis]

end Filter

namespace Scanline

/--
The filtered form of a scanline, led by the filter's tag, given the line's number
and the line above. The state for the next line goes with it.
-/
def filterLine
    (choose : Nat → Filter)
    (state : Nat × Bytes)
    (scanline : Bytes) :
    Bytes × Nat × Bytes :=
  let filter := choose state.1
  (filter.tag :: filter.encode state.2 scanline, state.1 + 1, scanline)

/-- The stream of scanlines, each filtered as chosen for its number. -/
def writeFiltered
    (choose : Nat → Filter)
    (scanlines : List Bytes) :
    Bytes :=
  (Traversal.mapState (filterLine choose) (0, []) scanlines).flatten

/-- The loop of `readFiltered`, with the restored scanlines so far in reverse. -/
def readFilteredFrom
    (lineSize : Nat)
    (restored : List Bytes)
    (above : Bytes) :
    Nat → Bytes → Option (List Bytes × Bytes)
  | 0, stream => some (restored.reverse, stream)
  | count + 1, stream => do
      let (tag, stream) ←
        match stream with
        | [] => none
        | tag :: stream => some (tag, stream)
      let filter ← Filter.ofTag? tag
      let (filtered, stream) ← Bytes.splitExactly? lineSize stream
      let scanline := filter.decode above filtered
      readFilteredFrom lineSize (scanline :: restored) scanline count stream

/--
Read the given number of scanlines, each a filter's tag and a filtered line,
from the start of a stream. Returns the restored scanlines and the rest.
-/
def readFiltered
    (lineSize count : Nat)
    (stream : Bytes) :
    Option (List Bytes × Bytes) :=
  readFilteredFrom lineSize [] [] count stream

/-- Filtered scanlines are restored one after the other, whatever follows them. -/
theorem readFilteredFrom_filterLines
    (lineSize number : Nat)
    (choose : Nat → Filter)
    (restored scanlines : List Bytes)
    (above rest : Bytes)
    (sized : ∀ scanline ∈ scanlines, scanline.length = lineSize) :
    readFilteredFrom lineSize restored above scanlines.length
        ((Traversal.mapState (filterLine choose) (number, above)
          scanlines).flatten ++ rest) =
      some (restored.reverse ++ scanlines, rest) := by
  induction scanlines generalizing restored number above with
  | nil => simp [readFilteredFrom]
  | cons scanline others inductionHypothesis =>
      have lineSized := sized scanline List.mem_cons_self
      have othersSized := fun line member =>
        sized line (List.mem_cons_of_mem scanline member)
      have encodedSized :
          ((choose number).encode above scanline).length = lineSize := by
        rw [Filter.length_encode, lineSized]
      simp only [Traversal.mapState_cons, filterLine, List.flatten_cons,
        List.length_cons, List.cons_append, List.append_assoc,
        readFilteredFrom, Option.bind_eq_bind, Option.bind_some,
        Filter.ofTag?_tag, ← encodedSized, Bytes.splitExactly?_append,
        Filter.decode_encode]
      rw [encodedSized, inductionHypothesis _ _ _ othersSized]
      simp

/-- Reading undoes writing, whatever filter each line was given. -/
theorem readFiltered_writeFiltered
    (lineSize : Nat)
    (choose : Nat → Filter)
    (scanlines : List Bytes)
    (rest : Bytes)
    (sized : ∀ scanline ∈ scanlines, scanline.length = lineSize) :
    readFiltered lineSize scanlines.length
        (writeFiltered choose scanlines ++ rest) =
      some (scanlines, rest) :=
  readFilteredFrom_filterLines lineSize 0 choose [] scanlines [] rest sized

end Scanline

end SpritePack
