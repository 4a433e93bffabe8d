import SpritePack.Deflate.Alphabet

namespace SpritePack.Deflate

/-!
# The codes of a block

A block may begin with its own codes. Their word lengths are sent in runs, and
the runs are themselves in a code of nineteen symbols, whose word lengths come
first.
-/

/-- A run of equal word lengths, as one symbol announces it. -/
inductive LengthRun where
  | given (length : Nat)
  | previous (count : Nat)
  | zeros (count : Nat)
  deriving Repr, DecidableEq

/-- Read one run. -/
def readLengthRun?
    (code : PrefixCode)
    (source : BitSource) :
    Option (LengthRun × BitSource) :=
  match code.read? source with
  | none => none
  | some (symbol, source) =>
      if symbol < 16 then
        some (.given symbol, source)
      else if symbol = 16 then
        (BitSource.readNumber? 2 source).map fun (extra, source) =>
          (.previous (3 + extra), source)
      else if symbol = 17 then
        (BitSource.readNumber? 3 source).map fun (extra, source) =>
          (.zeros (3 + extra), source)
      else
        (BitSource.readNumber? 7 source).map fun (extra, source) =>
          (.zeros (11 + extra), source)

/-- A run of lengths takes a bit at least, so that the runs of a table end. -/
theorem remaining_of_readLengthRun?
    {code : PrefixCode}
    {source rest : BitSource}
    {run : LengthRun}
    (read : readLengthRun? code source = some (run, rest)) :
    rest.remaining < source.remaining := by
  unfold readLengthRun? at read
  split at read
  · simp at read
  next symbol next symbolRead =>
    have consumed := PrefixCode.remaining_of_read? symbolRead
    split at read
    · simp only [Option.some.injEq, Prod.mk.injEq] at read
      exact read.2 ▸ consumed
    · split at read
      all_goals try split at read
      all_goals
        simp only [Option.map_eq_some_iff, Prod.mk.injEq, Prod.exists] at read
        obtain ⟨_, _, extra, _, rfl⟩ := read
        have := BitSource.remaining_of_readNumber? extra
        omega

/-- The lengths of a run, given those before it in reverse. A first run has none to repeat. -/
def LengthRun.extend? (before : List Nat) : LengthRun → Option (List Nat)
  | .given length => some (length :: before)
  | .previous count =>
      match before with
      | [] => none
      | last :: _ => some (List.replicate count last ++ before)
  | .zeros count => some (List.replicate count 0 ++ before)

/--
Read runs until there are `total` lengths, given those so far in reverse. A run
that goes beyond the total is an error.
-/
def readLengths?
    (code : PrefixCode)
    (total : Nat)
    (before : List Nat)
    (source : BitSource) :
    Option (List Nat × BitSource) :=
  if before.length = total then
    some (before.reverse, source)
  else
    match _read : readLengthRun? code source with
    | none => none
    | some (run, rest) =>
        match run.extend? before with
        | none => none
        | some extended =>
            if extended.length ≤ total then
              readLengths? code total extended rest
            else
              none
termination_by source.remaining
decreasing_by exact remaining_of_readLengthRun? _read

theorem remaining_of_readLengths?
    {code : PrefixCode}
    {total : Nat}
    {before lengths : List Nat}
    {source rest : BitSource}
    (read : readLengths? code total before source = some (lengths, rest)) :
    rest.remaining ≤ source.remaining := by
  fun_induction readLengths? code total before source with
  | case1 =>
      simp only [Option.some.injEq, Prod.mk.injEq] at read
      exact read.2 ▸ Nat.le_refl _
  | case2 => simp at read
  | case3 => simp at read
  | case4 before source _ run next runRead extended _ _ inductionHypothesis =>
      have := remaining_of_readLengthRun? runRead
      have := inductionHypothesis read
      omega
  | case5 => simp at read

/-- The order in which the word lengths of the runs' own code are sent. -/
def runSymbolOrder : List Nat :=
  [16, 17, 18, 0, 8, 7, 9, 6, 10, 5, 11, 4, 12, 3, 13, 2, 14, 1, 15]

/-- Read the given number of three-bit numbers. -/
def readTriples? : Nat → BitSource → Option (List Nat × BitSource)
  | 0, source => some ([], source)
  | count + 1, source => do
      let (value, source) ← BitSource.readNumber? 3 source
      let (values, source) ← readTriples? count source
      some (value :: values, source)

theorem remaining_of_readTriples?
    {count : Nat}
    {values : List Nat}
    {source rest : BitSource}
    (read : readTriples? count source = some (values, rest)) :
    rest.remaining ≤ source.remaining := by
  induction count generalizing source values with
  | zero =>
      simp only [readTriples?, Option.some.injEq, Prod.mk.injEq] at read
      exact read.2 ▸ Nat.le_refl _
  | succ count inductionHypothesis =>
      simp only [readTriples?, Option.bind_eq_bind, Option.bind_eq_some_iff,
        Option.some.injEq, Prod.mk.injEq, Prod.exists] at read
      obtain ⟨_, _, first, _, _, later, _, rfl⟩ := read
      have := BitSource.remaining_of_readNumber? first
      have := inductionHypothesis later
      omega

/-- The runs' own code, from its word lengths in the order in which they are sent. -/
def runCode? (sent : List Nat) : Option PrefixCode :=
  let entries := runSymbolOrder.zip sent
  PrefixCode.ofLengths? <|
    (List.range 19).map fun symbol => (entries.lookup symbol).getD 0

/-- The numbers at the start of a block that brings its own codes. -/
structure CodeCounts where
  items : Nat
  distances : Nat
  runs : Nat
  deriving Repr, DecidableEq

/-- Read the numbers of word lengths; there are at most 286 items and 30 distances. -/
def CodeCounts.read? (source : BitSource) : Option (CodeCounts × BitSource) := do
  let (items, source) ← BitSource.readNumber? 5 source
  let (distances, source) ← BitSource.readNumber? 5 source
  let (runs, source) ← BitSource.readNumber? 4 source
  if items + 257 ≤ 286 ∧ distances + 1 ≤ 30 then
    some (⟨items + 257, distances + 1, runs + 4⟩, source)
  else
    none

theorem CodeCounts.remaining_of_read?
    {counts : CodeCounts}
    {source rest : BitSource}
    (read : CodeCounts.read? source = some (counts, rest)) :
    rest.remaining ≤ source.remaining := by
  simp only [CodeCounts.read?, Option.bind_eq_bind, Option.bind_eq_some_iff,
    Option.ite_none_right_eq_some, Option.some.injEq, Prod.mk.injEq,
    Prod.exists] at read
  obtain ⟨_, _, items, _, _, distances, _, _, runs, _, _, rfl⟩ := read
  have := BitSource.remaining_of_readNumber? items
  have := BitSource.remaining_of_readNumber? distances
  have := BitSource.remaining_of_readNumber? runs
  omega

/-- The codes with the given word lengths. The end of the block must have a word. -/
def blockCodes?
    (itemLengths distanceLengths : List Nat) :
    Option BlockCodes := do
  let finishLength ← itemLengths[256]?
  if finishLength = 0 then
    none
  let items ← PrefixCode.ofLengths? itemLengths
  let distances ← PrefixCode.ofDistanceLengths? distanceLengths
  some ⟨items, distances⟩

/-- Read the codes at the start of a block that brings its own. -/
def readBlockCodes? (source : BitSource) : Option (BlockCodes × BitSource) := do
  let (counts, source) ← CodeCounts.read? source
  let (sent, source) ← readTriples? counts.runs source
  let runs ← runCode? sent
  let (lengths, source) ←
    readLengths? runs (counts.items + counts.distances) [] source
  let codes ←
    blockCodes? (lengths.take counts.items) (lengths.drop counts.items)
  some (codes, source)

/-- A table of codes leaves no more than there was. -/
theorem remaining_of_readBlockCodes?
    {codes : BlockCodes}
    {source rest : BitSource}
    (read : readBlockCodes? source = some (codes, rest)) :
    rest.remaining ≤ source.remaining := by
  simp only [readBlockCodes?, Option.bind_eq_bind, Option.bind_eq_some_iff,
    Option.some.injEq, Prod.mk.injEq, Prod.exists] at read
  obtain ⟨_, _, counts, _, _, triples, _, _, _, _, lengths, _, _, _, rfl⟩ := read
  have := CodeCounts.remaining_of_read? counts
  have := remaining_of_readTriples? triples
  have := remaining_of_readLengths? lengths
  omega

end SpritePack.Deflate
