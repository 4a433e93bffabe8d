import SpritePack.Deflate.PrefixCode

namespace SpritePack.Deflate

/-!
# The alphabets of compressed data

Compressed data is a sequence of items: single bytes, repetitions of earlier
output, and the end of a block. A repetition's length and distance are each a
symbol that names a range, and a number of extra bits that choose within it.
-/

/-- One item of a compressed block. -/
inductive Item where
  | literal (byte : UInt8)
  | finish
  | repetition (length distance : Nat)
  deriving Repr, DecidableEq

/-- The numbers from `least` on that a number of extra bits tells apart. -/
structure SymbolRange where
  least : Nat
  extraBits : Nat
  deriving Repr, DecidableEq

/-- Ranges that follow each other without a gap, from their numbers of extra bits. -/
def consecutiveRanges : Nat → List Nat → List SymbolRange
  | _, [] => []
  | least, extraBits :: rest =>
      ⟨least, extraBits⟩ :: consecutiveRanges (least + 1 <<< extraBits) rest

/-- The lengths of repetitions; the longest has a symbol of its own. -/
def lengthRanges : List SymbolRange :=
  consecutiveRanges 3
      [0, 0, 0, 0, 0, 0, 0, 0, 1, 1, 1, 1, 2, 2, 2, 2, 3, 3, 3, 3, 4, 4, 4, 4,
        5, 5, 5, 5] ++
    [⟨258, 0⟩]

/-- The distances of repetitions. -/
def distanceRanges : List SymbolRange :=
  consecutiveRanges 1
    [0, 0, 0, 0, 1, 1, 2, 2, 3, 3, 4, 4, 5, 5, 6, 6, 7, 7, 8, 8, 9, 9, 10, 10,
      11, 11, 12, 12, 13, 13]

/-- The two codes of a compressed block. -/
structure BlockCodes where
  items : PrefixCode
  distances : PrefixCode
  deriving Repr, DecidableEq

/-- Read the number in a range that the next bits choose. -/
def SymbolRange.read?
    (range : SymbolRange)
    (source : BitSource) :
    Option (Nat × BitSource) := do
  let (offset, source) ← BitSource.readNumber? range.extraBits source
  some (range.least + offset, source)

/-- The bits that choose a number in a range are taken. -/
theorem SymbolRange.remaining_of_read?
    {range : SymbolRange}
    {source rest : BitSource}
    {value : Nat}
    (read : range.read? source = some (value, rest)) :
    rest.remaining ≤ source.remaining := by
  simp only [SymbolRange.read?, Option.bind_eq_bind, Option.bind_eq_some_iff,
    Option.some.injEq, Prod.mk.injEq, Prod.exists] at read
  obtain ⟨_, _, number, _, rfl⟩ := read
  have := BitSource.remaining_of_readNumber? number
  omega

/-- Read the rest of a repetition whose length symbol has been read. -/
def readRepetition?
    (distances : PrefixCode)
    (lengthSymbol : Nat)
    (source : BitSource) :
    Option (Item × BitSource) := do
  let (length, source) ← (← lengthRanges[lengthSymbol]?).read? source
  let (distanceSymbol, source) ← distances.read? source
  let (distance, source) ← (← distanceRanges[distanceSymbol]?).read? source
  some (.repetition length distance, source)

theorem remaining_of_readRepetition?
    {distances : PrefixCode}
    {lengthSymbol : Nat}
    {source rest : BitSource}
    {item : Item}
    (read : readRepetition? distances lengthSymbol source = some (item, rest)) :
    rest.remaining ≤ source.remaining := by
  simp only [readRepetition?, Option.bind_eq_bind, Option.bind_eq_some_iff,
    Option.some.injEq, Prod.mk.injEq, Prod.exists] at read
  obtain ⟨_, _, _, _, length, _, _, symbol, _, _, _, _, distance, _, rfl⟩ := read
  have := SymbolRange.remaining_of_read? length
  have := PrefixCode.remaining_of_read? symbol
  have := SymbolRange.remaining_of_read? distance
  omega

/-- Read one item. -/
def BlockCodes.read?
    (codes : BlockCodes)
    (source : BitSource) :
    Option (Item × BitSource) :=
  match codes.items.read? source with
  | none => none
  | some (symbol, source) =>
      if symbol < 256 then
        some (.literal symbol.toUInt8, source)
      else if symbol = 256 then
        some (.finish, source)
      else
        readRepetition? codes.distances (symbol - 257) source

/-- An item takes a bit at least, since its symbol does. -/
theorem BlockCodes.remaining_of_read?
    {codes : BlockCodes}
    {source rest : BitSource}
    {item : Item}
    (read : codes.read? source = some (item, rest)) :
    rest.remaining < source.remaining := by
  unfold BlockCodes.read? at read
  split at read
  · simp at read
  next symbol next symbolRead =>
    have consumed := PrefixCode.remaining_of_read? symbolRead
    split at read
    · simp only [Option.some.injEq, Prod.mk.injEq] at read
      exact read.2 ▸ consumed
    · split at read
      · simp only [Option.some.injEq, Prod.mk.injEq] at read
        exact read.2 ▸ consumed
      · exact Nat.lt_of_le_of_lt (remaining_of_readRepetition? read) consumed

/-- The word lengths of the items in a block that brings no codes of its own. -/
def fixedItemLengths : List Nat :=
  List.replicate 144 8 ++ List.replicate 112 9 ++ List.replicate 24 7 ++
    List.replicate 8 8

/-- The word lengths of the distances in a block that brings no codes of its own. -/
def fixedDistanceLengths : List Nat :=
  List.replicate 32 5

/-- The codes of a block that brings none of its own. -/
def fixedCodes? : Option BlockCodes := do
  let items ← PrefixCode.ofLengths? fixedItemLengths
  let distances ← PrefixCode.ofLengths? fixedDistanceLengths
  some ⟨items, distances⟩

end SpritePack.Deflate
