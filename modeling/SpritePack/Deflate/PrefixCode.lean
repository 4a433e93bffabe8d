import SpritePack.Deflate.BitSource

namespace SpritePack.Deflate

/-!
# Prefix codes

A prefix code is a binary tree: each bit chooses a branch, and a symbol is
complete when a leaf is reached. Codes are sent as the length of each symbol's
code word. Shorter words come first in the tree, and words of one length are in
the order of their symbols, so the lengths determine the tree.
-/

/-- A part of a code: what the bits after a common beginning stand for. -/
inductive CodeTree where
  /-- No word begins this way. -/
  | unused
  /-- The word is complete. -/
  | symbol (value : Nat)
  | branch (zero one : CodeTree)
  deriving Repr, DecidableEq

/-- A code whose words have at least one bit. -/
structure PrefixCode where
  zero : CodeTree
  one : CodeTree
  deriving Repr, DecidableEq

namespace CodeTree

/-- Read the rest of a word. -/
def read? : CodeTree → BitSource → Option (Nat × BitSource)
  | unused, _ => none
  | symbol value, source => some (value, source)
  | branch zero one, source => do
      let (bit, source) ← source.readBit?
      if bit then
        one.read? source
      else
        zero.read? source

/-- The rest of a word takes a bit for each branch, so it may take none. -/
theorem remaining_of_read?
    {tree : CodeTree}
    {source rest : BitSource}
    {value : Nat}
    (read : tree.read? source = some (value, rest)) :
    rest.remaining ≤ source.remaining := by
  induction tree generalizing source with
  | unused => simp [read?] at read
  | symbol =>
      simp only [read?, Option.some.injEq, Prod.mk.injEq] at read
      exact read.2 ▸ Nat.le_refl _
  | branch zero one zeroBound oneBound =>
      simp only [read?, Option.bind_eq_bind, Option.bind_eq_some_iff,
        Prod.exists] at read
      obtain ⟨bit, next, first, later⟩ := read
      have := BitSource.remaining_of_readBit? first
      split at later
      · have := oneBound later
        omega
      · have := zeroBound later
        omega

/--
Build the part of a tree that lies below `depth` bits, from the words not yet
placed as pairs of length and symbol, shortest first. Returns the words left
over. Fails when there are too few words to fill the part.
-/
def grow :
    Nat → Nat → List (Nat × Nat) → Option (CodeTree × List (Nat × Nat))
  | _, _, [] => none
  | levels, depth, (length, value) :: rest =>
      if length ≤ depth then
        some (symbol value, rest)
      else
        match levels with
        | 0 => none
        | levels + 1 => do
            let (zero, rest) ← grow levels (depth + 1) ((length, value) :: rest)
            let (one, rest) ← grow levels (depth + 1) rest
            some (branch zero one, rest)

end CodeTree

namespace PrefixCode

/-- The longest code word in bits. -/
def maxLength : Nat := 15

/-- The symbols that have a word, with its length, shortest first. -/
def words (lengths : List Nat) : List (Nat × Nat) :=
  (List.range' 1 maxLength).flatMap fun length =>
    (lengths.zipIdx.filter fun entry => entry.1 == length)

/--
The code with the given word length for each symbol; length zero stands for no
word. There is one only if the words fill the tree exactly.
-/
def ofLengths? (lengths : List Nat) : Option PrefixCode := do
  let (zero, rest) ← CodeTree.grow (maxLength - 1) 1 (words lengths)
  let (one, rest) ← CodeTree.grow (maxLength - 1) 1 rest
  if rest.isEmpty then
    some ⟨zero, one⟩
  else
    none

/--
The code of a set of distances. Besides full codes there may be one without
words, for data without repetitions, and one with a single word of one bit.
-/
def ofDistanceLengths? (lengths : List Nat) : Option PrefixCode :=
  match words lengths with
  | [] => some ⟨.unused, .unused⟩
  | [(1, value)] => some ⟨.symbol value, .unused⟩
  | _ => ofLengths? lengths

/-- Read a word and give its symbol. -/
def read?
    (code : PrefixCode)
    (source : BitSource) :
    Option (Nat × BitSource) :=
  (CodeTree.branch code.zero code.one).read? source

/-- A word has a bit at least. -/
theorem remaining_of_read?
    {code : PrefixCode}
    {source rest : BitSource}
    {value : Nat}
    (read : code.read? source = some (value, rest)) :
    rest.remaining < source.remaining := by
  simp only [PrefixCode.read?, CodeTree.read?, Option.bind_eq_bind,
    Option.bind_eq_some_iff, Prod.exists] at read
  obtain ⟨bit, next, first, later⟩ := read
  have := BitSource.remaining_of_readBit? first
  split at later
  all_goals
    have := CodeTree.remaining_of_read? later
    omega

end PrefixCode

end SpritePack.Deflate
