namespace SpritePack

/-!
# Sets of characters

Properties of characters are given as ranges of code points.
-/

/-- A set of characters: the first and last code points of its ranges. -/
structure CodePointSet where
  ranges : List (Nat × Nat)
  deriving Repr, DecidableEq

namespace CodePointSet

/-- Whether a character is in the set. -/
def contains
    (set : CodePointSet)
    (character : Char) :
    Bool :=
  set.ranges.any fun range =>
    range.1 ≤ character.toNat && character.toNat ≤ range.2

end CodePointSet

end SpritePack
