namespace SpritePack.Pattern

/-!
# Sets of characters in patterns

A pattern names sets of characters by ranges, and combines them as sets.
-/

/-- A set of characters, as a pattern describes it. -/
inductive CharacterSet where
  | empty
  | range (first last : Char)
  | union (first second : CharacterSet)
  | intersection (first second : CharacterSet)
  | difference (first second : CharacterSet)
  /-- What is in one of the two sets, but not in both. -/
  | symmetricDifference (first second : CharacterSet)
  | complement (set : CharacterSet)
  /-- A set with the other case of each of its letters, of those in ASCII. -/
  | eitherCase (set : CharacterSet)
  deriving Repr, DecidableEq

namespace CharacterSet

/-- Whether a character is in the set. -/
def contains : CharacterSet → Char → Bool
  | empty, _ => false
  | range first last, character =>
      first.toNat ≤ character.toNat && character.toNat ≤ last.toNat
  | union first second, character =>
      first.contains character || second.contains character
  | intersection first second, character =>
      first.contains character && second.contains character
  | difference first second, character =>
      first.contains character && !second.contains character
  | symmetricDifference first second, character =>
      first.contains character != second.contains character
  | complement set, character => !set.contains character
  | eitherCase set, character =>
      set.contains character.toLower || set.contains character.toUpper

/-- The set of one character. -/
def single (character : Char) : CharacterSet :=
  range character character

/-- The set of all characters. -/
def all : CharacterSet := complement empty

/-- The decimal digits. -/
def digits : CharacterSet := range '0' '9'

/-- The capital letters. -/
def capitals : CharacterSet := range 'A' 'Z'

/-- The small letters. -/
def smallLetters : CharacterSet := range 'a' 'z'

/-- The letters. -/
def letters : CharacterSet := union capitals smallLetters

/-- The letters and the decimal digits. -/
def lettersAndDigits : CharacterSet := union digits letters

/-- The characters of words: letters, decimal digits and the underscore. -/
def wordCharacters : CharacterSet := union lettersAndDigits (single '_')

/-- The blank characters. -/
def blanks : CharacterSet := union (range '\t' '\r') (single ' ')

/-- The sets of ASCII characters that have names. -/
def named : List (String × CharacterSet) := [
  ("alnum", lettersAndDigits),
  ("alpha", letters),
  ("ascii", range '\x00' '\x7F'),
  ("blank", union (single '\t') (single ' ')),
  ("cntrl", union (range '\x00' '\x1F') (single '\x7F')),
  ("digit", digits),
  ("graph", range '!' '~'),
  ("lower", smallLetters),
  ("print", range ' ' '~'),
  ("punct", difference (range '!' '~') lettersAndDigits),
  ("space", blanks),
  ("upper", capitals),
  ("word", wordCharacters),
  ("xdigit", union digits (union (range 'A' 'F') (range 'a' 'f')))
]

end CharacterSet

end SpritePack.Pattern
