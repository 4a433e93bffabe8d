import SpritePack.Toml.Writer

namespace SpritePack.Toml

/-!
# The forms of a settings file

The same entries can be written in many ways: a character of a text may be
escaped in several, lines without an entry may stand anywhere, and a line may
end in one of two ways. These relations say which characters are a form of what.
-/

/-- The letters and signs that stand for a character behind a backslash. -/
def shortEscapes : List (Char × Char) := [
  ('b', '\x08'),
  ('t', '\t'),
  ('n', '\n'),
  ('f', '\x0C'),
  ('r', '\r'),
  ('\x22', '\x22'),
  ('\\', '\\')
]

/-- The forms of a character between double quotes. -/
inductive Spells (character : Char) : List Char → Prop where
  | itself
      (plain : isPlain character = true)
      (notQuote : character ≠ '\x22')
      (notBackslash : character ≠ '\\') :
      Spells character [character]
  | short
      {letter : Char}
      (known : (letter, character) ∈ shortEscapes) :
      Spells character ['\\', letter]
  | four
      {digits : List Char}
      (length_eq : digits.length = 4)
      (number : hexNumber? digits = some character.toNat) :
      Spells character ('\\' :: 'u' :: digits)
  | eight
      {digits : List Char}
      (length_eq : digits.length = 8)
      (number : hexNumber? digits = some character.toNat) :
      Spells character ('\\' :: 'U' :: digits)

/-- The forms of a text between double quotes, character by character. -/
inductive SpellsText : List Char → List Char → Prop where
  | nil :
      SpellsText [] []
  | cons
      {character : Char}
      {form text forms : List Char}
      (first : Spells character form)
      (rest : SpellsText text forms) :
      SpellsText (character :: text) (form ++ forms)

/-- Whether characters are a digit and then digits, also of other bases, or low lines. -/
def isUnsigned : List Char → Bool
  | first :: rest =>
      first.isDigit && rest.all fun digit => digit.isAlphanum || digit = '_'
  | [] => false

/-- Whether characters may be an integer, which may have a sign. -/
def isNumeral : List Char → Bool
  | '+' :: digits | '-' :: digits => isUnsigned digits
  | digits => isUnsigned digits

/-- A key and the text that it is given, or none if it is given an integer or a boolean. -/
abbrev Entry := String × Option String

/-- Whether characters may stand as a key without quotes. -/
def isBareKey (key : String) : Bool :=
  !key.isEmpty && key.toList.all isBareKeyCharacter

/-- The forms of a line, without its end: those that give no entry, and those of an entry. -/
inductive WritesLine : Option Entry → List Char → Prop where
  | blank
      {blanks : List Char}
      (allBlank : ∀ character ∈ blanks, isBlank character = true) :
      WritesLine none blanks
  | comment
      {blanks remark : List Char}
      (allBlank : ∀ character ∈ blanks, isBlank character = true)
      (allPlain : ∀ character ∈ remark, isPlain character = true) :
      WritesLine none (blanks ++ '#' :: remark)
  | text
      {key value : String}
      {form : List Char}
      (bare : isBareKey key = true)
      (spelled : SpellsText value.toList form) :
      WritesLine (some (key, some value))
        (key.toList ++ " = ".toList ++ '\x22' :: (form ++ ['\x22']))
  | integer
      {key : String}
      {form : List Char}
      (bare : isBareKey key = true)
      (numeral : isNumeral form = true) :
      WritesLine (some (key, none)) (key.toList ++ " = ".toList ++ form)
  | boolean
      {key : String}
      (bare : isBareKey key = true)
      (value : Bool) :
      WritesLine (some (key, none))
        (key.toList ++ " = ".toList ++ (Value.boolean value).write)

/-- The two ways to end a line. -/
def lineEnds : List (List Char) :=
  [['\n'], ['\r', '\n']]

/-- The forms of entries in their order, with other lines anywhere; the last line needs no end. -/
inductive WritesLines : List Entry → List Char → Prop where
  | nil :
      WritesLines [] []
  | last
      {entry : Option Entry}
      {form : List Char}
      (line : WritesLine entry form) :
      WritesLines entry.toList form
  | cons
      {entry : Option Entry}
      {entries : List Entry}
      {form ending forms : List Char}
      (line : WritesLine entry form)
      (ends : ending ∈ lineEnds)
      (rest : WritesLines entries forms) :
      WritesLines (entry.toList ++ entries) (form ++ (ending ++ forms))

/-- The files of entries in their order. -/
def Writes
    (entries : List Entry)
    (file : String) : Prop :=
  WritesLines entries file.toList

/-- The entry of a line, if it has one. -/
def Line.entry? : Line → Option Entry
  | .entry key (.text value) => some (key, some value)
  | .entry key (.integer _) => some (key, none)
  | .entry key (.boolean _) => some (key, none)
  | .blank => none
  | .comment _ => none

/-- Whether a line can be written: its key needs no quotes, its remark has no control characters. -/
def Line.isWritable : Line → Bool
  | .entry key _ => isBareKey key
  | .comment text => text.toList.all isPlain
  | .blank => true

end SpritePack.Toml
