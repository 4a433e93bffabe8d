namespace SpritePack

/-!
# Control sequences

A text may hold sequences of characters that a terminal would obey and not
show. They start with the escape character. This module takes them out, and the
control characters with them.
-/

namespace ControlSequence

/-- Where a reader stands in a text. -/
inductive Position where
  /-- Outside any sequence. -/
  | outside
  /-- Behind the escape character. -/
  | escape
  /-- Behind characters that announce the last one of a short sequence. -/
  | announced
  /-- In the parameters of a control function. -/
  | parameters
  /-- In a command to the operating system, which a bell ends. -/
  | command
  /-- In a string that only an escape or a cancellation ends. -/
  | string
  deriving Repr, DecidableEq

namespace Position

/-- Whether a character lays out text: a tab, or an end of a line or page. -/
def isLayout (character : Char) : Bool :=
  character == '\t' || character == '\n' || character == '\x0C' ||
    character == '\r'

/-- Whether a character shows outside sequences. -/
def isShown (character : Char) : Bool :=
  isLayout character ||
    (0x20 ≤ character.toNat && character.toNat != 0x7F)

/-- The position behind the character that follows the escape character. -/
def afterEscape (character : Char) : Position :=
  if character = '[' then parameters
  else if character = ']' then command
  else if character ∈ ['P', 'X', '^', '_'] then string
  else outside

/-- The position behind a character of a sequence that is no control character. -/
def afterPlain
    (position : Position)
    (character : Char) :
    Position :=
  match position with
  | outside => outside
  | escape =>
      if character.toNat < 0x30 then announced else afterEscape character
  | announced => if character.toNat < 0x30 then announced else outside
  | parameters => if character.toNat < 0x40 then parameters else outside
  | command => command
  | string => string

/--
The position behind a character, and whether that shows. A character of layout
shows even within a short sequence or among parameters, and ends them. Only
characters of ASCII have a say in sequences.
-/
def next
    (position : Position)
    (character : Char) :
    Position × Bool :=
  if character = '\x1B' then
    (escape, false)
  else if character = '\x18' ∨ character = '\x1A' then
    (outside, false)
  else
    match position with
    | outside => (outside, isShown character)
    | command => (if character = '\x07' then outside else command, false)
    | string => (string, false)
    | escape | announced | parameters =>
        if isLayout character then
          (outside, true)
        else if 0x20 ≤ character.toNat ∧ character.toNat < 0x7F then
          (position.afterPlain character, false)
        else
          (position, false)

end Position

/-- The characters that show, from a position on. -/
def stripFrom
    (position : Position) :
    List Char → List Char
  | [] => []
  | character :: rest =>
      match position.next character with
      | (position, true) => character :: stripFrom position rest
      | (position, false) => stripFrom position rest

/-- The text without control sequences and control characters. -/
def strip (text : String) : String :=
  String.ofList (stripFrom .outside text.toList)

end ControlSequence

end SpritePack
