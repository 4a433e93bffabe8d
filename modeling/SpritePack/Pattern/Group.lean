import SpritePack.Pattern.Flags
import SpritePack.Pattern.Reader
import SpritePack.Text.Alphanumeric

namespace SpritePack.Pattern

/-!
# Groups

What an opening parenthesis starts: a group, with or without a name or flags of
its own, or a change of flags for the rest of the group around it.
-/

/-- What an opening parenthesis starts. -/
inductive Opening where
  | group
  | named (name : List Char)
  /-- A group, or else the rest of the group around, for which the flags are changed. -/
  | flagged (flags : Flags) (isGroup : Bool)
  deriving Repr, DecidableEq

namespace Opening

/-- Whether a name may start with a character. -/
def startsName (character : Char) : Bool :=
  character == '_' || Alphanumeric.isLetter character

/-- Whether a name may go on with a character. -/
def continuesName (character : Char) : Bool :=
  character ∈ ['_', '.', '[', ']'] || Alphanumeric.isAlphanumeric character

/-- Whether a text may be the name of a group. -/
def isName : List Char → Bool
  | [] => false
  | first :: rest => startsName first && rest.all continuesName

/-- Read a name up to the bracket that ends it. -/
def readName : Reader Opening := do
  let name ← Reader.before (· == '>')
  if (← Reader.takes ['>']) && isName name then
    return named name
  else
    Reader.refuse

/-- Read flags up to the colon or parenthesis that ends them. Only a group may come without any. -/
def readFlags (flags : Flags) : Reader Opening := do
  let letters ← Reader.before (fun character => character == ':' || character == ')')
  let isGroup := (← Reader.next) == ':'
  if letters = [] ∧ !isGroup then
    Reader.refuse
  else
    return flagged (← Reader.ofOption (flags.setAll? true letters)) isGroup

/-- The starts of conditions on what comes before or after, which patterns cannot state. -/
def lookaround : List (List Char) :=
  [['?', '='], ['?', '!'], ['?', '<', '='], ['?', '<', '!']]

/-- Read what follows an opening parenthesis. -/
def read (flags : Flags) : Reader Opening := do
  Reader.skip flags.remarks
  if ← Reader.test (fun text => lookaround.any (·.isPrefixOf text)) then
    Reader.refuse
  else if ← Reader.takes ['?', 'P', '<'] then
    readName
  else if ← Reader.takes ['?', '<'] then
    readName
  else if ← Reader.takes ['?'] then
    readFlags flags
  else
    return group

end Opening

end SpritePack.Pattern
