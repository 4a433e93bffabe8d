import SpritePack.Log.Condition
import SpritePack.Log.Record
import SpritePack.Text.Alphanumeric

namespace SpritePack.Log

/-!
# Log directives

A directive says how talkative the log is about some of the records. It may name
the part of the program that they come from, the activity that they belong to,
and a detail that they have: `part[activity{detail=value}]=level`. A name alone
asks for everything, and a level alone is about all records.
-/

/-- How talkative the log is about some of the records. -/
structure Directive where
  /-- The highest verbosity that is shown. -/
  threshold : Nat
  target : Option String := none
  activity : Option String := none
  field : Option FieldCondition := none
  deriving Repr, DecidableEq

namespace Directive

/-- The verbosity at which everything is shown. -/
def everything : Nat := Level.trace.verbosity

/-- The words for thresholds, which may be in any case. -/
def levelWords : List (String × Nat) := [
  ("off", 0),
  ("error", Level.error.verbosity),
  ("warn", Level.warn.verbosity),
  ("info", Level.info.verbosity),
  ("debug", Level.debug.verbosity),
  ("trace", Level.trace.verbosity)
]

/-- The number that decimal digits spell, after an optional plus sign. -/
def number? (text : List Char) : Option Nat :=
  let digits :=
    match text with
    | '+' :: digits => digits
    | digits => digits
  if digits ≠ [] ∧ digits.all Char.isDigit then
    some (digits.foldl (fun value digit => value * 10 + (digit.toNat - 48)) 0)
  else
    none

/-- The threshold that a number or word stands for. -/
def threshold? (text : String) : Option Nat :=
  match number? text.toList with
  | some number => if number ≤ everything then some number else none
  | none => levelWords.lookup (String.ofList (text.toList.map Char.toLower))

end Directive

/--
The text of a directive while it is read. What has a meaning is found in the text
without the blanks around it, but words are cut out of the text as it was given,
at as many bytes from its start.
-/
structure DirectiveText where
  trimmed : List Char
  given : Bytes
  deriving Repr, DecidableEq

namespace DirectiveText

/-- A text that nothing has been read of. -/
def ofText (text : String) : DirectiveText where
  trimmed := Blank.trim text.toList
  given := Utf8.encode text

/-- What follows a part of the trimmed text that has been read. -/
def drop
    (text : DirectiveText)
    (part : List Char) :
    DirectiveText where
  trimmed := text.trimmed.drop part.length
  given := text.given.drop (Utf8.encode (String.ofList part)).length

/-- What follows the next character. -/
def tail (text : DirectiveText) : DirectiveText :=
  text.drop (text.trimmed.take 1)

/-- The word up to the first of some characters, and the text from there on. -/
def word?
    (text : DirectiveText)
    (ends : List Char) :
    Option (String × DirectiveText) :=
  let part := text.trimmed.takeWhile (!ends.contains ·)
  let size := (Utf8.encode (String.ofList part)).length
  (Utf8.decode? (text.given.take size)).map fun word => (word, text.drop part)

/-- The word up to the end. -/
def lastWord? (text : DirectiveText) : Option String :=
  Utf8.decode? text.given

end DirectiveText

namespace Directive

/-- The level behind an equals sign; when it is left out, everything is shown. -/
def parseLevel?
    (directive : Directive)
    (text : DirectiveText) :
    Option Directive := do
  let word ← text.lastWord?
  if word = "" then
    some { directive with threshold := everything }
  else
    let threshold ← threshold? word
    some { directive with threshold := threshold }

/-- What follows the closing bracket: nothing, or an equals sign and a level. -/
def parseAfterBracket?
    (directive : Directive)
    (text : DirectiveText) :
    Option Directive :=
  match text.trimmed with
  | [] => some directive
  | '=' :: _ => directive.parseLevel? text.tail
  | _ => none

/-- What follows the brace that a detail starts with, up to the end. -/
def parseField?
    (directive : Directive)
    (text : DirectiveText) :
    Option Directive := do
  let (word, text) ← text.word? ['\x7d']
  if word = "" then
    none
  else
    let field ← FieldCondition.parse? word
    match text.trimmed with
    | '\x7d' :: ']' :: _ =>
        parseAfterBracket? { directive with field := some field } text.tail.tail
    | _ => none

/-- What follows an opening bracket: an activity, a detail in braces, or both. -/
def parseBracket?
    (directive : Directive)
    (text : DirectiveText) :
    Option Directive := do
  let (word, text) ← text.word? [']', '\x7b']
  match text.trimmed with
  | ']' :: _ =>
      parseAfterBracket? { directive with activity := some word } text.tail
  | '\x7b' :: _ =>
      let activity := if word = "" then none else some word
      parseField? { directive with activity := activity } text.tail
  | _ => none

/-- The directive of a single word: a threshold, or else the name of a part of the program. -/
def ofWord (word : String) : Directive :=
  match threshold? word with
  | some threshold => { threshold := threshold }
  | none => { threshold := everything, target := some word }

/-- What starts with the name of a part of the program, or is a threshold alone. -/
def parseTarget? (text : DirectiveText) : Option Directive := do
  let (word, rest) ← text.word? ['=', '[']
  let named : Directive := { threshold := everything, target := some word }
  match rest.trimmed with
  | '=' :: _ => named.parseLevel? rest.tail
  | '[' :: _ => named.parseBracket? rest.tail
  | _ => text.lastWord?.map ofWord

/-- Whether a character may start the name of a part of the program. -/
def startsTarget (character : Char) : Bool :=
  Alphanumeric.isAlphanumeric character || ['-', ':', '_'].contains character

/-- The directive that a text without commas spells. Blanks around it are passed over. -/
def parse? (text : String) : Option Directive :=
  let text := DirectiveText.ofText text
  match text.trimmed with
  | [] => none
  | first :: _ =>
      if first = '[' then
        parseBracket? { threshold := everything } text.tail
      else if startsTarget first then
        parseTarget? text
      else
        none

end Directive

end SpritePack.Log
