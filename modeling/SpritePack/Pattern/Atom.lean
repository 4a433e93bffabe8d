import SpritePack.Pattern.Flags
import SpritePack.Pattern.Reader

namespace SpritePack.Pattern

/-!
# Atoms

The smallest parts of a pattern: characters that stand for themselves, and those
that a backslash gives a meaning or takes it from.
-/

/-- A smallest part of a pattern. -/
inductive Atom where
  /-- A character that stands for itself; it may have been given as a byte. -/
  | literal (character : Char) (asByte : Bool)
  /-- One of the sets that have a letter. -/
  | shorthand (set : CharacterSet) (negated : Bool)
  | dot
  | caret
  | dollar
  | place (kind : Place)
  deriving Repr, DecidableEq

namespace Atom

/-- The value of a hexadecimal digit. -/
def hexValue? (digit : Char) : Option Nat :=
  if '0' ≤ digit ∧ digit ≤ '9' then some (digit.toNat - '0'.toNat)
  else if 'a' ≤ digit ∧ digit ≤ 'f' then some (digit.toNat - 'a'.toNat + 10)
  else if 'A' ≤ digit ∧ digit ≤ 'F' then some (digit.toNat - 'A'.toNat + 10)
  else none

/-- Read a number of hexadecimal digits, behind the number that those before them spell. -/
def readHex
    (flags : Flags)
    (value : Nat) :
    Nat → Reader Nat
  | 0 => .found value
  | count + 1 => do
      let digit ← Reader.ofOption (hexValue? (← Reader.next))
      Reader.skip flags.remarks
      readHex flags (value * 16 + digit) count

/-- Read a character that is given by the digits of its code point. -/
def readCodePoint
    (flags : Flags)
    (count : Nat) :
    Reader Atom := do
  Reader.skip flags.remarks
  let code ← readHex flags 0 count
  if valid : code.isValidChar then
    return literal (Char.ofNatAux code valid) (count == 2)
  else
    Reader.refuse

/-- Whether a backslash takes its meaning from a character: all of ASCII but letters and digits. -/
def mayBeEscaped (character : Char) : Bool :=
  character.toNat < 0x80 && !character.isAlphanum &&
    character != '<' && character != '>'

/-- What a letter stands for behind a backslash, where that is no number. -/
def ofLetter? : Char → Option Atom
  | 'a' => some (literal '\x07' false)
  | 'f' => some (literal '\x0C' false)
  | 't' => some (literal '\t' false)
  | 'n' => some (literal '\n' false)
  | 'r' => some (literal '\r' false)
  | 'v' => some (literal '\x0B' false)
  | 'd' => some (shorthand .digits false)
  | 'D' => some (shorthand .digits true)
  | 's' => some (shorthand .blanks false)
  | 'S' => some (shorthand .blanks true)
  | 'w' => some (shorthand .wordCharacters false)
  | 'W' => some (shorthand .wordCharacters true)
  | 'A' => some (place .textStart)
  | 'z' => some (place .textEnd)
  | 'b' => some (place .wordBoundary)
  | 'B' => some (place .noWordBoundary)
  | '<' => some (place .wordStart)
  | '>' => some (place .wordEnd)
  | _ => none

/-- Read what follows a backslash. -/
def readEscaped (flags : Flags) : Reader Atom := do
  let character ← Reader.next
  match character with
  | 'x' => readCodePoint flags 2
  | 'u' => readCodePoint flags 4
  | 'U' => readCodePoint flags 8
  | _ =>
      if mayBeEscaped character then
        return literal character false
      else
        Reader.ofOption (ofLetter? character)

/-- The set of a character that stands for itself. Bytes beyond ASCII are no characters. -/
def literalSet?
    (flags : Flags)
    (character : Char)
    (asByte : Bool) :
    Option CharacterSet :=
  if flags.allScripts then
    if flags.anyCase then none else some (.single character)
  else if asByte ∧ 0x80 ≤ character.toNat then
    none
  else
    some (flags.foldCase (.single character))

/-- The set of a shorthand. All of them are known for ASCII alone, and none without it. -/
def shorthandSet?
    (flags : Flags)
    (set : CharacterSet)
    (negated : Bool) :
    Option CharacterSet :=
  if flags.allScripts ∨ negated then none else some set

/-- What an atom says, if it has a meaning under the flags. Words are known for ASCII alone. -/
def expression?
    (flags : Flags) :
    Atom → Option Expression
  | literal character asByte =>
      (literalSet? flags character asByte).map .character
  | shorthand set negated => (shorthandSet? flags set negated).map .character
  | dot => flags.dot?.map .character
  | caret => some (.place flags.caret)
  | dollar => some (.place flags.dollar)
  | place .textStart => some (.place .textStart)
  | place .textEnd => some (.place .textEnd)
  | place kind => if flags.allScripts then none else some (.place kind)

end Atom

end SpritePack.Pattern
