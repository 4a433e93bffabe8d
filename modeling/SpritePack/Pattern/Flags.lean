import SpritePack.Pattern.Expression

namespace SpritePack.Pattern

/-!
# Flags

Letters in a pattern change how what follows them is understood.
-/

/-- How a pattern is to be understood. -/
structure Flags where
  /-- Letters stand for both cases. -/
  anyCase : Bool := false
  /-- Carets and dollar signs stand for the ends of lines, not of the text. -/
  byLine : Bool := false
  /-- A dot stands for a line feed as well. -/
  dotAll : Bool := false
  /-- Small numbers of repetitions are preferred. -/
  preferFew : Bool := false
  /-- Carriage returns end lines, too. -/
  carriageReturns : Bool := false
  /-- Characters are those of all scripts, not just of ASCII. -/
  allScripts : Bool := true
  /-- Blanks say nothing, and number signs start remarks. -/
  remarks : Bool := false
  deriving Repr, DecidableEq

namespace Flags

/-- Set the flag with the given letter. -/
def set?
    (flags : Flags)
    (value : Bool) :
    Char → Option Flags
  | 'i' => some { flags with anyCase := value }
  | 'm' => some { flags with byLine := value }
  | 's' => some { flags with dotAll := value }
  | 'U' => some { flags with preferFew := value }
  | 'R' => some { flags with carriageReturns := value }
  | 'u' => some { flags with allScripts := value }
  | 'x' => some { flags with remarks := value }
  | _ => none

/-- Set flags by their letters. Behind a dash, of which there is at most one, they are cleared. -/
def setAll?
    (flags : Flags)
    (value : Bool) :
    List Char → Option Flags
  | [] => some flags
  | '-' :: letters =>
      if value ∧ letters ≠ [] then flags.setAll? false letters else none
  | letter :: letters => do
      if letter ∈ letters then
        none
      (← flags.set? value letter).setAll? value letters

/-- The place that a caret stands for. -/
def caret (flags : Flags) : Place :=
  if flags.byLine then
    if flags.carriageReturns then .anyLineStart else .lineStart
  else
    .textStart

/-- The place that a dollar sign stands for. -/
def dollar (flags : Flags) : Place :=
  if flags.byLine then
    if flags.carriageReturns then .anyLineEnd else .lineEnd
  else
    .textEnd

/-- The set that a dot stands for. It has no meaning in ASCII, where it would split characters. -/
def dot? (flags : Flags) : Option CharacterSet :=
  if flags.allScripts then
    if flags.dotAll then
      some .all
    else if flags.carriageReturns then
      some (.complement (.union (.single '\n') (.single '\r')))
    else
      some (.complement (.single '\n'))
  else
    none

/-- The set, together with the other case of its letters if case is not to matter. -/
def foldCase
    (flags : Flags)
    (set : CharacterSet) :
    CharacterSet :=
  if flags.anyCase then .eitherCase set else set

end Flags

end SpritePack.Pattern
