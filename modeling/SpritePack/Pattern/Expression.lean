import SpritePack.Pattern.CharacterSet

namespace SpritePack.Pattern

/-!
# Expressions

What a pattern says: which characters may follow which, and at what places in a
text. Alternatives are in an order of preference, and so are the numbers of
times that something may be repeated.
-/

/-- A condition on a place in a text, that is, on the characters next to it. -/
inductive Place where
  | textStart
  | textEnd
  | lineStart
  | lineEnd
  /-- The start of a line, where a carriage return ends a line as well. -/
  | anyLineStart
  /-- The end of a line, where a carriage return ends a line as well. -/
  | anyLineEnd
  | wordBoundary
  | noWordBoundary
  | wordStart
  | wordEnd
  deriving Repr, DecidableEq

/-- Whether a character is one of a word. -/
def isWord (character : Option Char) : Bool :=
  character.any CharacterSet.wordCharacters.contains

namespace Place

/--
Whether the condition is met whatever comes next, given the character before the
place, if there is one.
-/
def holdsBehind
    (before : Option Char) :
    Place → Bool
  | textStart => before.isNone
  | lineStart | anyLineStart => before.all (· == '\n')
  | _ => false

/--
Whether the condition is met, given the characters before and after the place, if
there are any.
-/
def holds
    (before after : Option Char) :
    Place → Bool
  | textStart => before.isNone
  | textEnd => after.isNone
  | lineStart => before.all (· == '\n')
  | lineEnd => after.all (· == '\n')
  | anyLineStart =>
      before.all (· == '\n') || (before == some '\r' && after != some '\n')
  | anyLineEnd =>
      after.all (· == '\r') || (after == some '\n' && before != some '\r')
  | wordBoundary => isWord before != isWord after
  | noWordBoundary => isWord before == isWord after
  | wordStart => !isWord before && isWord after
  | wordEnd => isWord before && !isWord after

end Place

/-- What a pattern says. -/
inductive Expression where
  /-- Nothing at all. -/
  | nothing
  /-- One character of a set. -/
  | character (set : CharacterSet)
  /-- Nothing, at a place of a certain kind. -/
  | place (kind : Place)
  | sequence (first second : Expression)
  | choice (first second : Expression)
  /-- The body or nothing; the body is preferred if the number is to be large. -/
  | optional (large : Bool) (body : Expression)
  /-- The body once or more often. -/
  | several (large : Bool) (body : Expression)
  /-- The body any number of times, where the body is never nothing. -/
  | repeated (large : Bool) (body : Expression)
  deriving Repr, DecidableEq

namespace Expression

/-- Whether an expression can stand for nothing. -/
def isNullable : Expression → Bool
  | nothing | place _ | optional .. | repeated .. => true
  | character _ => false
  | sequence first second => first.isNullable && second.isNullable
  | choice first second => first.isNullable || second.isNullable
  | several _ body => body.isNullable

/--
An expression any number of times. If it can be nothing, then to take it and find
nothing is preferred to not taking it.
-/
def anyNumber
    (large : Bool)
    (body : Expression) :
    Expression :=
  if body.isNullable then
    optional large (several large body)
  else
    repeated large body

end Expression

end SpritePack.Pattern
