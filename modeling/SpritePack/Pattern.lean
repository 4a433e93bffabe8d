import SpritePack.Pattern.Parser
import SpritePack.Pattern.Run

namespace SpritePack

/-!
# Patterns

A pattern describes texts. It agrees with a text if the first stretch of it that
fits, taken as preferred, goes up to the end.
-/

/-- A pattern: its text, and what it says. -/
structure Pattern where
  text : String
  expression : Pattern.Expression
  deriving Repr, DecidableEq

namespace Pattern

/-- The pattern with the given text, if it is one. -/
def ofText? (text : String) : Option Pattern :=
  (parse? text.toList).map fun expression => ⟨text, expression⟩

/-- Whether the pattern agrees with a text. -/
def agrees
    (pattern : Pattern)
    (text : String) :
    Bool :=
  (Automaton.ofExpression pattern.expression).acceptsText text.toList

end Pattern

end SpritePack
