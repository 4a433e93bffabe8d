import SpritePack.Pattern.Expression

namespace SpritePack.Pattern

/-!
# Automata

An expression is carried out by an automaton: a table of steps, each of which
says with which step to go on. Where it can go on in two ways, the preferred one
comes first.
-/

/-- A step of an automaton. Steps are numbered by their places in the table. -/
inductive Step where
  /-- Take a character of a set, and go on. -/
  | take (set : CharacterSet) (next : Nat)
  /-- Go on if the place is right. -/
  | check (place : Place) (next : Nat)
  /-- Go on in one of two ways. -/
  | fork (first second : Nat)
  | accept
  deriving Repr, DecidableEq

/-- The steps of an automaton. -/
abbrev Steps := Array Step

namespace Steps

/-- Add a step, and give its number. -/
def add
    (step : Step)
    (steps : Steps) :
    Nat × Steps :=
  (steps.size, steps.push step)

/-- A fork between a body and going on, where the body is preferred or not. -/
def choose
    (large : Bool)
    (body next : Nat) :
    Step :=
  if large then .fork body next else .fork next body

/--
Add the steps for an expression before a given step, and give the number of the
first. The fork of a loop is added before its body and completed after it.
-/
def ofExpression
    (next : Nat) :
    Expression → Steps → Nat × Steps
  | .nothing, steps => (next, steps)
  | .character set, steps => steps.add (.take set next)
  | .place kind, steps => steps.add (.check kind next)
  | .sequence first second, steps =>
      let (middle, steps) := ofExpression next second steps
      ofExpression middle first steps
  | .choice first second, steps =>
      let (first, steps) := ofExpression next first steps
      let (second, steps) := ofExpression next second steps
      steps.add (.fork first second)
  | .optional large body, steps =>
      let (body, steps) := ofExpression next body steps
      steps.add (choose large body next)
  | .several large body, steps =>
      let (again, steps) := steps.add .accept
      let (body, steps) := ofExpression again body steps
      (body, steps.setIfInBounds again (choose large body next))
  | .repeated large body, steps =>
      let (again, steps) := steps.add .accept
      let (body, steps) := ofExpression again body steps
      (again, steps.setIfInBounds again (choose large body next))

end Steps

/-- The automaton of an expression, which may begin anywhere in a text. -/
structure Automaton where
  steps : Steps
  /-- The step that looks for the expression here, and failing that, later. -/
  start : Nat
  /-- The step that passes over a character, to look for the expression behind it. -/
  later : Nat
  deriving Repr, DecidableEq

/-- The automaton of an expression. -/
def Automaton.ofExpression (expression : Expression) : Automaton :=
  let (accept, steps) := Steps.add .accept #[]
  let (first, steps) := Steps.ofExpression accept expression steps
  let later := steps.size
  {
    steps := (steps.push (.take .all (later + 1))).push (.fork first later)
    start := later + 1
    later := later
  }

end SpritePack.Pattern
