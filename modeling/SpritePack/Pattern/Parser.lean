import SpritePack.Pattern.Class
import SpritePack.Pattern.Group

namespace SpritePack.Pattern

/-!
# Reading patterns

A pattern is read from left to right. Alternatives end at bars, groups at
parentheses, and a sign of repetition is about the item before it.
-/

/-- A part of a pattern. -/
structure Part where
  expression : Expression
  /-- How deep things are nested in it. -/
  depth : Nat := 0
  /-- Whether it may be repeated, which a change of flags may not. -/
  repeatable : Bool := true
  deriving Repr, DecidableEq

namespace Part

/-- What a change of flags leaves in its place. -/
def blank : Part where
  expression := .nothing
  repeatable := false

/-- Parts one after the other, of which the last one comes first. -/
def inSequence : List Part → Part
  | [] => { expression := .nothing }
  | [part] => part
  | last :: earlier => {
      expression :=
        earlier.foldl (fun rest part => .sequence part.expression rest) last.expression
      depth := earlier.foldl (fun depth part => max depth part.depth) last.depth + 1
    }

/-- Alternatives, of which the last one comes first. -/
def inChoice : List Part → Part
  | [] => { expression := .nothing }
  | [part] => part
  | last :: earlier => {
      expression :=
        earlier.foldl (fun rest part => .choice part.expression rest) last.expression
      depth := earlier.foldl (fun depth part => max depth part.depth) last.depth + 1
    }

/-- A part inside something else. -/
def nested
    (part : Part)
    (expression : Expression) :
    Part where
  expression := expression
  depth := part.depth + 1

end Part

/-- A group that is being read, or the pattern as a whole. -/
structure Level where
  /-- The alternatives before the last bar, the latest first. -/
  branches : List Part := []
  /-- The items since the last bar, the latest first. -/
  items : List Part := []
  flags : Flags := {}
  deriving Repr, DecidableEq

namespace Level

/-- Add an item. -/
def add
    (level : Level)
    (part : Part) :
    Level :=
  { level with items := part :: level.items }

/-- Go on behind a bar. -/
def alternate (level : Level) : Level :=
  { level with
    branches := Part.inSequence level.items :: level.branches
    items := [] }

/-- Everything that has been read. -/
def content (level : Level) : Part :=
  Part.inChoice (Part.inSequence level.items :: level.branches)

/-- Repeat the last item. -/
def repeatLast?
    (level : Level)
    (repetition : Expression → Expression) :
    Option Level :=
  match level.items with
  | last :: items =>
      if last.repeatable then
        some { level with items := last.nested (repetition last.expression) :: items }
      else
        none
  | [] => none

end Level

/-- How much of a pattern has been read. -/
structure Progress where
  /-- The innermost group that is open. -/
  level : Level := {}
  /-- The groups around it, from the inside. -/
  outer : List Level := []
  /-- The names of groups so far. -/
  names : List (List Char) := []
  deriving Repr, DecidableEq

namespace Progress

/-- Add an item to the innermost group. -/
def add
    (progress : Progress)
    (part : Part) :
    Progress :=
  { progress with level := progress.level.add part }

/-- Open a group with the given flags. -/
def openGroup
    (progress : Progress)
    (flags : Flags) :
    Progress :=
  { progress with
    level := { flags := flags }
    outer := progress.level :: progress.outer }

/-- Close the innermost group. The flags from before it hold again. -/
def closeGroup? (progress : Progress) : Option Progress :=
  match progress.outer with
  | [] => none
  | level :: outer =>
      let content := progress.level.content
      some { progress with
        level := level.add (content.nested content.expression)
        outer := outer }

/-- Take what an opening parenthesis starts. Names of groups may not be repeated. -/
def take?
    (progress : Progress) :
    Opening → Option Progress
  | .group => some (progress.openGroup progress.level.flags)
  | .named name =>
      if name ∈ progress.names then
        none
      else
        some { progress.openGroup progress.level.flags with
          names := name :: progress.names }
  | .flagged flags true => some (progress.openGroup flags)
  | .flagged flags false =>
      some { progress with
        level := { progress.level with flags := flags }.add Part.blank }

/-- Read what follows a sign of repetition: a question mark for the other preference. -/
def readRepetition
    (progress : Progress)
    (repetition : Bool → Expression → Expression) :
    Reader Progress := do
  let other ← Reader.takes ['?']
  let large := other == progress.level.flags.preferFew
  let level ← Reader.ofOption (progress.level.repeatLast? (repetition large))
  return { progress with level := level }

/-- Add an atom. -/
def addAtom?
    (progress : Progress)
    (atom : Atom) :
    Option Progress :=
  (atom.expression? progress.level.flags).map fun expression =>
    progress.add { expression := expression }

/-- Read what starts with a character. Numbers of repetitions cannot be given. -/
def readPart
    (progress : Progress)
    (character : Char) :
    Reader Progress := do
  let flags := progress.level.flags
  match character with
  | '(' => Reader.ofOption (progress.take? (← Opening.read flags))
  | ')' => Reader.ofOption progress.closeGroup?
  | '|' => return { progress with level := progress.level.alternate }
  | '[' =>
      let set ← Class.read flags
      return progress.add { expression := .character set.set, depth := set.depth }
  | '?' => progress.readRepetition .optional
  | '*' => progress.readRepetition .anyNumber
  | '+' => progress.readRepetition .several
  | '\x7b' => Reader.refuse
  | '\\' => Reader.ofOption (progress.addAtom? (← Atom.readEscaped flags))
  | '.' => Reader.ofOption (progress.addAtom? .dot)
  | '^' => Reader.ofOption (progress.addAtom? .caret)
  | '$' => Reader.ofOption (progress.addAtom? .dollar)
  | other => Reader.ofOption (progress.addAtom? (.literal other false))

/-- The pattern at the end of its text, where no group may be open. -/
def finish? (progress : Progress) : Option Part :=
  if progress.outer = [] then some progress.level.content else none

end Progress

/-- How deep things may be nested in a pattern. -/
def depthLimit : Nat := 250

/-- What the text of a pattern says, if it is one. -/
def parse? (text : List Char) : Option Expression := do
  let found ←
    Reader.loop (fun progress => progress.level.flags.remarks)
      (fun progress character => Sum.inl <$> progress.readPart character)
      Progress.finish? {} text
  if found.value.depth ≤ depthLimit then
    some found.value.expression
  else
    none

end SpritePack.Pattern
