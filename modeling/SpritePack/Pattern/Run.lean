import SpritePack.Pattern.Automaton

namespace SpritePack.Pattern

/-!
# Running automata

An automaton is run through a text with all the steps that it may be at, in the
order of preference. Once one of them accepts, those after it are given up. The
text agrees with the pattern if a step accepts at its very end.
-/

/-- The steps that a run may be at, the preferred one first. -/
abbrev Positions := List Nat

namespace Automaton

/-- Whether a step has been reached for the first time. -/
def isNew
    (automaton : Automaton)
    (reached : Positions)
    (step : Nat) :
    Bool :=
  step < automaton.steps.size && !reached.contains step

/-- The number of steps that have not been reached. -/
def unreached
    (automaton : Automaton)
    (reached : Positions) :
    Nat :=
  (List.range automaton.steps.size).countP fun step => !reached.contains step

/-- Fewer items pass a stricter test, if it fails one that passed before. -/
theorem countP_lt_of_imp
    {items : List Nat}
    {before after : Nat → Bool}
    {item : Nat}
    (member : item ∈ items)
    (fewer : ∀ other, after other = true → before other = true)
    (gone : before item = true ∧ after item = false) :
    items.countP after < items.countP before := by
  induction items with
  | nil => simp at member
  | cons head items inductionHypothesis =>
      have rest : items.countP after ≤ items.countP before :=
        List.countP_mono_left fun other _ => fewer other
      rcases List.mem_cons.mp member with rfl | member
      · simp only [List.countP_cons, gone.1, gone.2, ↓reduceIte]
        simp only [Bool.false_eq_true, ↓reduceIte]
        omega
      · have tail := inductionHypothesis member
        have here := fewer head
        simp only [List.countP_cons]
        split
        · next holds => simp only [here holds, ↓reduceIte]; omega
        · omega

/-- A new position leaves fewer that have not been reached, so that a search ends. -/
theorem unreached_cons_lt
    {automaton : Automaton}
    {reached : Positions}
    {step : Nat}
    (new : automaton.isNew reached step = true) :
    automaton.unreached (step :: reached) < automaton.unreached reached := by
  simp only [isNew, Bool.and_eq_true, decide_eq_true_eq] at new
  refine countP_lt_of_imp (List.mem_range.mpr new.1) ?_ ⟨new.2, by simp⟩
  intro other absent
  simp only [List.contains_cons, Bool.not_or, Bool.and_eq_true] at absent
  exact absent.2

/--
All steps that can be reached from some without taking a character, where the
places of the given kinds are met. They are added to those reached so far, of
which the last one comes first; the steps still to be looked at are in order.
-/
def reach
    (automaton : Automaton)
    (met : Place → Bool)
    (reached : Positions)
    (steps : Positions) :
    Positions :=
  match steps with
  | [] => reached
  | step :: others =>
      if _new : automaton.isNew reached step then
        match automaton.steps[step]? with
        | some (.fork first second) =>
            reach automaton met (step :: reached) (first :: second :: others)
        | some (.check place next) =>
            if met place then
              reach automaton met (step :: reached) (next :: others)
            else
              reach automaton met (step :: reached) others
        | _ => reach automaton met (step :: reached) others
      else
        reach automaton met reached others
termination_by (automaton.unreached reached, steps.length)
decreasing_by
  all_goals
    first
    | exact Prod.Lex.left _ _ (unreached_cons_lt _new)
    | exact Prod.Lex.right _ (Nat.lt_succ_self _)

/-- Whether a step is one to stay at: it takes a character, checks a place or accepts. -/
def isLasting
    (automaton : Automaton)
    (step : Nat) :
    Bool :=
  match automaton.steps[step]? with
  | some (.fork ..) => false
  | _ => true

/-- The positions that are reached from the given steps. -/
def positionsFrom
    (automaton : Automaton)
    (met : Place → Bool)
    (steps : Positions) :
    Positions :=
  (automaton.reach met [] steps).reverse.filter automaton.isLasting

/-- Whether a step accepts. -/
def accepts
    (automaton : Automaton)
    (step : Nat) :
    Bool :=
  automaton.steps[step]? == some .accept

/-- Whether a step checks a place that is only met because of what comes next. -/
def hasWaited
    (automaton : Automaton)
    (before after : Option Char)
    (step : Nat) :
    Bool :=
  match automaton.steps[step]? with
  | some (.check place _) => place.holds before after && !place.holdsBehind before
  | _ => false

/-- The positions at a place, once it is known what comes next. -/
def settle
    (automaton : Automaton)
    (before after : Option Char)
    (positions : Positions) :
    Positions :=
  if positions.any (automaton.hasWaited before after) then
    automaton.positionsFrom (Place.holds before after) positions
  else
    positions

/-- The step after a character, if the given one takes it. -/
def next?
    (automaton : Automaton)
    (character : Char)
    (step : Nat) :
    Option Nat :=
  match automaton.steps[step]? with
  | some (.take set next) => if set.contains character then some next else none
  | _ => none

/-- A character with neighbours like those of a place inside an encoded character. -/
def insideCharacter : Option Char := some '\x80'

/--
Whether the expression is found inside an encoded character of several bytes,
where it can only be nothing. Then it is not looked for any later.
-/
def isFoundInside
    (automaton : Automaton)
    (character : Char) :
    Bool :=
  0x80 ≤ character.toNat &&
    (automaton.settle insideCharacter insideCharacter
      (automaton.positionsFrom (Place.holdsBehind insideCharacter)
        [automaton.start])).any automaton.accepts

/-- The positions behind a character. -/
def advance
    (automaton : Automaton)
    (before : Option Char)
    (positions : Positions)
    (character : Char) :
    Positions :=
  let settled := automaton.settle before (some character) positions
  let preferred := settled.takeWhile (!automaton.accepts ·)
  let kept :=
    preferred.filter fun step =>
      !(step == automaton.later && automaton.isFoundInside character)
  automaton.positionsFrom (Place.holdsBehind (some character))
    (kept.filterMap (automaton.next? character))

/-- Whether a step accepts at the end of a text, from the given positions before it. -/
def acceptsFrom
    (automaton : Automaton)
    (before : Option Char)
    (positions : Positions) :
    List Char → Bool
  | [] => (automaton.settle before none positions).any automaton.accepts
  | character :: rest =>
      automaton.acceptsFrom (some character)
        (automaton.advance before positions character) rest

/-- Whether the automaton accepts at the end of a text. -/
def acceptsText
    (automaton : Automaton)
    (text : List Char) :
    Bool :=
  automaton.acceptsFrom none
    (automaton.positionsFrom (Place.holdsBehind none) [automaton.start]) text

end Automaton

end SpritePack.Pattern
