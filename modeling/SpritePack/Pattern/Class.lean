import SpritePack.Pattern.Atom

namespace SpritePack.Pattern

/-!
# Classes

Brackets in a pattern hold characters, ranges, names of sets and further
brackets. Two ampersands, dashes or tildes between them combine what is before
them with what follows, from left to right.
-/

/-- A set in a pattern, and how deep things are nested in its description. -/
structure Class where
  set : CharacterSet
  depth : Nat
  deriving Repr, DecidableEq

namespace Class

/-- How two sets are combined. -/
inductive Operator where
  | intersection
  | difference
  | symmetricDifference
  deriving Repr, DecidableEq

/-- The operator that a character stands for when it is doubled. -/
def Operator.ofCharacter? : Char → Option Operator
  | '&' => some intersection
  | '-' => some difference
  | '~' => some symmetricDifference
  | _ => none

/-- The class with a set and nothing nested in it. -/
def simple (set : CharacterSet) : Class :=
  ⟨set, 0⟩

/-- The class with everything in the given classes, of which the latest comes first. -/
def unite : List Class → Class
  | [] => simple .empty
  | [item] => item
  | items => {
      set := items.foldl (fun rest item => .union item.set rest) .empty
      depth := items.foldl (fun depth item => max depth item.depth) 0 + 1
    }

/-- Combine two sets. -/
def Operator.apply
    (operator : Operator)
    (flags : Flags)
    (first second : Class) :
    Class where
  set :=
    match operator with
    | intersection =>
        .intersection (flags.foldCase first.set) (flags.foldCase second.set)
    | difference =>
        .difference (flags.foldCase first.set) (flags.foldCase second.set)
    | symmetricDifference =>
        .symmetricDifference (flags.foldCase first.set) (flags.foldCase second.set)
  depth := max first.depth second.depth + 1

/-- What has been read between a pair of brackets. -/
structure Bracket where
  negated : Bool
  /-- Whether only dashes have come so far. -/
  fresh : Bool := true
  /-- What is to be combined with the items, and how. -/
  left : Option (Class × Operator) := none
  /-- The items since the last operator, the latest first. -/
  items : List Class := []
  deriving Repr, DecidableEq

namespace Bracket

/-- Everything so far, where the operators are carried out. -/
def content
    (bracket : Bracket)
    (flags : Flags) :
    Class :=
  match bracket.left with
  | none => unite bracket.items
  | some (left, operator) => operator.apply flags left (unite bracket.items)

/-- Go on behind an operator. -/
def operate
    (bracket : Bracket)
    (flags : Flags)
    (operator : Operator) :
    Bracket where
  negated := bracket.negated
  fresh := false
  left := some (bracket.content flags, operator)

/-- Add an item. -/
def add
    (bracket : Bracket)
    (item : Class) :
    Bracket :=
  { bracket with fresh := false, items := item :: bracket.items }

/-- Add a dash at the start. -/
def addDash (bracket : Bracket) : Bracket :=
  { bracket with items := simple (.single '-') :: bracket.items }

/-- The class at the closing bracket. Complements are only taken among all scripts. -/
def close?
    (bracket : Bracket)
    (flags : Flags) :
    Option Class :=
  let content := bracket.content flags
  let set := flags.foldCase content.set
  if bracket.negated then
    if flags.allScripts then
      some ⟨.complement set, content.depth + 1⟩
    else
      none
  else
    some ⟨set, content.depth + 1⟩

end Bracket

/-- The set of a range, or of a single character. In ASCII no other characters are known. -/
def rangeSet?
    (flags : Flags)
    (first last : Char) :
    Option CharacterSet :=
  if (flags.allScripts ∨ last.toNat < 0x80) ∧ first.toNat ≤ last.toNat then
    some (.range first last)
  else
    none

/-- The set of an atom between brackets. -/
def atomSet?
    (flags : Flags) :
    Atom → Option CharacterSet
  | .literal character _ => rangeSet? flags character character
  | .shorthand set negated => Atom.shorthandSet? flags set negated
  | _ => none

/-- The set of a range between atoms. -/
def atomRange?
    (flags : Flags) :
    Atom → Atom → Option CharacterSet
  | .literal first _, .literal last _ => rangeSet? flags first last
  | _, _ => none

/-- Read an atom between brackets, where all but a backslash stand for themselves. -/
def readAtom
    (flags : Flags)
    (character : Char) :
    Reader Atom :=
  if character = '\\' then
    Atom.readEscaped flags
  else
    .found (.literal character false)

/--
What follows a dash behind blanks. A number sign is passed over, but not the
remark behind it.
-/
def afterDash
    (inRemark : Bool) :
    List Char → List Char
  | [] => []
  | character :: rest =>
      if Blank.isBlank character then
        afterDash inRemark rest
      else if character = '#' ∧ !inRemark then
        afterDash true rest
      else
        character :: rest

/-- Whether a dash comes next that makes a range: no closing bracket or other dash follows it. -/
def startsRange
    (flags : Flags) :
    List Char → Bool
  | '-' :: rest =>
      let following := (if flags.remarks then afterDash false rest else rest).head?
      following != some ']' && following != some '-'
  | _ => false

/-- Read a character, the range that it starts, or a shorthand. -/
def readItem
    (flags : Flags)
    (character : Char) :
    Reader Class := do
  let first ← readAtom flags character
  Reader.skip flags.remarks
  if ← Reader.test (startsRange flags) then
    let _ ← Reader.next
    Reader.skip flags.remarks
    let last ← readAtom flags (← Reader.next)
    return simple (← Reader.ofOption (atomRange? flags first last))
  else
    return simple (← Reader.ofOption (atomSet? flags first))

/-- Read the name of a set behind a bracket, with a caret before it for its complement. -/
def readName : Reader (CharacterSet × Bool) := do
  if ← Reader.takes [':'] then
    let negated ← Reader.takes ['^']
    let name ← Reader.before (· == ':')
    if ← Reader.takes [':', ']'] then
      let set ← Reader.ofOption (CharacterSet.named.lookup (String.ofList name))
      return (set, negated)
    else
      Reader.refuse
  else
    Reader.refuse

/-- The class of a set that has a name. -/
def named?
    (flags : Flags)
    (set : CharacterSet)
    (negated : Bool) :
    Option Class :=
  if negated then
    if flags.allScripts then some (simple (.complement set)) else none
  else
    some (simple set)

/-- The brackets that are open, the innermost one first and apart. -/
structure Brackets where
  inner : Bracket
  outer : List Bracket
  deriving Repr, DecidableEq

namespace Brackets

/-- Read the start of a bracket within those that are open, a caret if there is one. -/
def readOpening
    (flags : Flags)
    (outer : List Bracket) :
    Reader Brackets := do
  Reader.skip flags.remarks
  let negated ← Reader.takes ['^']
  return ⟨{ negated := negated }, outer⟩

/-- Add an item to the innermost bracket. -/
def add
    (brackets : Brackets)
    (item : Class) :
    Brackets :=
  { brackets with inner := brackets.inner.add item }

/-- Close the innermost bracket. The outermost one is the class. -/
def close?
    (brackets : Brackets)
    (flags : Flags) :
    Option (Brackets ⊕ Class) :=
  (brackets.inner.close? flags).map fun closed =>
    match brackets.outer with
    | [] => .inr closed
    | bracket :: outer => .inl ⟨bracket.add closed, outer⟩

/-- Read what starts with an opening bracket: the name of a set, or else another bracket. -/
def readInner
    (flags : Flags)
    (brackets : Brackets) :
    Reader Brackets := do
  match ← Reader.optionally readName with
  | some (set, negated) =>
      return brackets.add (← Reader.ofOption (named? flags set negated))
  | none => readOpening flags (brackets.inner :: brackets.outer)

/-- Read what starts with a character that may be an operator: that, or an item. -/
def readOperator
    (flags : Flags)
    (brackets : Brackets)
    (character : Char)
    (operator : Operator) :
    Reader Brackets := do
  if ← Reader.takes [character] then
    return { brackets with inner := brackets.inner.operate flags operator }
  else
    return brackets.add (← readItem flags character)

/-- Read what starts with a character. -/
def readPart
    (flags : Flags)
    (brackets : Brackets)
    (character : Char) :
    Reader (Brackets ⊕ Class) := do
  let bracket := brackets.inner
  if bracket.fresh ∧ character = '-' then
    return .inl { brackets with inner := bracket.addDash }
  else if bracket.fresh ∧ bracket.items = [] ∧ character = ']' then
    return .inl (brackets.add (simple (.single ']')))
  else if character = '[' then
    return .inl (← readInner flags brackets)
  else if character = ']' then
    Reader.ofOption (brackets.close? flags)
  else
    match Operator.ofCharacter? character with
    | some operator => return .inl (← readOperator flags brackets character operator)
    | none => return .inl (brackets.add (← readItem flags character))

end Brackets

/--
Read a class, behind its opening bracket. There is none that is to stand for both
cases of letters of all scripts.
-/
def read (flags : Flags) : Reader Class := do
  if flags.anyCase ∧ flags.allScripts then
    Reader.refuse
  else
    let opened ← Brackets.readOpening flags []
    Reader.loop (fun _ => flags.remarks) (Brackets.readPart flags) (fun _ => none) opened

end Class

end SpritePack.Pattern
