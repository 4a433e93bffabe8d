import SpritePack.Pattern

namespace SpritePack.Log

/-!
# Conditions on details

A directive may ask for a detail of an activity, and for a value of it. Truth
values and numbers are values of their own; any other text is a pattern for
values that are texts.
-/

/-- What the value of a detail must be. -/
inductive ValueCondition where
  /-- A truth value or a number, which no text is. -/
  | constant (text : String)
  | pattern (pattern : Pattern)
  deriving Repr, DecidableEq

namespace ValueCondition

/-- Whether a text is not empty and holds nothing but decimal digits. -/
def isDigits (text : List Char) : Bool :=
  text != [] && text.all Char.isDigit

/-- A text without the sign that it may start with. -/
def unsigned : List Char → List Char
  | '+' :: rest => rest
  | '-' :: rest => rest
  | text => text

/-- The words for values that are no proper numbers, in small letters. -/
def numberWords : List String := ["inf", "infinity", "nan"]

/-- Whether a text is a number with digits before or behind a point, if there is one. -/
def isDecimal (text : List Char) : Bool :=
  let whole := text.takeWhile (· != '.')
  match text.dropWhile (· != '.') with
  | [] => isDigits whole
  | _ :: fraction =>
      whole.all Char.isDigit && fraction.all Char.isDigit &&
        !(whole.isEmpty && fraction.isEmpty)

/-- Whether a text is a decimal number, which may be followed by a power of ten. -/
def isScaledDecimal (text : List Char) : Bool :=
  let isMark := fun character : Char => character == 'e' || character == 'E'
  let mantissa := text.takeWhile (!isMark ·)
  match text.dropWhile (!isMark ·) with
  | [] => isDecimal mantissa
  | _ :: exponent => isDecimal mantissa && isDigits (unsigned exponent)

/-- Whether a text is a number, which may have a sign. -/
def isNumber (text : List Char) : Bool :=
  let magnitude := unsigned text
  numberWords.contains (String.ofList (magnitude.map Char.toLower)) ||
    isScaledDecimal magnitude

/-- Whether a text is a truth value or a number. -/
def isConstant (text : String) : Bool :=
  text == "true" || text == "false" || isNumber text.toList

/-- The condition that a text spells. A text that is no constant must be a pattern. -/
def parse? (text : String) : Option ValueCondition :=
  if isConstant text then
    some (.constant text)
  else
    (Pattern.ofText? text).map .pattern

/-- Whether a text meets the condition. -/
def admits
    (condition : ValueCondition)
    (text : String) :
    Bool :=
  match condition with
  | .constant _ => false
  | .pattern wanted => wanted.agrees text

end ValueCondition

/-- A detail that a directive asks for. -/
structure FieldCondition where
  name : String
  value : Option ValueCondition
  deriving Repr, DecidableEq

namespace FieldCondition

/-- What follows the first equals sign, up to the second one, if there is any. -/
def valueText? (text : List Char) : Option String :=
  match text.dropWhile (· != '=') with
  | [] => none
  | _ :: value => some (String.ofList (value.takeWhile (· != '=')))

/-- The detail that a text asks for: a name, and behind an equals sign what its value must be. -/
def parse? (text : String) : Option FieldCondition :=
  let name := String.ofList (text.toList.takeWhile (· != '='))
  match valueText? text.toList with
  | none => some ⟨name, none⟩
  | some value =>
      (ValueCondition.parse? value).map fun condition => ⟨name, some condition⟩

end FieldCondition

end SpritePack.Log
