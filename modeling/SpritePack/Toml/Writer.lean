import SpritePack.Text.Hexadecimal
import SpritePack.Toml.Document

namespace SpritePack.Toml

/-!
# Writing settings files

The written form of settings and of the lines around them, one line each.
-/

/-- A character inside double quotes. What may not stand there is written as a code point. -/
def escape (character : Char) : List Char :=
  if character = '\x22' ∨ character = '\\' then
    ['\\', character]
  else if isPlain character then
    [character]
  else
    ['\\', 'u', '0', '0'] ++ Hexadecimal.ofByte character.toNat.toUInt8

/-- A text in double quotes. -/
def quote (text : String) : List Char :=
  '\x22' :: (text.toList.flatMap escape ++ ['\x22'])

/-- A value that a line may give to a key. Only texts are settings. -/
inductive Value where
  | text (value : String)
  | integer (value : Int)
  | boolean (value : Bool)
  deriving Repr, DecidableEq

/-- The written form of a value. -/
def Value.write : Value → List Char
  | text value => quote value
  | integer (.ofNat value) => Nat.toDigits 10 value
  | integer (.negSucc value) => '-' :: Nat.toDigits 10 (value + 1)
  | boolean true => "true".toList
  | boolean false => "false".toList

/-- A line of a settings file. -/
inductive Line where
  | blank
  | comment (text : String)
  | entry (key : String) (value : Value)
  deriving Repr, DecidableEq

/-- The written form of a line, without its end. -/
def Line.write : Line → List Char
  | blank => []
  | comment text => '#' :: text.toList
  | entry key value => key.toList ++ " = ".toList ++ value.write

/-- The file of the given lines. -/
def writeLines (lines : List Line) : String :=
  String.ofList (lines.flatMap fun line => line.write ++ ['\n'])

end SpritePack.Toml
