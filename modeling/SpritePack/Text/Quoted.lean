import SpritePack.Text.Hexadecimal
import SpritePack.Text.Invisible
import SpritePack.Text.Utf8

namespace SpritePack

/-!
# Quoted byte strings

Names may hold any bytes, so where one must be read without doubt it is quoted:
characters stand as they are unless they have no shape of their own or would end
the quotation, and bytes that are not text stand as numbers.
-/

namespace Quoted

/-- The upper-case hexadecimal digits of a byte. -/
def byteDigits (byte : UInt8) : List Char :=
  (Hexadecimal.ofByte byte).map Char.toUpper

/-- A code point in hexadecimal, without leading zeros. -/
def codePoint (character : Char) : List Char :=
  ['\\', 'u', '\x7b'] ++ Nat.toDigits 16 character.toNat ++ ['\x7d']

/-- A character inside quotation marks. -/
def character (value : Char) : List Char :=
  if value = '\x00' then ['\\', '0']
  else if value = '\t' then ['\\', 't']
  else if value = '\r' then ['\\', 'r']
  else if value = '\n' then ['\\', 'n']
  else if value = '\\' ∨ value = '\x22' then ['\\', value]
  else if Invisible.isInvisible value then codePoint value
  else [value]

/-- A stretch of a byte string inside quotation marks. -/
def segment : Utf8.Segment → List Char
  | .character value => character value
  | .invalid bytes => bytes.flatMap fun byte => ['\\', 'x'] ++ byteDigits byte

/-- A byte string between quotation marks. -/
def ofBytes (bytes : Bytes) : String :=
  String.ofList <|
    ['\x22'] ++ (Utf8.segments bytes).flatMap segment ++ ['\x22']

end Quoted

end SpritePack
