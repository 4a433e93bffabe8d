import SpritePack.Text.CodePointSet

namespace SpritePack

/-!
# Blank characters

Spaces, tabs and line ends of all scripts.
-/

namespace Blank

/-- The blank characters. -/
def characters : CodePointSet := ⟨[
  (0x9, 0xD), (0x20, 0x20), (0x85, 0x85), (0xA0, 0xA0), (0x1680, 0x1680), (0x2000, 0x200A),
  (0x2028, 0x2029), (0x202F, 0x202F), (0x205F, 0x205F), (0x3000, 0x3000)
]⟩

/-- Whether a character is blank. -/
def isBlank (character : Char) : Bool :=
  characters.contains character

/-- A text without the blanks that it starts with. -/
def trimStart (text : List Char) : List Char :=
  text.dropWhile isBlank

/-- A text without the blanks that it ends with. -/
def trimEnd (text : List Char) : List Char :=
  (text.reverse.dropWhile isBlank).reverse

/-- A text without the blanks around it. -/
def trim (text : List Char) : List Char :=
  trimEnd (trimStart text)

end Blank

end SpritePack
