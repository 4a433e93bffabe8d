import SpritePack.Bytes
import SpritePack.Text.Hexadecimal
import SpritePack.Traversal

namespace SpritePack

/-!
# Colours

A colour has three channels of eight bits. The display keeps four bits of each,
in a word laid out as `0000rrrrggggbbbb` and stored low byte first.
-/

/-- A colour with eight bits in each channel. -/
structure Colour where
  red : UInt8
  green : UInt8
  blue : UInt8
  deriving Repr, DecidableEq

namespace Colour

/-- The display's word for a colour: the high four bits of each channel. -/
def toRgb12 (colour : Colour) : UInt16 :=
  ((colour.red >>> 4).toUInt16 <<< 8) |||
    ((colour.green >>> 4).toUInt16 <<< 4) |||
    (colour.blue >>> 4).toUInt16

/-- The colour of a display word, with the low four bits of each channel clear. -/
def ofRgb12 (word : UInt16) : Colour where
  red := ((word >>> 8) &&& 15).toUInt8 <<< 4
  green := ((word >>> 4) &&& 15).toUInt8 <<< 4
  blue := (word &&& 15).toUInt8 <<< 4

/-- A display word as stored: green and blue first, then red. -/
def wordBytes (word : UInt16) : Bytes :=
  [word.toUInt8, (word >>> 8).toUInt8]

/-- The two stored bytes of a colour. -/
def toBytes (colour : Colour) : Bytes :=
  wordBytes colour.toRgb12

/-- The colour that the display shows for a colour it has stored. -/
def reduced (colour : Colour) : Colour :=
  ofRgb12 colour.toRgb12

/-- A colour as six hexadecimal digits behind a number sign. -/
def hexCode (colour : Colour) : String :=
  String.ofList
    ('#' :: Hexadecimal.ofByte colour.red ++ Hexadecimal.ofByte colour.green ++
      Hexadecimal.ofByte colour.blue)

/-- The number with red as its highest byte and blue as its lowest. -/
def rank (colour : Colour) : Nat :=
  Bytes.bigEndian [colour.red, colour.green, colour.blue]

/-- Colours by red, then green, then blue. -/
def sort (colours : List Colour) : List Colour :=
  colours.mergeSort fun left right => left.rank ≤ right.rank

/-- How many different colours a list holds. -/
def distinctCount (colours : List Colour) : Nat :=
  colours.eraseDups.length

/-- The colour of three bytes. -/
def ofTriple? : Bytes → Option Colour
  | [red, green, blue] => some ⟨red, green, blue⟩
  | _ => none

/-- The three bytes of a colour. -/
def toTriple (colour : Colour) : Bytes :=
  [colour.red, colour.green, colour.blue]

/-- The colours of consecutive triples of bytes; one or two bytes left over are dropped. -/
def ofTriples (bytes : Bytes) : List Colour :=
  (Traversal.chunks 3 bytes).filterMap ofTriple?

/-- The triples of colours are read back. -/
theorem ofTriples_flatMap_toTriple
    (colours : List Colour) :
    ofTriples (colours.flatMap toTriple) = colours := by
  unfold ofTriples
  induction colours with
  | nil => simp
  | cons colour rest inductionHypothesis =>
      rw [List.flatMap_cons, Traversal.chunks_eq_cons (by decide) (by simp [toTriple])]
      simp [toTriple, ofTriple?] at inductionHypothesis ⊢
      exact inductionHypothesis

end Colour

end SpritePack
