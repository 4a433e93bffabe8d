import SpritePack.Bytes

namespace SpritePack

/-!
# Text in bytes

Text is kept in files and names as UTF-8. Bytes that are not UTF-8 fall into
runs, each the longest beginning of some character's encoding that the next
byte does not continue, or a single byte that starts no encoding. Shown as
text, each such run becomes one replacement character.
-/

namespace Utf8

/-- A stretch of a byte string: an encoded character, or bytes that encode none. -/
inductive Segment where
  | character (value : Char)
  | invalid (bytes : Bytes)
  deriving Repr, DecidableEq

/-- What the first byte of an encoding says about the bytes after it. -/
structure Lead where
  /-- The bits of the code point that the first byte holds. -/
  bits : Nat
  /-- The number of bytes that follow. -/
  following : Nat
  /-- The range of the byte after the first; later ones have the full range. -/
  low : Nat
  high : Nat
  deriving Repr, DecidableEq

/--
The lead that a byte is. The ranges of the second byte leave out encodings that
are longer than needed, surrogates, and numbers beyond the last code point.
-/
def Lead.ofByte? (byte : UInt8) : Option Lead :=
  let value := byte.toNat
  if value < 0x80 then some ⟨value, 0, 0x80, 0xBF⟩
  else if value < 0xC2 then none
  else if value < 0xE0 then some ⟨value - 0xC0, 1, 0x80, 0xBF⟩
  else if value = 0xE0 then some ⟨0, 2, 0xA0, 0xBF⟩
  else if value = 0xED then some ⟨0xD, 2, 0x80, 0x9F⟩
  else if value < 0xF0 then some ⟨value - 0xE0, 2, 0x80, 0xBF⟩
  else if value = 0xF0 then some ⟨0, 3, 0x90, 0xBF⟩
  else if value < 0xF4 then some ⟨value - 0xF0, 3, 0x80, 0xBF⟩
  else if value = 0xF4 then some ⟨4, 3, 0x80, 0x8F⟩
  else none

/--
Go on with an encoding that so far has the given bytes, in reverse, and bits.
-/
def continueSegment
    (taken : Bytes)
    (bits : Nat) :
    Nat → Nat → Nat → Bytes → Segment × Bytes
  | 0, _, _, rest => (.character (Char.ofNat bits), rest)
  | following + 1, low, high, rest =>
      match rest with
      | [] => (.invalid taken.reverse, [])
      | byte :: rest' =>
          if low ≤ byte.toNat ∧ byte.toNat ≤ high then
            continueSegment (byte :: taken) (bits * 64 + (byte.toNat - 0x80))
              following 0x80 0xBF rest'
          else
            (.invalid taken.reverse, rest)

/-- The segment that starts with the given byte, and what comes after it. -/
def nextSegment
    (first : UInt8)
    (rest : Bytes) :
    Segment × Bytes :=
  match Lead.ofByte? first with
  | none => (.invalid [first], rest)
  | some lead =>
      continueSegment [first] lead.bits lead.following lead.low lead.high rest

/-- A segment goes on with bytes of the rest, and gives none back. -/
theorem length_continueSegment_le
    (taken : Bytes)
    (bits following low high : Nat)
    (rest : Bytes) :
    (continueSegment taken bits following low high rest).2.length ≤
      rest.length := by
  induction following generalizing taken bits low high rest with
  | zero => simp [continueSegment]
  | succ following inductionHypothesis =>
      unfold continueSegment
      split
      · simp
      · split
        · exact Nat.le_succ_of_le (inductionHypothesis ..)
        · exact Nat.le_refl _

/-- Each segment takes its first byte, so that the segments of a text end. -/
theorem length_nextSegment_le
    (first : UInt8)
    (rest : Bytes) :
    (nextSegment first rest).2.length ≤ rest.length := by
  unfold nextSegment
  split
  · exact Nat.le_refl _
  · exact length_continueSegment_le ..

/-- The loop of `segments`, with the segments so far in reverse. -/
def segmentsFrom
    (found : List Segment) :
    Bytes → List Segment
  | [] => found.reverse
  | first :: rest =>
      segmentsFrom ((nextSegment first rest).1 :: found) (nextSegment first rest).2
termination_by bytes => bytes.length
decreasing_by exact Nat.lt_succ_of_le (length_nextSegment_le first rest)

/-- The segments of a byte string, in order. -/
def segments (bytes : Bytes) : List Segment :=
  segmentsFrom [] bytes

/-- The character that shows a segment. -/
def Segment.shown : Segment → Char
  | character value => value
  | invalid _ => '\uFFFD'

/-- The text of a byte string, with a replacement character for each invalid run. -/
def lossy (bytes : Bytes) : String :=
  String.ofList ((segments bytes).map Segment.shown)

/-- The character of a segment that is one. -/
def Segment.character? : Segment → Option Char
  | character value => some value
  | invalid _ => none

/-- The text that a byte string encodes, if it encodes one. -/
def decode? (bytes : Bytes) : Option String :=
  ((segments bytes).mapM Segment.character?).map String.ofList

/-- The bytes of a text. -/
def encode (text : String) : Bytes :=
  text.toList.flatMap String.utf8EncodeChar

end Utf8

end SpritePack
