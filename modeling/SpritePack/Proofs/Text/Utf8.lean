import Mathlib.Tactic.SplitIfs
import SpritePack.Text.Utf8

namespace SpritePack.Utf8

/-!
# Reading encoded text

A character's encoding is one segment, whatever follows it, so text is read back
from its bytes character by character. The bits of the code point are spread
over the bytes as the digits of a number, first the highest.
-/

/-- A byte in its range goes on with an encoding by six bits. -/
theorem continueSegment_ofNat
    {low high : Nat}
    (bits : Nat)
    (inRange : low ≤ bits % 64 + 128 ∧ bits % 64 + 128 ≤ high)
    (taken rest : Bytes)
    (before following : Nat) :
    continueSegment taken before (following + 1) low high
        (UInt8.ofNat (bits % 64 + 128) :: rest) =
      continueSegment (UInt8.ofNat (bits % 64 + 128) :: taken)
        (before * 64 + bits % 64) following 0x80 0xBF rest := by
  have value : (UInt8.ofNat (bits % 64 + 128)).toNat = bits % 64 + 128 := by
    rw [UInt8.toNat_ofNat']
    omega
  rw [continueSegment, value, if_pos inRange, Nat.add_sub_cancel]

/-- The last six bits of a code point, behind those above them. -/
theorem continueSegment_last
    {before code : Nat}
    (above : before = code / 64)
    (taken rest : Bytes) :
    continueSegment taken before 1 0x80 0xBF
        (UInt8.ofNat (code % 64 + 128) :: rest) =
      (.character (Char.ofNat code), rest) := by
  have whole : before * 64 + code % 64 = code := by
    omega
  rw [continueSegment_ofNat code (by omega), continueSegment, whole]

theorem ofByte?_one :
    ∀ code < 0x80,
      Lead.ofByte? (UInt8.ofNat code) = some ⟨code, 0, 0x80, 0xBF⟩ := by
  decide

theorem ofByte?_two :
    ∀ code < 0x20, 2 ≤ code →
      Lead.ofByte? (UInt8.ofNat (code + 192)) = some ⟨code, 1, 0x80, 0xBF⟩ := by
  decide

/-- The lead of three bytes, and the range that it leaves for the second one. -/
theorem ofByte?_three :
    ∀ code < 0x10,
      Lead.ofByte? (UInt8.ofNat (code + 224)) =
        some ⟨code, 2, if code = 0 then 0xA0 else 0x80,
          if code = 0xD then 0x9F else 0xBF⟩ := by
  decide

/-- The lead of four bytes, and the range that it leaves for the second one. -/
theorem ofByte?_four :
    ∀ code < 5,
      Lead.ofByte? (UInt8.ofNat (code + 240)) =
        some ⟨code, 3, if code = 0 then 0x90 else 0x80,
          if code = 4 then 0x8F else 0xBF⟩ := by
  decide

/-- The encoding of a character is a segment of its own. -/
theorem nextSegment_utf8EncodeChar
    (character : Char)
    (rest : Bytes) :
    ∃ first following,
      String.utf8EncodeChar character = first :: following ∧
        nextSegment first (following ++ rest) =
          (.character character, rest) := by
  have valid : character.toNat.isValidChar := character.valid
  have whole : Char.ofNat character.toNat = character :=
    Char.ofNat_toNat character
  rw [Nat.isValidChar] at valid
  generalize codeIs : character.toNat = code at valid whole
  have encoding := String.utf8EncodeChar.eq_1 character
  rw [show character.val.toNat = code from codeIs] at encoding
  rw [encoding]
  split_ifs with one two three
  · refine ⟨_, _, rfl, ?_⟩
    rw [nextSegment, ofByte?_one code (by omega)]
    dsimp only [List.nil_append]
    rw [continueSegment, whole]
  · refine ⟨_, _, rfl, ?_⟩
    rw [Nat.mod_eq_of_lt (show code / 64 < 32 by omega), nextSegment,
      ofByte?_two (code / 64) (by omega) (by omega)]
    dsimp only [List.cons_append, List.nil_append]
    rw [continueSegment_last rfl, whole]
  · refine ⟨_, _, rfl, ?_⟩
    rw [Nat.mod_eq_of_lt (show code / 4096 < 16 by omega), nextSegment,
      ofByte?_three (code / 4096) (by omega)]
    dsimp only [List.cons_append, List.nil_append]
    rw [continueSegment_ofNat (code / 64) (by split_ifs <;> omega),
      continueSegment_last (by omega), whole]
  · refine ⟨_, _, rfl, ?_⟩
    rw [Nat.mod_eq_of_lt (show code / 262144 < 8 by omega), nextSegment,
      ofByte?_four (code / 262144) (by omega)]
    dsimp only [List.cons_append, List.nil_append]
    rw [continueSegment_ofNat (code / 4096) (by split_ifs <;> omega),
      continueSegment_ofNat (code / 64) (by omega),
      continueSegment_last (by omega), whole]

/-- Encoded characters are segments one by one. -/
theorem segmentsFrom_encode
    (characters : List Char)
    (found : List Segment) :
    segmentsFrom found (characters.flatMap String.utf8EncodeChar) =
      found.reverse ++ characters.map .character := by
  induction characters generalizing found with
  | nil =>
      rw [List.flatMap_nil, segmentsFrom]
      exact (List.append_nil _).symm
  | cons character characters inductionHypothesis =>
      obtain ⟨first, following, encoding, segment⟩ :=
        nextSegment_utf8EncodeChar character
          (characters.flatMap String.utf8EncodeChar)
      rw [List.flatMap_cons, encoding, List.cons_append, segmentsFrom, segment,
        inductionHypothesis, List.reverse_cons, List.append_assoc]
      rfl

/-- Text is read back from its bytes. -/
theorem decode?_encode
    (text : String) :
    decode? (encode text) = some text := by
  have allCharacters (characters : List Char) :
      (characters.map Segment.character).mapM Segment.character? =
        some characters := by
    induction characters with
    | nil =>
        rfl
    | cons character characters inductionHypothesis =>
        rw [List.map_cons, List.mapM_cons, inductionHypothesis]
        rfl
  rw [decode?, segments, encode, segmentsFrom_encode, List.reverse_nil,
    List.nil_append, allCharacters, Option.map_some, String.ofList_toList]

/-- Text is shown as it was before it was encoded. -/
theorem lossy_encode
    (text : String) :
    lossy (encode text) = text := by
  rw [lossy, segments, encode, segmentsFrom_encode, List.reverse_nil,
    List.nil_append, List.map_map]
  have itself : Segment.shown ∘ Segment.character = id :=
    rfl
  rw [itself, List.map_id, String.ofList_toList]

end SpritePack.Utf8
