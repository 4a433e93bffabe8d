import Mathlib.Data.Nat.Digits.Defs
import SpritePack.Toml.Grammar

namespace SpritePack.Toml

/-!
# What is written is a form

Lines have one written form, with escapes only where they are needed. It is one
of their forms, so all that is shown of files by their forms holds of it.
-/

/-- A character that needs a code point has a small one. -/
theorem toNat_of_not_isPlain
    {character : Char}
    (special : isPlain character = false) :
    character.toNat < 32 ∨ character.toNat = 127 := by
  simp only [isPlain, Bool.or_eq_false_iff, Bool.and_eq_false_iff,
    decide_eq_false_iff_not] at special
  omega

/-- Four digits are enough for a small code point. -/
theorem hexNumber?_ofByte :
    ∀ code < 128,
      hexNumber? ('0' :: '0' :: Hexadecimal.ofByte code.toUInt8) = some code := by
  decide

/-- An escaped character is a form of it. -/
theorem spells_escape
    (character : Char) :
    Spells character (escape character) := by
  rw [escape]
  split
  next special =>
    rcases special with rfl | rfl
    · exact .short (by decide)
    · exact .short (by decide)
  next ordinary =>
    split
    next plain =>
      exact .itself plain (fun same => ordinary (.inl same))
        (fun same => ordinary (.inr same))
    next special =>
      have small := toNat_of_not_isPlain (Bool.eq_false_iff.mpr special)
      exact .four rfl (hexNumber?_ofByte character.toNat (by omega))

theorem spellsText_escape
    (text : List Char) :
    SpellsText text (text.flatMap escape) := by
  induction text with
  | nil =>
      exact .nil
  | cons character text inductionHypothesis =>
      exact .cons (spells_escape character) inductionHypothesis

theorem isUnsigned_toDigits
    (number : Nat) :
    isUnsigned (Nat.toDigits 10 number) = true := by
  have allDigits :
      ∀ digit ∈ Nat.toDigits 10 number, digit.isDigit = true :=
    fun digit member => Nat.isDigit_of_mem_toDigits (by decide) (by decide) member
  obtain ⟨first, rest, shape⟩ :=
    List.exists_cons_of_ne_nil (Nat.toDigits_ne_nil : Nat.toDigits 10 number ≠ [])
  rw [shape] at allDigits ⊢
  rw [isUnsigned, Bool.and_eq_true, List.all_eq_true]
  refine ⟨allDigits first List.mem_cons_self, ?_⟩
  intro digit member
  rw [Char.isAlphanum, allDigits digit (List.mem_cons_of_mem _ member),
    Bool.or_true, Bool.true_or]

/-- An integer needs no sign. -/
theorem isNumeral_of_isUnsigned
    {digits : List Char}
    (unsigned : isUnsigned digits = true) :
    isNumeral digits = true := by
  unfold isNumeral
  split
  next =>
    cases unsigned
  next =>
    cases unsigned
  next =>
    exact unsigned

/-- A line that can be written is written in one of its forms. -/
theorem writesLine_write
    {line : Line}
    (writable : line.isWritable = true) :
    WritesLine line.entry? line.write := by
  cases line with
  | blank =>
      exact .blank (List.forall_mem_nil _)
  | comment text =>
      exact .comment (List.forall_mem_nil _) (List.all_eq_true.mp writable)
  | entry key value =>
      cases value with
      | text value =>
          exact .text writable (spellsText_escape value.toList)
      | integer value =>
          cases value with
          | ofNat number =>
              exact
                .integer writable
                  (isNumeral_of_isUnsigned (isUnsigned_toDigits number))
          | negSucc number =>
              exact .integer writable (isUnsigned_toDigits (number + 1))
      | boolean value =>
          exact .boolean writable value

/-- The file of lines is a file of their entries. -/
theorem writes_writeLines
    {lines : List Line}
    (writable : ∀ line ∈ lines, line.isWritable = true) :
    Writes (lines.filterMap Line.entry?) (writeLines lines) := by
  rw [Writes, writeLines, String.toList_ofList]
  induction lines with
  | nil =>
      exact .nil
  | cons line lines inductionHypothesis =>
      have first := writesLine_write (writable line List.mem_cons_self)
      have rest :=
        inductionHypothesis fun other member =>
          writable other (List.mem_cons_of_mem _ member)
      have ends : ['\n'] ∈ lineEnds := List.mem_cons_self
      have joined := WritesLines.cons first ends rest
      rw [List.flatMap_cons, List.append_assoc]
      cases entry : line.entry? with
      | none =>
          rw [entry] at joined
          rw [List.filterMap_cons_none entry]
          exact joined
      | some given =>
          rw [entry] at joined
          rw [List.filterMap_cons_some entry]
          exact joined

end SpritePack.Toml
