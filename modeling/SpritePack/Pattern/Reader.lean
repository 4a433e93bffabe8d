import SpritePack.Text.Blank

namespace SpritePack.Pattern

/-!
# Reading the text of a pattern

A reader takes something off the start of a text. What it leaves is never longer
than the text was, so that reading on comes to an end.
-/

/-- What has been read from a text, and what is left of it. -/
structure Found (α : Type) (text : List Char) where
  value : α
  rest : List Char
  length_le : rest.length ≤ text.length

/-- A way to read something from the start of a text, or refuse it. -/
def Reader (α : Type) : Type :=
  (text : List Char) → Option (Found α text)

namespace Reader

/-- Read nothing. -/
def found {α : Type} (value : α) : Reader α :=
  fun text => some ⟨value, text, Nat.le_refl _⟩

/-- Read something, and then what it asks for. -/
def andThen
    {α β : Type}
    (first : Reader α)
    (next : α → Reader β) :
    Reader β :=
  fun text =>
    match first text with
    | none => none
    | some earlier =>
        (next earlier.value earlier.rest).map fun later =>
          ⟨later.value, later.rest, Nat.le_trans later.length_le earlier.length_le⟩

instance : Monad Reader where
  pure := found
  bind := andThen

/-- Refuse the text. -/
def refuse {α : Type} : Reader α :=
  fun _ => none

/-- Go on with a value, or refuse the text if there is none. -/
def ofOption {α : Type} : Option α → Reader α
  | some value => found value
  | none => refuse

/-- Whether a test holds of what comes next, which stays where it is. -/
def test (holds : List Char → Bool) : Reader Bool :=
  fun text => some ⟨holds text, text, Nat.le_refl _⟩

/-- Read something if it comes next, and nothing otherwise. -/
def optionally {α : Type} (reader : Reader α) : Reader (Option α) :=
  fun text =>
    match reader text with
    | some found => some ⟨some found.value, found.rest, found.length_le⟩
    | none => some ⟨none, text, Nat.le_refl _⟩

/-- The next character. -/
def next : Reader Char
  | [] => none
  | character :: rest => some ⟨character, rest, Nat.le_succ _⟩

/-- Take the given characters if they come next, and say whether they did. -/
def takes (characters : List Char) : Reader Bool :=
  fun text =>
    if characters.isPrefixOf text then
      some ⟨true, text.drop characters.length, by simp⟩
    else
      some ⟨false, text, Nat.le_refl _⟩

/-- The characters before the first of the given kind. -/
def before (isEnd : Char → Bool) : Reader (List Char) :=
  fun text =>
    some {
      value := text.takeWhile (!isEnd ·)
      rest := text.dropWhile (!isEnd ·)
      length_le := (List.dropWhile_sublist _).length_le
    }

/--
A text without the blanks and remarks that it starts with. A remark goes from a
number sign to the end of the line.
-/
def afterRemarks
    (inRemark : Bool) :
    List Char → List Char
  | [] => []
  | character :: rest =>
      if inRemark then
        afterRemarks (character != '\n') rest
      else if Blank.isBlank character then
        afterRemarks false rest
      else if character = '#' then
        afterRemarks true rest
      else
        character :: rest

theorem length_afterRemarks_le
    (inRemark : Bool)
    (text : List Char) :
    (afterRemarks inRemark text).length ≤ text.length := by
  induction text generalizing inRemark with
  | nil => simp [afterRemarks]
  | cons character rest inductionHypothesis =>
      unfold afterRemarks
      split
      · exact Nat.le_succ_of_le (inductionHypothesis _)
      · split
        · exact Nat.le_succ_of_le (inductionHypothesis _)
        · split
          · exact Nat.le_succ_of_le (inductionHypothesis _)
          · exact Nat.le_refl _

/-- A text without blanks and remarks at its start, if the pattern may hold any. -/
def skipped
    (remarks : Bool)
    (text : List Char) :
    List Char :=
  if remarks then afterRemarks false text else text

/-- Skipping leaves no more of the text than there was. -/
theorem length_skipped_le
    (remarks : Bool)
    (text : List Char) :
    (skipped remarks text).length ≤ text.length := by
  unfold skipped
  split
  · exact length_afterRemarks_le ..
  · exact Nat.le_refl _

/-- Pass over blanks and remarks, if the pattern may hold any. -/
def skip (remarks : Bool) : Reader Unit :=
  fun text => some ⟨(), skipped remarks text, length_skipped_le ..⟩

/--
Read one thing after the other, each from its first character, until one of them
is the last or the text ends.
-/
def loop
    {σ α : Type}
    (remarks : σ → Bool)
    (step : σ → Char → Reader (σ ⊕ α))
    (atEnd : σ → Option α)
    (state : σ)
    (text : List Char) :
    Option (Found α text) :=
  match starts : skipped (remarks state) text with
  | [] => (atEnd state).map fun value => ⟨value, [], Nat.zero_le _⟩
  | character :: rest =>
      have shorter : rest.length < text.length := by
        have := length_skipped_le (remarks state) text
        simp only [starts, List.length_cons] at this
        omega
      match step state character rest with
      | none => none
      | some ⟨.inr value, rest', length_le⟩ =>
          some ⟨value, rest', by omega⟩
      | some ⟨.inl state', rest', length_le⟩ =>
          (loop remarks step atEnd state' rest').map fun later =>
            ⟨later.value, later.rest, by have := later.length_le; omega⟩
termination_by text.length

end Reader

end SpritePack.Pattern
