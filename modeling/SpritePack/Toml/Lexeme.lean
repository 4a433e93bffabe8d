namespace SpritePack.Toml

/-!
# Lexemes of settings files

The smallest parts of a settings file: blanks, line ends, comments and escapes.
A reader takes characters from the start of a text and returns what is left.
-/

/-- Whether a character may stand between the parts of a line. -/
def isBlank (character : Char) : Bool :=
  character = ' ' || character = '\t'

/-- Whether a character may stand in a comment: no control character but the tab. -/
def isPlain (character : Char) : Bool :=
  character = '\t' ||
    (0x20 ≤ character.toNat && character.toNat ≤ 0x7E) ||
    0x80 ≤ character.toNat

/-- The text from its first character that is not blank. -/
def skipBlanks (text : List Char) : List Char :=
  text.dropWhile isBlank

theorem length_dropWhile_le
    (test : Char → Bool)
    (text : List Char) :
    (text.dropWhile test).length ≤ text.length :=
  (List.dropWhile_sublist test).length_le

theorem length_skipBlanks_le
    (text : List Char) :
    (skipBlanks text).length ≤ text.length :=
  length_dropWhile_le ..

/-- The text after the line end that it starts with. -/
def readLineEnd? : List Char → Option (List Char)
  | '\n' :: rest => some rest
  | '\r' :: '\n' :: rest => some rest
  | _ => none

/-- The end of a line takes a character at least, so that the lines of a document end. -/
theorem length_of_readLineEnd?
    {text rest : List Char}
    (read : readLineEnd? text = some rest) :
    rest.length < text.length := by
  unfold readLineEnd? at read
  split at read
  all_goals
    simp only [Option.some.injEq, reduceCtorEq] at read
  all_goals
    subst read
    simp only [List.length_cons]
    omega

/-- The text after the blanks and the comment that may end a line. -/
def skipComment (text : List Char) : List Char :=
  match skipBlanks text with
  | '#' :: rest => rest.dropWhile isPlain
  | rest => rest

theorem length_skipComment_le
    (text : List Char) :
    (skipComment text).length ≤ text.length := by
  have blanks := length_skipBlanks_le text
  unfold skipComment
  split
  next rest shape =>
    have := length_dropWhile_le isPlain rest
    rw [shape, List.length_cons] at blanks
    omega
  next => exact blanks

/-- The text after all the blanks and line ends that it starts with. -/
def skipSpace : List Char → List Char
  | ' ' :: rest => skipSpace rest
  | '\t' :: rest => skipSpace rest
  | '\n' :: rest => skipSpace rest
  | '\r' :: '\n' :: rest => skipSpace rest
  | text => text

/-- Skipping blanks, remarks and line ends leaves no more than there was. -/
theorem length_skipSpace_le
    (text : List Char) :
    (skipSpace text).length ≤ text.length := by
  fun_induction skipSpace text with
  | case1 rest inductionHypothesis => exact Nat.le_succ_of_le inductionHypothesis
  | case2 rest inductionHypothesis => exact Nat.le_succ_of_le inductionHypothesis
  | case3 rest inductionHypothesis => exact Nat.le_succ_of_le inductionHypothesis
  | case4 rest inductionHypothesis =>
      exact Nat.le_succ_of_le (Nat.le_succ_of_le inductionHypothesis)
  | case5 => exact Nat.le_refl _

/-- The value of a hexadecimal digit. -/
def hexValue? (character : Char) : Option Nat :=
  let code := character.toNat
  if '0'.toNat ≤ code ∧ code ≤ '9'.toNat then some (code - '0'.toNat)
  else if 'a'.toNat ≤ code ∧ code ≤ 'f'.toNat then some (code - 'a'.toNat + 10)
  else if 'A'.toNat ≤ code ∧ code ≤ 'F'.toNat then some (code - 'A'.toNat + 10)
  else none

/-- The number that hexadecimal digits spell. -/
def hexNumber? (digits : List Char) : Option Nat := do
  let values ← digits.mapM hexValue?
  some (values.foldl (fun number value => number * 16 + value) 0)

/-- Read the character whose code point is given by that many hexadecimal digits. -/
def readCodePoint?
    (digits : Nat)
    (text : List Char) :
    Option (Char × List Char) :=
  if (text.take digits).length = digits then
    match hexNumber? (text.take digits) with
    | none => none
    | some number =>
        if number.isValidChar then
          some (Char.ofNat number, text.drop digits)
        else
          none
  else
    none

theorem length_of_readCodePoint?
    {digits : Nat}
    {character : Char}
    {text rest : List Char}
    (read : readCodePoint? digits text = some (character, rest)) :
    rest.length ≤ text.length := by
  simp only [readCodePoint?, Option.ite_none_right_eq_some] at read
  obtain ⟨_, read⟩ := read
  split at read
  · simp at read
  · simp only [Option.ite_none_right_eq_some, Option.some.injEq,
      Prod.mk.injEq] at read
    rw [← read.2.2, List.length_drop]
    omega

/-- Read the rest of an escape, after its backslash. -/
def readEscape? : List Char → Option (Char × List Char)
  | 'b' :: rest => some ('\x08', rest)
  | 't' :: rest => some ('\t', rest)
  | 'n' :: rest => some ('\n', rest)
  | 'f' :: rest => some ('\x0C', rest)
  | 'r' :: rest => some ('\r', rest)
  | '\x22' :: rest => some ('\x22', rest)
  | '\\' :: rest => some ('\\', rest)
  | 'u' :: rest => readCodePoint? 4 rest
  | 'U' :: rest => readCodePoint? 8 rest
  | _ => none

/-- An escape takes a character at least, the one that names it. -/
theorem length_of_readEscape?
    {character : Char}
    {text rest : List Char}
    (read : readEscape? text = some (character, rest)) :
    rest.length < text.length := by
  unfold readEscape? at read
  split at read
  case h_8 => exact Nat.lt_succ_of_le (length_of_readCodePoint? read)
  case h_9 => exact Nat.lt_succ_of_le (length_of_readCodePoint? read)
  case h_10 => simp at read
  all_goals
    simp only [Option.some.injEq, Prod.mk.injEq] at read
    rw [← read.2]
    exact Nat.lt_succ_self _

end SpritePack.Toml
