import SpritePack.Toml.Lexeme

namespace SpritePack.Toml

/-!
# Texts in settings files

A text stands between double quotes, with escapes, or between single quotes, as
it is. Either quote may be written three times, and the text may then go on over
several lines.
-/

/-- A text and what follows it. -/
structure TextRead where
  text : String
  rest : List Char
  deriving Repr, DecidableEq

/-- The text whose characters are given in reverse, and what follows it. -/
def TextRead.ofReverse
    (characters rest : List Char) :
    TextRead where
  text := String.ofList characters.reverse
  rest := rest

/-- Read a text up to its double quote, given the characters so far in reverse. -/
def readBasic?
    (found : List Char) :
    List Char → Option TextRead
  | [] => none
  | '\x22' :: rest => some (.ofReverse found rest)
  | '\\' :: rest =>
      match _read : readEscape? rest with
      | none => none
      | some (character, rest') => readBasic? (character :: found) rest'
  | character :: rest =>
      if isPlain character then readBasic? (character :: found) rest else none
termination_by text => text.length
decreasing_by
  · have := length_of_readEscape? _read
    simp only [List.length_cons]
    omega
  · simp

/-- Read a text up to its single quote, given the characters so far in reverse. -/
def readLiteral?
    (found : List Char) :
    List Char → Option TextRead
  | [] => none
  | '\x27' :: rest => some (.ofReverse found rest)
  | character :: rest =>
      if isPlain character then readLiteral? (character :: found) rest else none

/--
The text after a backslash that joins lines: blanks and a line end, then all
space before the next character.
-/
def skipJoin? (text : List Char) : Option (List Char) :=
  (readLineEnd? (skipBlanks text)).map skipSpace

/-- The end of a line that is joined to the next leaves no more than there was. -/
theorem length_of_skipJoin?
    {text rest : List Char}
    (skip : skipJoin? text = some rest) :
    rest.length ≤ text.length := by
  simp only [skipJoin?, Option.map_eq_some_iff] at skip
  obtain ⟨afterLine, lineEnd, rfl⟩ := skip
  have := length_of_readLineEnd? lineEnd
  have := length_skipBlanks_le text
  have := length_skipSpace_le afterLine
  omega

/--
Read a text up to three double quotes, given the characters so far in reverse.
One or two further quotes just before belong to the text.
-/
def readBasicLines?
    (found : List Char) :
    List Char → Option TextRead
  | [] => none
  | '\x22' :: '\x22' :: '\x22' :: '\x22' :: '\x22' :: rest =>
      some (.ofReverse ('\x22' :: '\x22' :: found) rest)
  | '\x22' :: '\x22' :: '\x22' :: '\x22' :: rest =>
      some (.ofReverse ('\x22' :: found) rest)
  | '\x22' :: '\x22' :: '\x22' :: rest => some (.ofReverse found rest)
  | '\x22' :: rest => readBasicLines? ('\x22' :: found) rest
  | '\r' :: '\n' :: rest => readBasicLines? ('\n' :: found) rest
  | '\n' :: rest => readBasicLines? ('\n' :: found) rest
  | '\\' :: rest =>
      match _join : skipJoin? rest with
      | some rest' => readBasicLines? found rest'
      | none =>
          match _read : readEscape? rest with
          | none => none
          | some (character, rest') => readBasicLines? (character :: found) rest'
  | character :: rest =>
      if isPlain character then
        readBasicLines? (character :: found) rest
      else
        none
termination_by text => text.length
decreasing_by
  · simp
  · simp only [List.length_cons]; omega
  · simp
  · have := length_of_skipJoin? _join
    simp only [List.length_cons]
    omega
  · have := length_of_readEscape? _read
    simp only [List.length_cons]
    omega
  · simp

/--
Read a text up to three single quotes, given the characters so far in reverse.
One or two further quotes just before belong to the text.
-/
def readLiteralLines?
    (found : List Char) :
    List Char → Option TextRead
  | [] => none
  | '\x27' :: '\x27' :: '\x27' :: '\x27' :: '\x27' :: rest =>
      some (.ofReverse ('\x27' :: '\x27' :: found) rest)
  | '\x27' :: '\x27' :: '\x27' :: '\x27' :: rest =>
      some (.ofReverse ('\x27' :: found) rest)
  | '\x27' :: '\x27' :: '\x27' :: rest => some (.ofReverse found rest)
  | '\x27' :: rest => readLiteralLines? ('\x27' :: found) rest
  | '\r' :: '\n' :: rest => readLiteralLines? ('\n' :: found) rest
  | '\n' :: rest => readLiteralLines? ('\n' :: found) rest
  | character :: rest =>
      if isPlain character then
        readLiteralLines? (character :: found) rest
      else
        none

/-- The text without the line end that it may start with. -/
def skipFirstLineEnd (text : List Char) : List Char :=
  (readLineEnd? text).getD text

/-- Read a text in any of the four notations. -/
def readText? : List Char → Option TextRead
  | '\x22' :: '\x22' :: '\x22' :: rest =>
      readBasicLines? [] (skipFirstLineEnd rest)
  | '\x22' :: rest => readBasic? [] rest
  | '\x27' :: '\x27' :: '\x27' :: rest =>
      readLiteralLines? [] (skipFirstLineEnd rest)
  | '\x27' :: rest => readLiteral? [] rest
  | _ => none

/-- A text with escapes ends within what follows its quote, whatever was found before. -/
theorem length_of_readBasic?
    {found text : List Char}
    {result : TextRead}
    (read : readBasic? found text = some result) :
    result.rest.length ≤ text.length := by
  fun_induction readBasic? found text with
  | case1 => simp at read
  | case2 =>
      simp only [Option.some.injEq] at read
      rw [← read]
      exact Nat.le_succ _
  | case3 => simp at read
  | case4 found rest character rest' escape inductionHypothesis =>
      have := length_of_readEscape? escape
      have := inductionHypothesis read
      simp only [List.length_cons]
      omega
  | case5 found character rest _ _ _ inductionHypothesis =>
      exact Nat.le_succ_of_le (inductionHypothesis read)
  | case6 => simp at read

/-- A text without escapes ends there too. -/
theorem length_of_readLiteral?
    {found text : List Char}
    {result : TextRead}
    (read : readLiteral? found text = some result) :
    result.rest.length ≤ text.length := by
  fun_induction readLiteral? found text with
  | case1 => simp at read
  | case2 =>
      simp only [Option.some.injEq] at read
      rw [← read]
      exact Nat.le_succ _
  | case3 found character rest _ _ inductionHypothesis =>
      exact Nat.le_succ_of_le (inductionHypothesis read)
  | case4 => simp at read

theorem length_of_readBasicLines?
    {found text : List Char}
    {result : TextRead}
    (read : readBasicLines? found text = some result) :
    result.rest.length ≤ text.length := by
  fun_induction readBasicLines? found text
  all_goals try simp only [reduceCtorEq] at read
  case case2 | case3 | case4 =>
    simp only [Option.some.injEq] at read
    rw [← read]
    simp only [TextRead.ofReverse, List.length_cons]
    omega
  case case8 found rest rest' join inductionHypothesis =>
    have := length_of_skipJoin? join
    have := inductionHypothesis read
    simp only [List.length_cons]
    omega
  case case10 found rest _ character rest' escape inductionHypothesis =>
    have := length_of_readEscape? escape
    have := inductionHypothesis read
    simp only [List.length_cons]
    omega
  all_goals
    rename_i inductionHypothesis
    have := inductionHypothesis read
    simp only [List.length_cons]
    omega

theorem length_of_readLiteralLines?
    {found text : List Char}
    {result : TextRead}
    (read : readLiteralLines? found text = some result) :
    result.rest.length ≤ text.length := by
  fun_induction readLiteralLines? found text
  all_goals try simp only [reduceCtorEq] at read
  case case2 | case3 | case4 =>
    simp only [Option.some.injEq] at read
    rw [← read]
    simp only [TextRead.ofReverse, List.length_cons]
    omega
  all_goals
    rename_i inductionHypothesis
    have := inductionHypothesis read
    simp only [List.length_cons]
    omega

theorem length_skipFirstLineEnd_le
    (text : List Char) :
    (skipFirstLineEnd text).length ≤ text.length := by
  unfold skipFirstLineEnd
  cases read : readLineEnd? text with
  | none => exact Nat.le_refl _
  | some rest => exact Nat.le_of_lt (length_of_readLineEnd? read)

/-- A text of any of the four kinds leaves no more than there was. -/
theorem length_of_readText?
    {text : List Char}
    {result : TextRead}
    (read : readText? text = some result) :
    result.rest.length ≤ text.length := by
  unfold readText? at read
  split at read
  next rest =>
    have := length_of_readBasicLines? read
    have := length_skipFirstLineEnd_le rest
    simp only [List.length_cons]
    omega
  next => exact Nat.le_succ_of_le (length_of_readBasic? read)
  next rest =>
    have := length_of_readLiteralLines? read
    have := length_skipFirstLineEnd_le rest
    simp only [List.length_cons]
    omega
  next => exact Nat.le_succ_of_le (length_of_readLiteral? read)
  next => simp at read

end SpritePack.Toml
