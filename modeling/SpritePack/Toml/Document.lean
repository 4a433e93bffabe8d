import SpritePack.Toml.Text

namespace SpritePack.Toml

/-!
# Settings files

A settings file is a list of lines, each empty but for a comment, or giving a
text to a key. Files that use more of the format, such as tables and numbers,
are none of these.
-/

/-- A key with its text. -/
structure Setting where
  key : String
  text : String
  deriving Repr, DecidableEq

/-- Whether a character may stand in a key without quotes. -/
def isBareKeyCharacter (character : Char) : Bool :=
  character.isAlphanum || character = '_' || character = '-'

/-- Read a key, with or without quotes. -/
def readKey? (text : List Char) : Option TextRead :=
  match text with
  | '\x22' :: rest => readBasic? [] rest
  | '\x27' :: rest => readLiteral? [] rest
  | _ =>
      match text.takeWhile isBareKeyCharacter with
      | [] => none
      | key => some ⟨String.ofList key, text.dropWhile isBareKeyCharacter⟩

/-- A key leaves no more of the text than there was. -/
theorem length_of_readKey?
    {text : List Char}
    {result : TextRead}
    (read : readKey? text = some result) :
    result.rest.length ≤ text.length := by
  unfold readKey? at read
  split at read
  next => exact Nat.le_succ_of_le (length_of_readBasic? read)
  next => exact Nat.le_succ_of_le (length_of_readLiteral? read)
  next =>
    split at read
    · simp at read
    · simp only [Option.some.injEq] at read
      rw [← read]
      exact length_dropWhile_le ..

/-- Read a key, an equals sign and a text. -/
def readSetting? (text : List Char) : Option (Setting × List Char) :=
  match readKey? text with
  | none => none
  | some key =>
      match skipBlanks key.rest with
      | '=' :: rest =>
          (readText? (skipBlanks rest)).map fun value =>
            (⟨key.text, value.text⟩, value.rest)
      | _ => none

theorem length_of_readSetting?
    {text rest : List Char}
    {setting : Setting}
    (read : readSetting? text = some (setting, rest)) :
    rest.length ≤ text.length := by
  unfold readSetting? at read
  split at read
  · simp at read
  next key keyRead =>
    have := length_of_readKey? keyRead
    have blanks := length_skipBlanks_le key.rest
    split at read
    next afterSign shape =>
      simp only [Option.map_eq_some_iff, Prod.mk.injEq] at read
      obtain ⟨value, valueRead, _, rfl⟩ := read
      have := length_of_readText? valueRead
      have := length_skipBlanks_le afterSign
      rw [shape, List.length_cons] at blanks
      omega
    next => simp at read

/-- Whether a line has nothing left that could be a setting. -/
def isLineOver : List Char → Bool
  | [] | '\n' :: _ | '\r' :: _ | '#' :: _ => true
  | _ => false

/-- Read the setting of a line, if it has one, and its comment, up to the line's end. -/
def readLine? (text : List Char) : Option (Option Setting × List Char) :=
  let start := skipBlanks text
  if isLineOver start then
    some (none, skipComment start)
  else
    (readSetting? start).map fun (setting, rest) =>
      (some setting, skipComment rest)

/-- A line leaves no more of the text than there was; its end is read apart. -/
theorem length_of_readLine?
    {text rest : List Char}
    {setting : Option Setting}
    (read : readLine? text = some (setting, rest)) :
    rest.length ≤ text.length := by
  have blanks := length_skipBlanks_le text
  unfold readLine? at read
  dsimp only at read
  split at read
  · simp only [Option.some.injEq, Prod.mk.injEq] at read
    rw [← read.2]
    exact Nat.le_trans (length_skipComment_le _) blanks
  · simp only [Option.map_eq_some_iff, Prod.mk.injEq, Prod.exists] at read
    obtain ⟨_, afterSetting, settingRead, _, rfl⟩ := read
    have := length_of_readSetting? settingRead
    have := length_skipComment_le afterSetting
    omega

/-- Read lines to the end of the text, given the settings so far in reverse. -/
def readLines?
    (found : List Setting)
    (text : List Char) :
    Option (List Setting) :=
  match _lineRead : readLine? text with
  | none => none
  | some (setting, []) => some (setting.toList ++ found).reverse
  | some (setting, rest) =>
      match _endRead : readLineEnd? rest with
      | none => none
      | some rest' => readLines? (setting.toList ++ found) rest'
termination_by text.length
decreasing_by
  have := length_of_readLine? _lineRead
  have := length_of_readLineEnd? _endRead
  omega

/-- The text without the mark that may stand at the start of a file. -/
def skipByteOrderMark : List Char → List Char
  | '\uFEFF' :: rest => rest
  | text => text

/-- The settings of a file in their order, if each key is given only once. -/
def settings? (file : String) : Option (List Setting) := do
  let settings ← readLines? [] (skipByteOrderMark file.toList)
  if (settings.map Setting.key).Nodup then
    some settings
  else
    none

end SpritePack.Toml
