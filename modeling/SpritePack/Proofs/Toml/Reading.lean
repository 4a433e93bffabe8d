import SpritePack.Toml.Grammar

namespace SpritePack.Toml

/-!
# Reading the forms of a settings file

Whatever form a text, a line or a file has been given, reading it finds what it
is a form of.  The induction over a text goes character by character, that over
a file line by line; an entry without a text ends the reading.
-/

section Texts

variable
  {character : Char}
  {form : List Char}

/-- What stands behind a backslash is read as the character that it is short for. -/
theorem readEscape?_short
    {letter : Char}
    (known : (letter, character) ∈ shortEscapes)
    (rest : List Char) :
    readEscape? (letter :: rest) = some (character, rest) := by
  simp only [shortEscapes, List.mem_cons, List.not_mem_nil, or_false,
    Prod.mk.injEq] at known
  rcases known with
    ⟨rfl, rfl⟩ | ⟨rfl, rfl⟩ | ⟨rfl, rfl⟩ | ⟨rfl, rfl⟩ | ⟨rfl, rfl⟩ |
      ⟨rfl, rfl⟩ | ⟨rfl, rfl⟩ <;>
    rfl

/-- The digits of a code point are read as its character, whatever follows them. -/
theorem readCodePoint?_append
    {digits : List Char}
    {count : Nat}
    (length_eq : digits.length = count)
    (number : hexNumber? digits = some character.toNat)
    (rest : List Char) :
    readCodePoint? count (digits ++ rest) = some (character, rest) := by
  have valid : character.toNat.isValidChar := character.valid
  rw [readCodePoint?, List.take_left' length_eq, List.drop_left' length_eq,
    if_pos length_eq, number]
  dsimp only
  rw [if_pos valid, Char.ofNat_toNat]

theorem readBasic?_of_readEscape?
    {found text rest : List Char}
    (read : readEscape? text = some (character, rest)) :
    readBasic? found ('\\' :: text) = readBasic? (character :: found) rest := by
  rw [readBasic?]
  split
  next unread =>
    rw [read] at unread
    cases unread
  next reread =>
    rw [read] at reread
    cases reread
    rfl

/-- Any form of a character is read as that character. -/
theorem readBasic?_of_spells
    (spells : Spells character form)
    (found rest : List Char) :
    readBasic? found (form ++ rest) = readBasic? (character :: found) rest := by
  cases spells with
  | itself plain notQuote notBackslash =>
      simp [readBasic?, plain]
  | short known =>
      exact readBasic?_of_readEscape? (readEscape?_short known rest)
  | four length_eq number =>
      exact
        readBasic?_of_readEscape? (readCodePoint?_append length_eq number rest)
  | eight length_eq number =>
      exact
        readBasic?_of_readEscape? (readCodePoint?_append length_eq number rest)

/-- Any form of a text is read as that text, up to the quote behind it. -/
theorem readBasic?_of_spellsText
    {text : List Char}
    (spells : SpellsText text form)
    (found rest : List Char) :
    readBasic? found (form ++ '\x22' :: rest) =
      some (.ofReverse (text.reverse ++ found) rest) := by
  induction spells generalizing found with
  | nil =>
      rw [List.nil_append, readBasic?]
      rfl
  | cons first _ inductionHypothesis =>
      rw [List.append_assoc, readBasic?_of_spells first, inductionHypothesis,
        List.reverse_cons, List.append_assoc]
      rfl

/-- No form of a character starts with the quote that ends a text. -/
theorem Spells.head_ne_quote
    (spells : Spells character form) :
    ∃ first others, form = first :: others ∧ first ≠ '\x22' := by
  cases spells with
  | itself _ notQuote _ =>
      exact ⟨_, _, rfl, notQuote⟩
  | short | four | eight =>
      exact ⟨_, _, rfl, by decide⟩

/-- Three quotes do not stand at the start of a text, unless one follows an empty text. -/
theorem SpellsText.not_threeQuotes
    {text rest others : List Char}
    (spells : SpellsText text form)
    (noQuote : rest.head? ≠ some '\x22') :
    form ++ '\x22' :: rest ≠ '\x22' :: '\x22' :: others := by
  intro same
  cases spells with
  | nil =>
      cases same
      exact noQuote rfl
  | cons first _ =>
      obtain ⟨start, remaining, rfl, notQuote⟩ := first.head_ne_quote
      exact notQuote (List.cons.inj same).1

/-- A text in double quotes is read, whatever its form. -/
theorem readText?_of_spellsText
    {text rest : List Char}
    (spells : SpellsText text form)
    (noQuote : rest.head? ≠ some '\x22') :
    readText? ('\x22' :: (form ++ '\x22' :: rest)) =
      some ⟨String.ofList text, rest⟩ := by
  have read := readBasic?_of_spellsText spells [] rest
  rw [List.append_nil, TextRead.ofReverse, List.reverse_reverse] at read
  rw [← read]
  unfold readText?
  split
  next others threeQuotes =>
    exact
      (spells.not_threeQuotes noQuote (List.cons.inj threeQuotes).2).elim
  next others _ oneQuote =>
    rw [(List.cons.inj oneQuote).2]
  next others singleQuotes =>
    cases singleQuotes
  next others _ singleQuote =>
    cases singleQuote
  next notDouble _ _ =>
    exact (notDouble _ rfl).elim

end Texts

section Lines

/-- That nothing of a line is left: what follows it is a line end, or nothing. -/
def AtLineEnd : List Char → Prop
  | [] => True
  | '\n' :: _ => True
  | '\r' :: '\n' :: _ => True
  | _ => False

theorem eq_of_mem_lineEnds
    {ending : List Char}
    (ends : ending ∈ lineEnds) :
    ending = ['\n'] ∨ ending = ['\r', '\n'] := by
  simpa only [lineEnds, List.mem_cons, List.not_mem_nil, or_false] using ends

theorem atLineEnd_append
    {ending : List Char}
    (ends : ending ∈ lineEnds)
    (rest : List Char) :
    AtLineEnd (ending ++ rest) := by
  rcases eq_of_mem_lineEnds ends with rfl | rfl
  · trivial
  · trivial

/-- A line end is skipped as such. -/
theorem readLineEnd?_append
    {ending : List Char}
    (ends : ending ∈ lineEnds)
    (rest : List Char) :
    readLineEnd? (ending ++ rest) = some rest := by
  rcases eq_of_mem_lineEnds ends with rfl | rfl
  · rfl
  · rfl

variable {rest : List Char}

theorem AtLineEnd.cases
    (atEnd : AtLineEnd rest) :
    rest = [] ∨ ∃ first others, rest = first :: others ∧
      (first = '\n' ∨ first = '\r') := by
  unfold AtLineEnd at atEnd
  split at atEnd
  · exact .inl rfl
  · exact .inr ⟨_, _, rfl, .inl rfl⟩
  · exact .inr ⟨_, _, rfl, .inr rfl⟩
  · exact atEnd.elim

/-- A test that fails at both ends of a line stops there. -/
theorem AtLineEnd.dropWhile_append
    (atEnd : AtLineEnd rest)
    {test : Char → Bool}
    (stops : test '\n' = false ∧ test '\r' = false)
    {skipped : List Char}
    (passes : ∀ character ∈ skipped, test character = true) :
    (skipped ++ rest).dropWhile test = rest := by
  rw [List.dropWhile_append_of_pos passes]
  rcases atEnd.cases with rfl | ⟨first, others, rfl, rfl | rfl⟩
  · rfl
  · rw [List.dropWhile_cons, stops.1]
    rfl
  · rw [List.dropWhile_cons, stops.2]
    rfl

theorem AtLineEnd.isLineOver
    (atEnd : AtLineEnd rest) :
    Toml.isLineOver rest = true := by
  rcases atEnd.cases with rfl | ⟨first, others, rfl, rfl | rfl⟩ <;> rfl

theorem AtLineEnd.skipBlanks
    (atEnd : AtLineEnd rest) :
    Toml.skipBlanks rest = rest := by
  rcases atEnd.cases with rfl | ⟨first, others, rfl, rfl | rfl⟩ <;> rfl

theorem AtLineEnd.skipComment
    (atEnd : AtLineEnd rest) :
    Toml.skipComment rest = rest := by
  rw [Toml.skipComment, atEnd.skipBlanks]
  rcases atEnd.cases with rfl | ⟨first, others, rfl, rfl | rfl⟩ <;> rfl

theorem AtLineEnd.head?_ne_quote
    (atEnd : AtLineEnd rest) :
    rest.head? ≠ some '\x22' := by
  rcases atEnd.cases with rfl | ⟨first, others, rfl, rfl | rfl⟩ <;> simp

end Lines

section Entries

theorem isBlank_eq_false_of_isBareKeyCharacter
    {character : Char}
    (bare : isBareKeyCharacter character = true) :
    isBlank character = false := by
  rw [isBlank, Bool.or_eq_false_iff, decide_eq_false_iff_not,
    decide_eq_false_iff_not]
  constructor
  · rintro rfl
    exact absurd bare (by decide)
  · rintro rfl
    exact absurd bare (by decide)

/-- A line that starts with a key is not over. -/
theorem isLineOver_eq_false_of_isBareKeyCharacter
    {character : Char}
    (bare : isBareKeyCharacter character = true)
    (rest : List Char) :
    isLineOver (character :: rest) = false := by
  unfold isLineOver
  split
  next empty =>
    cases empty
  next lineEnd =>
    rw [(List.cons.inj lineEnd).1] at bare
    exact absurd bare (by decide)
  next lineEnd =>
    rw [(List.cons.inj lineEnd).1] at bare
    exact absurd bare (by decide)
  next sign =>
    rw [(List.cons.inj sign).1] at bare
    exact absurd bare (by decide)
  next =>
    rfl

variable
  {key : String}
  (bare : isBareKey key = true)

include bare

theorem bareKey_spec :
    (∃ first others, key.toList = first :: others) ∧
      ∀ character ∈ key.toList, isBareKeyCharacter character = true := by
  rw [isBareKey, Bool.and_eq_true, Bool.not_eq_true', List.all_eq_true] at bare
  refine ⟨List.exists_cons_of_ne_nil ?_, bare.2⟩
  intro empty
  have noKey : key = "" := String.toList_eq_nil_iff.mp empty
  rw [noKey] at bare
  exact absurd bare.1 (by decide)

/-- A key without quotes is read up to the first character that cannot stand in one. -/
theorem readKey?_append
    {next : Char}
    (stops : isBareKeyCharacter next = false)
    (rest : List Char) :
    readKey? (key.toList ++ next :: rest) = some ⟨key, next :: rest⟩ := by
  obtain ⟨⟨first, others, shape⟩, allBare⟩ := bareKey_spec bare
  have taken :
      (key.toList ++ next :: rest).takeWhile isBareKeyCharacter =
        key.toList := by
    rw [List.takeWhile_append_of_pos allBare, List.takeWhile_cons, stops]
    exact List.append_nil _
  have left :
      (key.toList ++ next :: rest).dropWhile isBareKeyCharacter =
        next :: rest := by
    rw [List.dropWhile_append_of_pos allBare, List.dropWhile_cons, stops]
    rfl
  have firstBare := allBare first (shape ▸ List.mem_cons_self)
  unfold readKey?
  split
  next quoted =>
    rw [shape] at quoted
    rw [(List.cons.inj quoted).1] at firstBare
    exact absurd firstBare (by decide)
  next quoted =>
    rw [shape] at quoted
    rw [(List.cons.inj quoted).1] at firstBare
    exact absurd firstBare (by decide)
  next =>
    rw [taken, left, shape]
    dsimp only
    rw [← shape, String.ofList_toList]

/-- Behind a key and an equals sign, a text is what decides. -/
theorem readSetting?_append
    (form : List Char)
    (visible : skipBlanks form = form) :
    readSetting? (key.toList ++ " = ".toList ++ form) =
      (readText? form).map fun value => (⟨key, value.text⟩, value.rest) := by
  have keyRead :=
    readKey?_append bare (show isBareKeyCharacter ' ' = false by decide)
      ('=' :: ' ' :: form)
  have spread :
      key.toList ++ " = ".toList ++ form =
        key.toList ++ ' ' :: '=' :: ' ' :: form := by
    rw [List.append_assoc]
    rfl
  have beforeSign : skipBlanks (' ' :: '=' :: ' ' :: form) = '=' :: ' ' :: form :=
    rfl
  have behindSign : skipBlanks (' ' :: form) = form :=
    visible
  rw [spread, readSetting?, keyRead]
  simp only [beforeSign, behindSign]

/-- A line with an entry is read by its key and what stands behind the sign. -/
theorem readLine?_append
    (form : List Char)
    (visible : skipBlanks form = form) :
    readLine? (key.toList ++ " = ".toList ++ form) =
      (readText? form).map fun value =>
        (some ⟨key, value.text⟩, skipComment value.rest) := by
  obtain ⟨⟨first, others, shape⟩, allBare⟩ := bareKey_spec bare
  have firstBare := allBare first (shape ▸ List.mem_cons_self)
  have starts :
      key.toList ++ " = ".toList ++ form =
        first :: (others ++ " = ".toList ++ form) := by
    rw [shape]
    rfl
  have noBlank :
      skipBlanks (key.toList ++ " = ".toList ++ form) =
        key.toList ++ " = ".toList ++ form := by
    rw [starts, skipBlanks, List.dropWhile_cons,
      isBlank_eq_false_of_isBareKeyCharacter firstBare]
    rfl
  have notOver :
      isLineOver (key.toList ++ " = ".toList ++ form) = false := by
    rw [starts]
    exact isLineOver_eq_false_of_isBareKeyCharacter firstBare _
  rw [readLine?, noBlank]
  dsimp only
  rw [notOver, readSetting?_append bare form visible, Option.map_map]
  rfl

end Entries

section Values

/-- What neither starts with a quote nor with a blank gives no text. -/
def StartsNoText (form : List Char) : Prop :=
  ∃ first others, form = first :: others ∧
    first ≠ '\x22' ∧ first ≠ '\x27' ∧ isBlank first = false

variable {form : List Char}

theorem startsNoText_of_isUnsigned
    (unsigned : isUnsigned form = true) :
    StartsNoText form := by
  cases form with
  | nil =>
      cases unsigned
  | cons first rest =>
      have digit := (Bool.and_eq_true_iff.mp unsigned).1
      refine ⟨first, rest, rfl, ?_, ?_, ?_⟩
      · rintro rfl
        exact absurd digit (by decide)
      · rintro rfl
        exact absurd digit (by decide)
      · apply isBlank_eq_false_of_isBareKeyCharacter
        rw [isBareKeyCharacter, Char.isAlphanum, digit, Bool.or_true,
          Bool.true_or, Bool.true_or]

theorem startsNoText_of_isNumeral
    (numeral : isNumeral form = true) :
    StartsNoText form := by
  unfold isNumeral at numeral
  split at numeral
  next =>
    exact ⟨_, _, rfl, by decide, by decide, by decide⟩
  next =>
    exact ⟨_, _, rfl, by decide, by decide, by decide⟩
  next =>
    exact startsNoText_of_isUnsigned numeral

theorem startsNoText_write_boolean
    (value : Bool) :
    StartsNoText (Value.boolean value).write := by
  cases value with
  | false =>
      exact ⟨'f', "alse".toList, rfl, by decide, by decide, by decide⟩
  | true =>
      exact ⟨'t', "rue".toList, rfl, by decide, by decide, by decide⟩

theorem StartsNoText.append
    (starts : StartsNoText form)
    (rest : List Char) :
    StartsNoText (form ++ rest) := by
  obtain ⟨first, others, rfl, notText⟩ := starts
  exact ⟨first, others ++ rest, rfl, notText⟩

theorem StartsNoText.skipBlanks_eq
    (starts : StartsNoText form) :
    skipBlanks form = form := by
  obtain ⟨first, others, rfl, _, _, notBlank⟩ := starts
  rw [skipBlanks, List.dropWhile_cons, notBlank]
  rfl

theorem StartsNoText.readText?_eq_none
    (starts : StartsNoText form) :
    readText? form = none := by
  obtain ⟨first, others, rfl, notDouble, notSingle, _⟩ := starts
  unfold readText?
  split
  next quoted =>
    exact (notDouble (List.cons.inj quoted).1).elim
  next quoted =>
    exact (notDouble (List.cons.inj quoted).1).elim
  next quoted =>
    exact (notSingle (List.cons.inj quoted).1).elim
  next quoted =>
    exact (notSingle (List.cons.inj quoted).1).elim
  next =>
    rfl

end Values

section Files

/-- The entry that gives a setting. -/
def Setting.entry (setting : Setting) : Entry :=
  (setting.key, some setting.text)

/-- The setting of an entry, if it gives a text. -/
def Entry.setting? (entry : Entry) : Option Setting :=
  entry.2.map fun text => ⟨entry.1, text⟩

/-- The settings of entries, if all of them give texts. -/
def Entry.settings? (entries : List Entry) : Option (List Setting) :=
  entries.mapM Entry.setting?

/-- What the line of an entry is read as: nothing at all if the entry gives no text. -/
def Entry.read? : Option Entry → Option (Option Setting)
  | none => some none
  | some entry => entry.setting?.map some

/-- A line is read as the entry that it is a form of, up to its end. -/
theorem readLine?_of_writesLine
    {entry : Option Entry}
    {form rest : List Char}
    (line : WritesLine entry form)
    (atEnd : AtLineEnd rest) :
    readLine? (form ++ rest) =
      (Entry.read? entry).map fun setting => (setting, rest) := by
  cases line with
  | blank allBlank =>
      have skipped : skipBlanks (form ++ rest) = rest :=
        atEnd.dropWhile_append (by decide) allBlank
      rw [readLine?, skipped]
      dsimp only
      rw [if_pos atEnd.isLineOver, atEnd.skipComment]
      rfl
  | @comment blanks remark allBlank allPlain =>
      have skipped :
          skipBlanks (blanks ++ '#' :: remark ++ rest) =
            '#' :: (remark ++ rest) := by
        rw [List.append_assoc, skipBlanks,
          List.dropWhile_append_of_pos allBlank]
        rfl
      have remarkSkipped :
          skipComment ('#' :: (remark ++ rest)) = rest :=
        atEnd.dropWhile_append (by decide) allPlain
      have noSetting : isLineOver ('#' :: (remark ++ rest)) = true :=
        rfl
      rw [readLine?, skipped]
      dsimp only
      rw [if_pos noSetting, remarkSkipped]
      rfl
  | @text key value form bare spelled =>
      have regrouped :
          key.toList ++ " = ".toList ++ '\x22' :: (form ++ ['\x22']) ++ rest =
            key.toList ++ " = ".toList ++
              '\x22' :: (form ++ '\x22' :: rest) := by
        simp only [List.append_assoc, List.cons_append, List.nil_append]
      rw [regrouped, readLine?_append bare _ rfl,
        readText?_of_spellsText spelled atEnd.head?_ne_quote, Option.map_some,
        atEnd.skipComment, String.ofList_toList]
      rfl
  | integer bare numeral =>
      have starts := (startsNoText_of_isNumeral numeral).append rest
      rw [List.append_assoc, readLine?_append bare _ starts.skipBlanks_eq,
        starts.readText?_eq_none]
      rfl
  | boolean bare value =>
      have starts := (startsNoText_write_boolean value).append rest
      rw [List.append_assoc, readLine?_append bare _ starts.skipBlanks_eq,
        starts.readText?_eq_none]
      rfl

section Steps

variable
  {text rest : List Char}
  {setting : Option Setting}

theorem readLines?_of_readLine?_none
    (unread : readLine? text = none)
    (found : List Setting) :
    readLines? found text = none := by
  rw [readLines?]
  split
  next =>
    rfl
  next read =>
    rw [unread] at read
    cases read
  next read =>
    rw [unread] at read
    cases read

theorem readLines?_of_readLine?_last
    (lastRead : readLine? text = some (setting, []))
    (found : List Setting) :
    readLines? found text = some (setting.toList ++ found).reverse := by
  rw [readLines?]
  split
  next read =>
    rw [lastRead] at read
    cases read
  next read =>
    rw [lastRead] at read
    cases read
    rfl
  next more read =>
    rw [lastRead] at read
    cases read
    exact (more rfl).elim

/-- A line and its end are one step: the setting is found, and reading goes on. -/
theorem readLines?_of_readLine?
    {rest' : List Char}
    (lineRead : readLine? text = some (setting, rest))
    (endRead : readLineEnd? rest = some rest')
    (found : List Setting) :
    readLines? found text = readLines? (setting.toList ++ found) rest' := by
  rw [readLines?]
  split
  next read =>
    rw [lineRead] at read
    cases read
  next read =>
    rw [lineRead] at read
    cases read
    cases endRead
  next read =>
    rw [lineRead] at read
    cases read
    split
    next noEnd =>
      rw [endRead] at noEnd
      cases noEnd
    next ended =>
      rw [endRead] at ended
      cases ended
      rfl

end Steps

/-- The settings of a line and of those behind it, together. -/
theorem settings?_append
    (entry : Option Entry)
    (entries : List Entry) :
    Entry.settings? (entry.toList ++ entries) =
      (Entry.read? entry).bind fun setting =>
        (Entry.settings? entries).map (setting.toList ++ ·) := by
  cases entry with
  | none =>
      exact (Option.map_id' ..).symm
  | some entry =>
      rw [Option.toList_some, List.singleton_append, Entry.settings?,
        List.mapM_cons, Entry.read?]
      cases entry.setting? with
      | none =>
          rfl
      | some setting =>
          rw [← Entry.settings?]
          cases Entry.settings? entries <;> rfl

/-- Entries give settings exactly if they are the entries of these settings. -/
theorem settings?_eq_some_iff
    {entries : List Entry}
    {settings : List Setting} :
    Entry.settings? entries = some settings ↔
      entries = settings.map Setting.entry := by
  constructor
  · intro given
    induction entries generalizing settings with
    | nil =>
        cases given
        rfl
    | cons entry entries inductionHypothesis =>
        obtain ⟨key, _ | text⟩ := entry
        · cases given
        · have apart := settings?_append (some (key, some text)) entries
          rw [Option.toList_some, List.singleton_append, given] at apart
          cases rest : Entry.settings? entries with
          | none =>
              rw [rest] at apart
              cases apart
          | some others =>
              rw [rest] at apart
              cases apart
              rw [inductionHypothesis rest]
              rfl
  · rintro rfl
    induction settings with
    | nil =>
        rfl
    | cons setting settings inductionHypothesis =>
        have apart :=
          settings?_append (some setting.entry) (settings.map Setting.entry)
        rw [inductionHypothesis] at apart
        exact apart

/-- Entries that give no settings have one without a text. -/
theorem exists_mem_of_settings?_eq_none
    {entries : List Entry}
    (notGiven : Entry.settings? entries = none) :
    ∃ key, (key, none) ∈ entries := by
  induction entries with
  | nil =>
      cases notGiven
  | cons entry entries inductionHypothesis =>
      obtain ⟨key, _ | text⟩ := entry
      · exact ⟨key, List.mem_cons_self⟩
      · have apart := settings?_append (some (key, some text)) entries
        rw [Option.toList_some, List.singleton_append, notGiven] at apart
        obtain ⟨otherKey, member⟩ :=
          inductionHypothesis (Option.map_eq_none_iff.mp apart.symm)
        exact ⟨otherKey, List.mem_cons_of_mem _ member⟩

/-- A file is read as the settings of its entries, in their order. -/
theorem readLines?_of_writesLines
    {entries : List Entry}
    {form : List Char}
    (lines : WritesLines entries form)
    (found : List Setting) :
    readLines? found form =
      (Entry.settings? entries).map (found.reverse ++ ·) := by
  induction lines generalizing found with
  | nil =>
      have read : readLine? [] = some (none, []) := rfl
      rw [readLines?_of_readLine?_last read]
      exact congrArg some (List.append_nil _).symm
  | @last entry form line =>
      have atEnd : AtLineEnd [] := trivial
      have read := readLine?_of_writesLine line atEnd
      have alone := settings?_append entry []
      rw [List.append_nil] at read alone
      rw [alone]
      cases given : Entry.read? entry with
      | none =>
          rw [given] at read
          exact readLines?_of_readLine?_none read found
      | some setting =>
          rw [given] at read
          rw [readLines?_of_readLine?_last read]
          cases setting <;> simp [Entry.settings?]
  | @cons entry entries form ending forms line ends _ inductionHypothesis =>
      have read := readLine?_of_writesLine line (atLineEnd_append ends forms)
      rw [settings?_append]
      cases given : Entry.read? entry with
      | none =>
          rw [given] at read
          exact readLines?_of_readLine?_none read found
      | some setting =>
          rw [given] at read
          rw [readLines?_of_readLine? read (readLineEnd?_append ends forms),
            inductionHypothesis]
          cases setting <;> cases Entry.settings? entries <;> simp

/-- No line starts with a byte order mark. -/
theorem WritesLine.head_ne_mark
    {entry : Option Entry}
    {form : List Char}
    (line : WritesLine entry form) :
    form.head? ≠ some '\uFEFF' := by
  cases line with
  | blank allBlank =>
      intro marked
      exact absurd (allBlank _ (List.mem_of_head? marked)) (by decide)
  | @comment blanks remark allBlank allPlain =>
      intro marked
      cases blanks with
      | nil =>
          cases marked
      | cons first others =>
          cases marked
          exact absurd (allBlank _ List.mem_cons_self) (by decide)
  | text bare | integer bare | boolean bare =>
      intro marked
      obtain ⟨⟨first, others, shape⟩, allBare⟩ := bareKey_spec bare
      rw [shape] at marked allBare
      cases marked
      exact absurd (allBare _ List.mem_cons_self) (by decide)

theorem WritesLines.head_ne_mark
    {entries : List Entry}
    {form : List Char}
    (lines : WritesLines entries form) :
    form.head? ≠ some '\uFEFF' := by
  cases lines with
  | nil =>
      intro marked
      cases marked
  | last line =>
      exact line.head_ne_mark
  | @cons _ _ form ending forms line ends _ =>
      have lineHead := line.head_ne_mark
      cases form with
      | nil =>
          rcases eq_of_mem_lineEnds ends with rfl | rfl
          · exact fun marked => absurd (Option.some.inj marked) (by decide)
          · exact fun marked => absurd (Option.some.inj marked) (by decide)
      | cons first others =>
          exact lineHead

/-- The settings of a file are those of its entries, unless a key comes twice. -/
theorem settings?_of_writes
    {entries : List Entry}
    {file : String}
    (writes : Writes entries file) :
    settings? file =
      if (entries.map Prod.fst).Nodup then Entry.settings? entries
      else none := by
  have noMark : skipByteOrderMark file.toList = file.toList := by
    unfold skipByteOrderMark
    split
    next others marked =>
      exact (writes.head_ne_mark (by rw [marked]; rfl)).elim
    next =>
      rfl
  have read := readLines?_of_writesLines writes []
  rw [settings?, noMark, read]
  cases given : Entry.settings? entries with
  | none =>
      rw [ite_self]
      rfl
  | some settings =>
      have sameKeys : entries.map Prod.fst = settings.map Setting.key := by
        rw [settings?_eq_some_iff.mp given, List.map_map]
        rfl
      rw [sameKeys]
      rfl

end Files

end SpritePack.Toml
