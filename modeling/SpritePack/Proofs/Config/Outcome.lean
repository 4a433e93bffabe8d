import Mathlib.Data.List.Nodup
import SpritePack.Config.Settings
import SpritePack.Proofs.Text.Utf8
import SpritePack.Proofs.Toml.Reading
import SpritePack.Proofs.Toml.Writing

namespace SpritePack.Config

/-!
# What comes of a settings file

The entries of a file decide what it is read as, and they do so as a set: their
order, their forms and the lines around them say nothing. Faults of the entries
come before the version, wherever they stand.
-/

section Outcomes

variable (entries : List Toml.Entry)

/-- Why entries give no configuration, whatever their version. -/
inductive Faulty : Prop where
  | repeatedKey
      (twice : ¬(entries.map Prod.fst).Nodup)
  | unknownKey
      {entry : Toml.Entry}
      (given : entry ∈ entries)
      (unknown :
        entry.1 ∉ ["version", "input", "bitmap_output", "palette_output"])
  | noText
      {key : String}
      (given : (key, none) ∈ entries)
  | noVersion
      (missing : ∀ value, ("version", value) ∉ entries)

/-- The path that entries give to a key, or a substitute if they do not have the key. -/
inductive Chosen
    (key : String)
    (substitute : Path) :
    Path → Prop where
  | given
      {text : String}
      (entry : (key, some text) ∈ entries) :
      Chosen key substitute (Path.ofString text)
  | missing
      (noEntry : ∀ value, (key, value) ∉ entries) :
      Chosen key substitute substitute

/-- That a configuration is what entries say, and otherwise what its input says. -/
structure Follows (config : Config) : Prop where
  input :
    Chosen entries "input" (Path.ofString "dragonsprite.png") config.input
  bitmapOutput :
    Chosen entries "bitmap_output" (withInput config.input).bitmapOutput
      config.bitmapOutput
  paletteOutput :
    Chosen entries "palette_output" (withInput config.input).paletteOutput
      config.paletteOutput

/-- All that a file can come to, by its entries. -/
inductive Parsing : Except ConfigFault Config → Prop where
  | malformed
      (faulty : Faulty entries) :
      Parsing (.error .malformed)
  | unsupportedVersion
      {version : String}
      (sound : ¬Faulty entries)
      (given : ("version", some version) ∈ entries)
      (other : version ≠ "1.0") :
      Parsing (.error (.unsupportedVersion version))
  | parsed
      {config : Config}
      (sound : ¬Faulty entries)
      (given : ("version", some "1.0") ∈ entries)
      (follows : Follows entries config) :
      Parsing (.ok config)

end Outcomes

section Uniqueness

variable {entries : List Toml.Entry}

/-- Entries with different keys give one value to a key. -/
theorem value_eq_of_mem
    (distinct : (entries.map Prod.fst).Nodup)
    {key : String}
    {value other : Option String}
    (member : (key, value) ∈ entries)
    (otherMember : (key, other) ∈ entries) :
    value = other :=
  congrArg Prod.snd (List.inj_on_of_nodup_map distinct member otherMember rfl)

theorem Chosen.unique
    (distinct : (entries.map Prod.fst).Nodup)
    {key : String}
    {substitute path other : Path}
    (chosen : Chosen entries key substitute path)
    (otherChosen : Chosen entries key substitute other) :
    path = other := by
  cases chosen with
  | given entry =>
      cases otherChosen with
      | given otherEntry =>
          cases value_eq_of_mem distinct entry otherEntry
          rfl
      | missing noEntry =>
          exact (noEntry _ entry).elim
  | missing noEntry =>
      cases otherChosen with
      | given otherEntry =>
          exact (noEntry _ otherEntry).elim
      | missing =>
          rfl

/-- Entries with different keys are followed by one configuration. -/
theorem Follows.unique
    (distinct : (entries.map Prod.fst).Nodup)
    {config other : Config}
    (follows : Follows entries config)
    (otherFollows : Follows entries other) :
    config = other := by
  have sameInput := follows.input.unique distinct otherFollows.input
  have bitmapChosen := otherFollows.bitmapOutput
  have paletteChosen := otherFollows.paletteOutput
  rw [← sameInput] at bitmapChosen paletteChosen
  have sameBitmap := follows.bitmapOutput.unique distinct bitmapChosen
  have samePalette := follows.paletteOutput.unique distinct paletteChosen
  cases config
  cases other
  cases sameInput
  cases sameBitmap
  cases samePalette
  rfl

theorem nodup_of_not_faulty
    (sound : ¬Faulty entries) :
    (entries.map Prod.fst).Nodup :=
  Decidable.not_not.mp fun twice => sound (.repeatedKey twice)

/-- A file comes to one thing only. -/
theorem Parsing.unique
    {outcome other : Except ConfigFault Config}
    (parsing : Parsing entries outcome)
    (otherParsing : Parsing entries other) :
    outcome = other := by
  cases parsing with
  | malformed faulty =>
      cases otherParsing with
      | malformed =>
          rfl
      | unsupportedVersion sound | parsed sound =>
          exact (sound faulty).elim
  | unsupportedVersion sound given other =>
      have distinct := nodup_of_not_faulty sound
      cases otherParsing with
      | malformed faulty =>
          exact (sound faulty).elim
      | unsupportedVersion _ otherGiven =>
          cases value_eq_of_mem distinct given otherGiven
          rfl
      | parsed _ supported =>
          cases value_eq_of_mem distinct given supported
          exact (other rfl).elim
  | parsed sound given follows =>
      have distinct := nodup_of_not_faulty sound
      cases otherParsing with
      | malformed faulty =>
          exact (sound faulty).elim
      | unsupportedVersion _ otherGiven other =>
          cases value_eq_of_mem distinct given otherGiven
          exact (other rfl).elim
      | parsed _ _ otherFollows =>
          rw [follows.unique distinct otherFollows]

end Uniqueness

section Order

variable
  {entries order : List Toml.Entry}
  (perm : order.Perm entries)

include perm

theorem Faulty.of_perm
    (faulty : Faulty order) :
    Faulty entries := by
  cases faulty with
  | repeatedKey twice =>
      exact
        .repeatedKey fun distinct =>
          twice ((perm.map Prod.fst).nodup_iff.mpr distinct)
  | unknownKey given unknown =>
      exact .unknownKey (perm.mem_iff.mp given) unknown
  | noText given =>
      exact .noText (perm.mem_iff.mp given)
  | noVersion missing =>
      exact .noVersion fun value given => missing value (perm.mem_iff.mpr given)

theorem Chosen.of_perm
    {key : String}
    {substitute path : Path}
    (chosen : Chosen order key substitute path) :
    Chosen entries key substitute path := by
  cases chosen with
  | given entry =>
      exact .given (perm.mem_iff.mp entry)
  | missing noEntry =>
      exact .missing fun value given => noEntry value (perm.mem_iff.mpr given)

/-- The order of the entries does not change what a file comes to. -/
theorem Parsing.of_perm
    {outcome : Except ConfigFault Config}
    (parsing : Parsing order outcome) :
    Parsing entries outcome := by
  cases parsing with
  | malformed faulty =>
      exact .malformed (faulty.of_perm perm)
  | unsupportedVersion sound given other =>
      exact
        .unsupportedVersion (fun faulty => sound (faulty.of_perm perm.symm))
          (perm.mem_iff.mp given) other
  | parsed sound given follows =>
      exact
        .parsed (fun faulty => sound (faulty.of_perm perm.symm))
          (perm.mem_iff.mp given) {
            input := follows.input.of_perm perm
            bitmapOutput := follows.bitmapOutput.of_perm perm
            paletteOutput := follows.paletteOutput.of_perm perm
          }

end Order

section Settings

variable
  {settings : List Toml.Setting}
  {key : String}

/-- The text of a key is that of one of its entries. -/
theorem mem_of_setting?_eq_some
    {text : String}
    (found : setting? settings key = some text) :
    (key, some text) ∈ settings.map Toml.Setting.entry := by
  rw [setting?, Option.map_eq_some_iff] at found
  obtain ⟨setting, settingFound, rfl⟩ := found
  have sameKey := List.find?_some settingFound
  rw [beq_iff_eq] at sameKey
  rw [← sameKey]
  exact List.mem_map_of_mem (List.mem_of_find?_eq_some settingFound)

/-- A key without a text has no entry. -/
theorem notMem_of_setting?_eq_none
    (notFound : setting? settings key = none)
    (value : Option String) :
    (key, value) ∉ settings.map Toml.Setting.entry := by
  rw [setting?, Option.map_eq_none_iff, List.find?_eq_none] at notFound
  intro given
  obtain ⟨setting, member, same⟩ := List.mem_map.mp given
  cases same
  exact notFound setting member (beq_self_eq_true _)

theorem chosen_setting?
    (substitute : Path) :
    Chosen (settings.map Toml.Setting.entry) key substitute
      (((setting? settings key).map Path.ofString).getD substitute) := by
  cases found : setting? settings key with
  | none =>
      exact .missing (notMem_of_setting?_eq_none found)
  | some text =>
      exact .given (mem_of_setting?_eq_some found)

theorem follows_describedBy :
    Follows (settings.map Toml.Setting.entry) (describedBy settings) where
  input := chosen_setting? _
  bitmapOutput := chosen_setting? _
  paletteOutput := chosen_setting? _

/-- Settings with known keys and a version are the entries of sound files. -/
theorem not_faulty_of_settings
    (distinct :
      ((settings.map Toml.Setting.entry).map Prod.fst).Nodup)
    (known :
      settings.all (fun setting => settingKeys.contains setting.key) = true)
    {version : String}
    (found : setting? settings "version" = some version) :
    ¬Faulty (settings.map Toml.Setting.entry) := by
  intro faulty
  cases faulty with
  | repeatedKey twice =>
      exact twice distinct
  | unknownKey given unknown =>
      obtain ⟨setting, member, rfl⟩ := List.mem_map.mp given
      have contained := List.all_eq_true.mp known setting member
      exact unknown (List.contains_iff_mem.mp contained)
  | noText given =>
      obtain ⟨setting, _, same⟩ := List.mem_map.mp given
      cases same
  | noVersion missing =>
      exact missing _ (mem_of_setting?_eq_some found)

end Settings

/-- A file of settings comes to what their entries say. -/
theorem parsing_of_settings
    {file : String}
    {settings : List Toml.Setting}
    (read : Toml.settings? file = some settings)
    (distinct :
      ((settings.map Toml.Setting.entry).map Prod.fst).Nodup) :
    Parsing (settings.map Toml.Setting.entry) (parse file) := by
  rw [parse, read]
  dsimp only
  by_cases known :
    settings.all (fun setting => settingKeys.contains setting.key) = true
  · rw [if_pos known]
    cases found : setting? settings "version" with
    | none =>
        exact .malformed (.noVersion (notMem_of_setting?_eq_none found))
    | some version =>
        have sound := not_faulty_of_settings distinct known found
        have versionGiven := mem_of_setting?_eq_some found
        dsimp only
        split
        next supported =>
          rw [supported] at versionGiven
          exact .parsed sound versionGiven follows_describedBy
        next other =>
          exact .unsupportedVersion sound versionGiven other
  · rw [if_neg known]
    rw [List.all_eq_true] at known
    push Not at known
    rcases known with ⟨setting, member, unknown⟩
    refine .malformed (.unknownKey (List.mem_map_of_mem member) ?_)
    exact fun contained => unknown (List.contains_iff_mem.mpr contained)

/-- A file comes to what its entries say. -/
theorem parsing_parse
    {entries : List Toml.Entry}
    {file : String}
    (writes : Toml.Writes entries file) :
    Parsing entries (parse file) := by
  have read := Toml.settings?_of_writes writes
  by_cases distinct : (entries.map Prod.fst).Nodup
  · rw [if_pos distinct] at read
    cases given : Toml.Entry.settings? entries with
    | none =>
        rcases Toml.exists_mem_of_settings?_eq_none given with ⟨key, noText⟩
        rw [parse, read, given]
        exact .malformed (.noText noText)
    | some settings =>
        cases Toml.settings?_eq_some_iff.mp given
        exact parsing_of_settings (read.trans given) distinct
  · rw [if_neg distinct] at read
    rw [parse, read]
    exact .malformed (.repeatedKey distinct)

/--
A file comes to exactly what its entries say, in any order of them, and its
texts stay the same character by character.
-/
theorem parse_outcome
    {entries : List Toml.Entry}
    {file : String}
    (writes : Toml.Writes entries file) :
    (∀ outcome, parse file = outcome ↔ Parsing entries outcome) ∧
      (∀ (order : List Toml.Entry) (other : String),
        order.Perm entries → Toml.Writes order other →
          parse other = parse file) ∧
      ∀ text, Utf8.decode? (Path.ofString text).bytes = some text := by
  have parsing := parsing_parse writes
  refine ⟨?_, ?_, Utf8.decode?_encode⟩
  · intro outcome
    constructor
    · rintro rfl
      exact parsing
    · exact parsing.unique
  · intro order other perm otherWrites
    exact ((parsing_parse otherWrites).of_perm perm).unique parsing

/-- A file with a comment, an empty line, and escapes in the name of its palette. -/
theorem parse_of_escapedName :
    ∃ file : String,
      file =
          "# sprite\npalette_output = \x22\\\x22\\\\\\u0001é.pal\x22\n\n" ++
            "version = \x221.0\x22\n" ∧
        Toml.Writes
          [
            ("palette_output", some "\x22\\\x01é.pal"),
            ("version", some "1.0")
          ] file ∧
        parse file =
          .ok {
            input := defaultInput
            bitmapOutput := default.bitmapOutput
            paletteOutput := Path.ofString "\x22\\\x01é.pal"
          } := by
  have writes :
      Toml.Writes _
        (Toml.writeLines [
          .comment " sprite",
          .entry "palette_output" (.text "\x22\\\x01é.pal"),
          .blank,
          .entry "version" (.text "1.0")
        ]) :=
    Toml.writes_writeLines (by decide)
  have sound :
      ¬Faulty
        ([
          ⟨"palette_output", "\x22\\\x01é.pal"⟩,
          ⟨"version", "1.0"⟩
        ].map Toml.Setting.entry) :=
    not_faulty_of_settings (by decide) (by decide) rfl
  refine ⟨_, rfl, writes, ((parse_outcome writes).1 _).mpr ?_⟩
  exact
    .parsed sound (by decide) {
      input := .missing (by simp [Toml.Line.entry?])
      bitmapOutput := .missing (by simp [Toml.Line.entry?])
      paletteOutput := .given (by decide)
    }

end SpritePack.Config
