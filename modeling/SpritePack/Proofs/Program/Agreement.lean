import SpritePack.Proofs.Config.Outcome
import SpritePack.Proofs.Program.Configuration
import SpritePack.Proofs.Sprite.WellFormed

namespace SpritePack

/-!
# Settings files and command lines agree

The names for a conversion may be given in a settings file or on the command
line.  Both take what is not given from the picture's name, so it makes no
difference which way they come, nor whether an output is named on the command
line or in the file instead.
-/

/-- The names given for a conversion. -/
structure Names where
  input : Option String
  bitmap : Option String
  palette : Option String
  deriving Repr, DecidableEq

namespace Names

/-- That no name is empty, as no value on a command line may be. -/
structure Proper (names : Names) : Prop where
  input : names.input ≠ some ""
  bitmap : names.bitmap ≠ some ""
  palette : names.palette ≠ some ""

/-- No names at all. -/
def nothing : Names where
  input := none
  bitmap := none
  palette := none

theorem proper_nothing : nothing.Proper where
  input := nofun
  bitmap := nofun
  palette := nofun

/-- The arguments that give the names. -/
def arguments (names : Names) : Arguments where
  input := names.input.map Path.ofString
  config := none
  bitmap := names.bitmap.map Path.ofString
  palette := names.palette.map Path.ofString
  verbose := false

/-- The arguments that give a settings file, and the outputs of the names. -/
def argumentsWith
    (names : Names)
    (path : Path) :
    Arguments where
  input := none
  config := some path
  bitmap := names.bitmap.map Path.ofString
  palette := names.palette.map Path.ofString
  verbose := false

/-- What a command line gives with the names, in the order of the line. -/
def given (names : Names) : List Given :=
  names.bitmap.toList.map (fun text => (.bitmap, Utf8.encode text)) ++
    (names.palette.toList.map (fun text => (.palette, Utf8.encode text)) ++
      names.input.toList.map fun text => (.input, Utf8.encode text))

/-- The command line with each output behind its name, and the picture behind two dashes. -/
def line (names : Names) : List Bytes :=
  names.bitmap.toList.map
      (fun text => Bytes.ofAscii "--bitmap=" ++ Utf8.encode text) ++
    (names.palette.toList.map
        (fun text => Bytes.ofAscii "--palette=" ++ Utf8.encode text) ++
      names.input.toList.flatMap fun text =>
        [Bytes.ofAscii "--", Utf8.encode text])

/-- The settings of the names, with the version that is understood. -/
def settings (names : Names) : List Toml.Setting :=
  ⟨"version", "1.0"⟩ ::
    (names.input.toList.map (Toml.Setting.mk "input") ++
      names.bitmap.toList.map (Toml.Setting.mk "bitmap_output") ++
      names.palette.toList.map (Toml.Setting.mk "palette_output"))

/-- The names with the outputs of others in place of their own. -/
def withOutputs (names others : Names) : Names where
  input := names.input
  bitmap := others.bitmap.or names.bitmap
  palette := others.palette.or names.palette

/-- The configuration that the names come to. -/
def config (names : Names) : Config :=
  Config.describedBy names.settings

variable {names : Names}

section Files

theorem nodup_keys (names : Names) :
    ((names.settings.map Toml.Setting.entry).map Prod.fst).Nodup := by
  rcases names with ⟨_ | input, _ | bitmap, _ | palette⟩ <;>
    simp [settings, Toml.Setting.entry]

theorem not_faulty_settings (names : Names) :
    ¬Config.Faulty (names.settings.map Toml.Setting.entry) := by
  refine Config.not_faulty_of_settings names.nodup_keys ?_ rfl
  rcases names with ⟨_ | input, _ | bitmap, _ | palette⟩ <;> rfl

/-- A file with the settings of the names, in any order and form, is read as them. -/
theorem parse_eq_ok
    {order : List Toml.Entry}
    {file : String}
    (perm : order.Perm (names.settings.map Toml.Setting.entry))
    (writes : Toml.Writes order file) :
    Config.parse file = .ok names.config := by
  have parsed :
      Config.Parsing (names.settings.map Toml.Setting.entry)
        (.ok names.config) :=
    .parsed names.not_faulty_settings List.mem_cons_self
      Config.follows_describedBy
  exact ((Config.parsing_parse writes).of_perm perm).unique parsed

/-- Each setting that a configuration depends on is the name given for it. -/
theorem setting?_settings (names : Names) :
    Config.setting? names.settings "input" = names.input ∧
      Config.setting? names.settings "bitmap_output" = names.bitmap ∧
      Config.setting? names.settings "palette_output" = names.palette := by
  rcases names with ⟨_ | input, _ | bitmap, _ | palette⟩ <;>
    simp [settings, Config.setting?]

/-- The configuration of the picture's name alone. -/
def base (names : Names) : Config :=
  Config.withInput ((names.input.map Path.ofString).getD Config.defaultInput)

/-- The outputs of a settings file are put in place of those of its picture. -/
theorem config_eq (names : Names) :
    names.config = names.arguments.overrideOutputs names.base := by
  obtain ⟨input, bitmap, palette⟩ := names.setting?_settings
  rw [config, Config.describedBy]
  dsimp only
  rw [input, bitmap, palette]
  rfl

/-- Outputs put in a file are the same as outputs given besides it. -/
theorem config_withOutputs
    (names others : Names)
    (path : Path) :
    (names.withOutputs others).config =
      (others.argumentsWith path).overrideOutputs names.config := by
  rw [config_eq, config_eq]
  rcases others with ⟨_, _ | bitmap, _ | palette⟩ <;> rfl

end Files

section Lines

theorem encode_ne_nil
    {text : String}
    (nonempty : text ≠ "") :
    Utf8.encode text ≠ [] := by
  intro none
  have decoded := Utf8.decode?_encode text
  rw [none] at decoded
  exact nonempty (Option.some.inj (decoded.symm.trans (Utf8.decode?_encode "")))

theorem listed_given (names : Names) :
    names.arguments.Listed names.given where
  distinct := by
    rcases names with ⟨_ | input, _ | bitmap, _ | palette⟩ <;> simp [given]
  mem_iff := by
    rcases names with ⟨_ | input, _ | bitmap, _ | palette⟩ <;>
      intro parameter value <;>
        cases parameter <;>
          simp [given, arguments, Arguments.value?, Path.ofString, eq_comm]

/-- A name that is not empty has a value that is not empty. -/
theorem bytes_ne_nil
    {text? : Option String}
    (nonempty : text? ≠ some "") :
    (text?.map Path.ofString).map Path.bytes ≠ some [] := by
  cases text? with
  | none =>
      exact nofun
  | some text =>
      intro empty
      exact
        encode_ne_nil (fun same => nonempty (congrArg some same))
          (Option.some.inj empty)

theorem suits_of_listed
    {arguments : Arguments}
    {given : List Given}
    (listed : arguments.Listed given)
    (nonempty :
      ∀ parameter : Parameter, parameter.takesValue = true →
        arguments.value? parameter ≠ some []) :
    ∀ entry ∈ given, CommandLine.Suits entry.1 entry.2 := by
  rintro ⟨parameter, value⟩ member takes rfl
  exact nonempty parameter takes ((listed.mem_iff parameter []).mp member)

/-- A name that may be given, in front of a line, with an equals sign. -/
theorem spellsLine_joined
    {name : Bytes}
    {parameter : Parameter}
    (known : (name, parameter) ∈ CommandLine.longNames)
    (text? : Option String)
    {given : List Given}
    {line : List Bytes}
    (rest : CommandLine.SpellsLine given line) :
    CommandLine.SpellsLine
      (text?.toList.map (fun text => (parameter, Utf8.encode text)) ++ given)
      (text?.toList.map
          (fun text =>
            Bytes.ofAscii "--" ++ name ++ Bytes.ofAscii "=" ++
              Utf8.encode text) ++
        line) := by
  cases text? with
  | none =>
      exact rest
  | some text =>
      exact .cons (.joined known (Utf8.encode text)) rest

theorem spellsLine_line (names : Names) :
    CommandLine.SpellsLine names.given names.line := by
  have pictureSpelled :
      CommandLine.SpellsLine
        (names.input.toList.map fun text => (.input, Utf8.encode text))
        (names.input.toList.flatMap fun text =>
          [Bytes.ofAscii "--", Utf8.encode text]) := by
    cases names.input with
    | none =>
        exact .nil
    | some text =>
        exact .behindDashes (Utf8.encode text)
  have bitmapKnown :
      (Bytes.ofAscii "bitmap", Parameter.bitmap) ∈ CommandLine.longNames := by
    decide
  have paletteKnown :
      (Bytes.ofAscii "palette", Parameter.palette) ∈ CommandLine.longNames := by
    decide
  exact
    spellsLine_joined bitmapKnown names.bitmap
      (spellsLine_joined paletteKnown names.palette pictureSpelled)

theorem read_line
    (proper : names.Proper) :
    CommandLine.read names.line = .ok (.run names.arguments) := by
  have suits :=
    suits_of_listed names.listed_given fun parameter takes =>
      match parameter with
      | .input => bytes_ne_nil proper.input
      | .config => nofun
      | .bitmap => bytes_ne_nil proper.bitmap
      | .palette => bytes_ne_nil proper.palette
  exact
    CommandLine.read_eq_ok_of_apart names.listed_given suits
      names.spellsLine_line (.inr rfl)

/-- Any line with a settings file and outputs, in any order and form, is read as them. -/
theorem read_eq_ok_of_listed
    (proper : names.Proper)
    {path : Path}
    (named : path.bytes ≠ [])
    {given : List Given}
    {line : List Bytes}
    (listed : (names.argumentsWith path).Listed given)
    (spells : CommandLine.SpellsLine given line) :
    CommandLine.read line = .ok (.run (names.argumentsWith path)) := by
  have suits :=
    suits_of_listed listed fun parameter takes =>
      match parameter with
      | .input => nofun
      | .config => fun empty => named (Option.some.inj empty)
      | .bitmap => bytes_ne_nil proper.bitmap
      | .palette => bytes_ne_nil proper.palette
  exact CommandLine.read_eq_ok_of_apart listed suits spells (.inl rfl)

end Lines

end Names

namespace Program

/-- That a path leads to a file with the settings of some names, in some order and form. -/
def HoldsSettings
    (world : World)
    (path : Path)
    (names : Names) :
    Prop :=
  ∃ (order : List Toml.Entry) (file : String),
    order.Perm (names.settings.map Toml.Setting.entry) ∧
      Toml.Writes order file ∧
      world.disk.open? path = .ok (.file (Utf8.encode file))

/-- That a command line gives arguments, in some order and form. -/
def Gives
    (line : List Bytes)
    (arguments : Arguments) :
    Prop :=
  ∃ given, arguments.Listed given ∧ CommandLine.SpellsLine given line

/-- That a command line is settled to a configuration, while the world stays as it is. -/
def Configures
    (world : World)
    (line : List Bytes)
    (config : Config) :
    Prop :=
  ∃ arguments,
    CommandLine.read line = .ok (.run arguments) ∧
      world.perform (configOf arguments) = (.ok config, world)

section Agreement

variable
  {world : World}
  {path : Path}
  {names : Names}

/-- Only a path with a name can be opened. -/
theorem bytes_ne_nil_of_open?
    {disk : Disk}
    {node : Node}
    (opened : disk.open? path = .ok node) :
    path.bytes ≠ [] := by
  intro empty
  rw [Disk.open?, Disk.locate, Disk.pathFault?, empty] at opened
  cases opened

theorem perform_loadConfig_of_holdsSettings
    (holds : HoldsSettings world path names) :
    world.perform (loadConfig path) = (.ok names.config, world) := by
  obtain ⟨order, file, perm, writes, lies⟩ := holds
  have opened :
      world.perform (liftM (Host.openPath path : StateM World _)) =
        (.ok (.ok (.file (Utf8.encode file))), world) := by
    rw [← lies]
    rfl
  have parsed := Names.parse_eq_ok perm writes
  rw [loadConfig, World.perform_bind_ok opened]
  dsimp only [contentOf]
  rw [Utf8.decode?_encode]
  dsimp only
  rw [parsed]
  rfl

/-- The names on a command line are settled to their configuration, wherever they are. -/
theorem configures_line
    (proper : names.Proper)
    (world : World) :
    Configures world names.line names.config := by
  refine ⟨names.arguments, Names.read_line proper, ?_⟩
  rw [perform_configOf, names.config_eq]
  rcases names with ⟨_ | input, bitmap, palette⟩ <;> rfl

/-- A settings file is settled to the configuration of its names, with the outputs given besides. -/
theorem configures_of_holdsSettings
    (holds : HoldsSettings world path names)
    {others : Names}
    (proper : others.Proper)
    {line : List Bytes}
    (gives : Gives line (others.argumentsWith path)) :
    Configures world line (names.withOutputs others).config := by
  obtain ⟨given, listed, spells⟩ := gives
  have named : path.bytes ≠ [] := by
    obtain ⟨_, _, _, _, lies⟩ := holds
    exact bytes_ne_nil_of_open? lies
  have loaded := perform_loadConfig_of_holdsSettings holds
  refine
    ⟨others.argumentsWith path,
      Names.read_eq_ok_of_listed proper named listed spells, ?_⟩
  rw [perform_configOf, baseOf]
  dsimp only [Names.argumentsWith]
  rw [loaded, Names.config_withOutputs names others path]
  rfl

end Agreement

/--
Names on a command line come to the same configuration as a settings file with
these names.  Outputs given besides the file come to the same configuration as a
file in which they stand in place of its own.
-/
theorem file_and_line_agree
    {world : World}
    {path : Path}
    {names : Names}
    (holds : HoldsSettings world path names) :
    (names.Proper →
        ∀ elsewhere line, Gives line (Names.nothing.argumentsWith path) →
          ∃ config,
            Configures elsewhere names.line config ∧
              Configures world line config) ∧
      ∀ (others : Names) (elsewhere : World) (otherPath : Path),
        others.Proper →
          HoldsSettings elsewhere otherPath (names.withOutputs others) →
            ∀ line otherLine,
              Gives line (others.argumentsWith path) →
                Gives otherLine (Names.nothing.argumentsWith otherPath) →
                  ∃ config,
                    Configures world line config ∧
                      Configures elsewhere otherLine config := by
  refine ⟨?_, ?_⟩
  · intro proper elsewhere line gives
    exact
      ⟨names.config, configures_line proper elsewhere,
        configures_of_holdsSettings holds Names.proper_nothing gives⟩
  · intro others elsewhere otherPath proper otherHolds line otherLine gives
      otherGives
    exact
      ⟨(names.withOutputs others).config,
        configures_of_holdsSettings holds proper gives,
        configures_of_holdsSettings otherHolds Names.proper_nothing otherGives⟩

/-- A world with one file, in which the settings of names stand line by line. -/
def settingsWorld (names : Names) : World where
  disk :=
    .holding <| Utf8.encode <| Toml.writeLines <|
      names.settings.map fun setting => .entry setting.key (.text setting.text)
  log := []

theorem holdsSettings_settingsWorld (names : Names) :
    HoldsSettings (settingsWorld names) ⟨[0x61]⟩ names := by
  have writable :
      ∀ line ∈
        names.settings.map fun setting =>
          Toml.Line.entry setting.key (.text setting.text),
        line.isWritable = true := by
    rcases names with ⟨_ | input, _ | bitmap, _ | palette⟩ <;>
      simp [Names.settings, Toml.Line.isWritable, Toml.isBareKey] <;> decide
  have writes := Toml.writes_writeLines writable
  have entries :
      (names.settings.map fun setting =>
          Toml.Line.entry setting.key (.text setting.text)).filterMap
            Toml.Line.entry? =
        names.settings.map Toml.Setting.entry := by
    rw [List.filterMap_map]
    exact congrFun List.filterMap_eq_map names.settings
  exact ⟨_, _, .of_eq entries, writes, rfl⟩

/-- A picture with a dash and a quote, and a palette given in the file or besides it. -/
theorem file_and_line_agree_of_dashedPicture :
    ∃ (file otherFile : World) (path : Path),
      HoldsSettings file path ⟨some "-\x22é.png", none, some "p"⟩ ∧
        (∃ config,
          Configures World.empty
              [Bytes.ofAscii "--palette=p", Bytes.ofAscii "--",
                Utf8.encode "-\x22é.png"]
              config ∧
            Configures file (["-c", "a"].map Bytes.ofAscii) config) ∧
        HoldsSettings otherFile path ⟨some "-\x22é.png", none, some "=q"⟩ ∧
        ∃ config,
          Configures file (["--palette==q", "--config", "a"].map Bytes.ofAscii)
              config ∧
            Configures otherFile (["--config=a"].map Bytes.ofAscii) config := by
  let names : Names := ⟨some "-\x22é.png", none, some "p"⟩
  let others : Names := ⟨none, none, some "=q"⟩
  have holds := holdsSettings_settingsWorld names
  have otherHolds := holdsSettings_settingsWorld (names.withOutputs others)
  have proper : names.Proper := ⟨by decide, by decide, by decide⟩
  have othersProper : others.Proper := ⟨by decide, by decide, by decide⟩
  have configKnown :
      (Bytes.ofAscii "config", Parameter.config) ∈ CommandLine.longNames := by
    decide
  have paletteKnown :
      (Bytes.ofAscii "palette", Parameter.palette) ∈ CommandLine.longNames := by
    decide
  have fileListed :
      (Names.nothing.argumentsWith ⟨[0x61]⟩).Listed [(.config, [0x61])] := by
    refine ⟨by decide, ?_⟩
    intro parameter value
    cases parameter <;>
      simp [Names.nothing, Names.argumentsWith, Arguments.value?, eq_comm]
  have bothListed :
      (others.argumentsWith ⟨[0x61]⟩).Listed
        [(.palette, Utf8.encode "=q"), (.config, [0x61])] := by
    refine ⟨by decide, ?_⟩
    intro parameter value
    cases parameter <;>
      simp [others, Names.argumentsWith, Arguments.value?, Path.ofString,
        eq_comm]
  obtain ⟨agree, agreeBesides⟩ := file_and_line_agree holds
  refine ⟨_, _, _, holds, ?_, otherHolds, ?_⟩
  · exact
      agree proper World.empty _
        ⟨_, fileListed, .cons (.letterSeparate rfl) .nil⟩
  · exact
      agreeBesides others _ _ othersProper otherHolds _ _
        ⟨_, bothListed,
          .cons (.joined paletteKnown _)
            (.cons (.separate configKnown rfl) .nil)⟩
        ⟨_, fileListed, .cons (.joined configKnown _) .nil⟩

end Program

end SpritePack
