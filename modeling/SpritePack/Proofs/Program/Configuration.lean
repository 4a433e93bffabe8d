import SpritePack.Program
import SpritePack.Proofs.CommandLine.Meaning
import SpritePack.Proofs.Conversion.Run

namespace SpritePack

/-!
# The configuration of a run

Arguments are settled to what their picture or settings file says, with each
output that they give in place of the one said there.
-/

namespace Program

/-- That a configuration is another but for the outputs that arguments give. -/
structure Overrides
    (arguments : Arguments)
    (base config : Config) :
    Prop where
  input :
    config.input = base.input
  bitmapGiven :
    ∀ path, arguments.bitmap = some path → config.bitmapOutput = path
  bitmapKept :
    arguments.bitmap = none → config.bitmapOutput = base.bitmapOutput
  paletteGiven :
    ∀ path, arguments.palette = some path → config.paletteOutput = path
  paletteKept :
    arguments.palette = none → config.paletteOutput = base.paletteOutput

/-- All that arguments can be settled to, by what comes of loading settings files. -/
inductive Settled
    (arguments : Arguments)
    (load : Path → Except Error Config) :
    Except Error Config → Prop where
  | unloaded
      {path : Path}
      {error : Error}
      (configGiven : arguments.config = some path)
      (failed : load path = .error error) :
      Settled arguments load (.error error)
  | loaded
      {path : Path}
      {base config : Config}
      (configGiven : arguments.config = some path)
      (found : load path = .ok base)
      (overrides : Overrides arguments base config) :
      Settled arguments load (.ok config)
  | named
      {input : Path}
      {config : Config}
      (noConfig : arguments.config = none)
      (inputGiven : arguments.input = some input)
      (overrides : Overrides arguments (Config.withInput input) config) :
      Settled arguments load (.ok config)
  | default
      {config : Config}
      (noConfig : arguments.config = none)
      (noInput : arguments.input = none)
      (overrides : Overrides arguments Config.default config) :
      Settled arguments load (.ok config)

section Settling

variable
  {arguments : Arguments}
  {base config : Config}

theorem overrides_overrideOutputs :
    Overrides arguments base (arguments.overrideOutputs base) where
  input :=
    rfl
  bitmapGiven path given := by
    rw [Arguments.overrideOutputs, given]
    rfl
  bitmapKept notGiven := by
    rw [Arguments.overrideOutputs, notGiven]
    rfl
  paletteGiven path given := by
    rw [Arguments.overrideOutputs, given]
    rfl
  paletteKept notGiven := by
    rw [Arguments.overrideOutputs, notGiven]
    rfl

/-- There is one configuration with the outputs of some arguments. -/
theorem Overrides.overrideOutputs_eq
    (overrides : Overrides arguments base config) :
    arguments.overrideOutputs base = config := by
  rcases config with ⟨input, bitmapOutput, paletteOutput⟩
  have sameInput : input = base.input :=
    overrides.input
  have sameBitmap :
      bitmapOutput = arguments.bitmap.getD base.bitmapOutput := by
    cases given : arguments.bitmap with
    | none =>
        exact overrides.bitmapKept given
    | some path =>
        exact overrides.bitmapGiven path given
  have samePalette :
      paletteOutput = arguments.palette.getD base.paletteOutput := by
    cases given : arguments.palette with
    | none =>
        exact overrides.paletteKept given
    | some path =>
        exact overrides.paletteGiven path given
  rw [sameInput, sameBitmap, samePalette, Arguments.overrideOutputs]

/-- The configuration that arguments start from. -/
def baseOf
    (arguments : Arguments)
    (load : Path → Except Error Config) :
    Except Error Config :=
  match arguments.config, arguments.input with
  | some path, _ => load path
  | none, some input => .ok (Config.withInput input)
  | none, none => .ok Config.default

/-- The outcomes listed are the base with its outputs overridden, or its fault. -/
theorem settled_iff
    {load : Path → Except Error Config}
    {outcome : Except Error Config} :
    Settled arguments load outcome ↔
      (baseOf arguments load).map arguments.overrideOutputs = outcome := by
  constructor
  · intro settled
    cases settled with
    | unloaded configGiven failed =>
        rw [baseOf, configGiven]
        exact congrArg (Except.map arguments.overrideOutputs) failed
    | loaded configGiven found overrides =>
        rw [baseOf, configGiven, ← overrides.overrideOutputs_eq]
        exact congrArg (Except.map arguments.overrideOutputs) found
    | named noConfig inputGiven overrides =>
        rw [baseOf, noConfig, inputGiven, ← overrides.overrideOutputs_eq]
        rfl
    | default noConfig noInput overrides =>
        rw [baseOf, noConfig, noInput, ← overrides.overrideOutputs_eq]
        rfl
  · rintro rfl
    rw [baseOf]
    cases configGiven : arguments.config with
    | some path =>
        cases loaded : load path with
        | error error =>
            dsimp only
            rw [loaded]
            exact .unloaded configGiven loaded
        | ok base =>
            dsimp only
            rw [loaded]
            exact .loaded configGiven loaded overrides_overrideOutputs
    | none =>
        cases inputGiven : arguments.input with
        | some input =>
            exact .named configGiven inputGiven overrides_overrideOutputs
        | none =>
            exact .default configGiven inputGiven overrides_overrideOutputs

end Settling

section Worlds

variable
  (world : World)
  (arguments : Arguments)

/-- Loading a settings file changes nothing. -/
theorem perform_loadConfig
    (path : Path) :
    (world.perform (loadConfig path)).2 = world := by
  have opened :
      world.perform (liftM (Host.openPath path : StateM World _)) =
        (.ok (world.disk.open? path), world) :=
    rfl
  rw [loadConfig, World.perform_bind_ok opened]
  cases world.disk.open? path with
  | error cause =>
      rfl
  | ok node =>
      dsimp only
      cases contentOf node with
      | error cause =>
          rfl
      | ok content =>
          dsimp only
          cases Utf8.decode? content with
          | none =>
              rfl
          | some text =>
              dsimp only
              cases Config.parse text <;> rfl

/-- Overriding outputs passes a fault on, and changes nothing. -/
theorem perform_override
    {action : ExceptT Error (StateM World) Config}
    (unchanged : (world.perform action).2 = world) :
    world.perform (do return arguments.overrideOutputs (← action)) =
      ((world.perform action).1.map arguments.overrideOutputs, world) := by
  rcases ran : world.perform action with ⟨result, after⟩
  rw [ran] at unchanged
  cases unchanged
  cases result with
  | error error =>
      exact World.perform_bind_error ran _
  | ok base =>
      exact World.perform_bind_ok ran _

/-- Settling arguments overrides the outputs of their base, and changes nothing. -/
theorem perform_configOf :
    world.perform (configOf arguments) =
      ((baseOf arguments fun path => (world.perform (loadConfig path)).1).map
        arguments.overrideOutputs, world) := by
  rw [configOf, baseOf]
  cases arguments.config with
  | some path =>
      exact perform_override world arguments (perform_loadConfig world path)
  | none =>
      cases arguments.input with
      | some input =>
          exact
            World.perform_bind_ok (world.perform_pure (Config.withInput input)) _
      | none =>
          exact World.perform_bind_ok (world.perform_pure Config.default) _

end Worlds

/--
A line with values for different parameters means the same in any order and in
any form: it is refused if it has both a picture and a settings file, and is
otherwise read as what it gives, which is then settled to one configuration.
-/
theorem meaning_of_spellsLine
    {arguments : Arguments}
    {given : List Given}
    {line : List Bytes}
    (listed : arguments.Listed given)
    (nonempty : ∀ entry ∈ given, entry.1 ≠ .verbose → entry.2 ≠ [])
    (spells : CommandLine.SpellsLine given line) :
    (arguments.input = none ∨ arguments.config = none →
        CommandLine.read line = .ok (.run arguments)) ∧
      (arguments.input ≠ none → arguments.config ≠ none →
        ∃ first second,
          [first, second].Perm [.input, .config] ∧
            [first, second].Sublist (given.map Prod.fst) ∧
              CommandLine.read line = .error (.conflict first second)) ∧
      ∀ world : World,
        (world.perform (configOf arguments)).2 = world ∧
          ∀ outcome,
            (world.perform (configOf arguments)).1 = outcome ↔
              Settled arguments
                (fun path => (world.perform (loadConfig path)).1) outcome := by
  have suits : ∀ entry ∈ given, CommandLine.Suits entry.1 entry.2 := by
    rintro ⟨parameter, value⟩ member takes
    refine nonempty _ member ?_
    rintro rfl
    cases takes
  refine ⟨?_, ?_, ?_⟩
  · exact CommandLine.read_eq_ok_of_apart listed suits spells
  · exact CommandLine.exists_read_eq_conflict listed suits spells
  · intro world
    rw [perform_configOf]
    exact ⟨rfl, fun outcome => settled_iff.symm⟩

/-- A picture with a dash in front, and a bitmap with an equals sign in front. -/
theorem meaning_of_dashedPicture :
    ∃ arguments : Arguments,
      CommandLine.read
            (["--bitmap==ship.bin", "-v", "--", "-ship.png"].map
              Bytes.ofAscii) =
          .ok (.run arguments) ∧
        arguments.verbose = true ∧
          (World.empty.perform (configOf arguments)).1 =
            .ok {
              input := Path.ofString "-ship.png"
              bitmapOutput := Path.ofString "=ship.bin"
              paletteOutput :=
                (Config.withInput (Path.ofString "-ship.png")).paletteOutput
            } := by
  let arguments : Arguments := {
    input := some (Path.ofString "-ship.png")
    config := none
    bitmap := some (Path.ofString "=ship.bin")
    palette := none
    verbose := true
  }
  let given : List Given := [
    (.bitmap, Utf8.encode "=ship.bin"),
    (.verbose, []),
    (.input, Utf8.encode "-ship.png")
  ]
  have listed : arguments.Listed given := by
    refine ⟨by decide, ?_⟩
    intro parameter value
    cases parameter <;>
      simp [arguments, given, Arguments.value?, Path.ofString, eq_comm]
  have spells :
      CommandLine.SpellsLine given
        (["--bitmap==ship.bin", "-v", "--", "-ship.png"].map Bytes.ofAscii) :=
    .cons (.joined (List.mem_cons_of_mem _ List.mem_cons_self) _)
      (.cons .verboseLetter (.behindDashes _))
  obtain ⟨accepted, _, configured⟩ :=
    meaning_of_spellsLine listed (by decide) spells
  refine
    ⟨arguments, accepted (.inr rfl), rfl,
      ((configured World.empty).2 _).mpr (.named rfl rfl ?_)⟩
  exact
    ⟨rfl, by simp [arguments], by rintro ⟨⟩, by rintro _ ⟨⟩, fun _ => rfl⟩

end Program

end SpritePack
