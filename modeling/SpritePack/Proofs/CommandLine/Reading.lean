import Mathlib.Data.List.TakeWhile
import SpritePack.CommandLine.Grammar

namespace SpritePack.CommandLine

/-!
# Reading the forms of a command line

A reader that has gathered some parameters gathers one more from each of its
forms. A value is judged only after the arguments that follow it have come, so
the last parameter may still be waiting; nothing will be wrong with it if it is
new and its value is not empty. The induction over a line goes form by form.
-/

/-- That a value may be given to a parameter. -/
def Suits
    (parameter : Parameter)
    (value : Bytes) :
    Prop :=
  parameter.takesValue = true → value ≠ []

/-- What has been gathered: all that is judged, with what will be judged well. -/
inductive Settles (judged : List Given) : Option Pending → List Given → Prop where
  | judged :
      Settles judged none judged
  | waiting
      {parameter : Parameter}
      {value : Bytes}
      (fresh : parameter ∉ judged.map Prod.fst)
      (suits : Suits parameter value) :
      Settles judged (some ⟨parameter, some value⟩)
        (judged ++ [(parameter, value)])

/-- That a reader has gathered the given parameters. -/
structure Progress.Gathered
    (progress : Progress)
    (given : List Given) :
    Prop where
  settles :
    Settles progress.given progress.pending given
  input_mem :
    progress.inputNamed = true → .input ∈ given.map Prod.fst

namespace Progress

/-- A reader that has judged all that it has gathered. -/
def settled
    (progress : Progress)
    (given : List Given) :
    Progress :=
  { progress with given := given, pending := none }

/-- A reader for which one more parameter waits to be judged. -/
def awaiting
    (progress : Progress)
    (given : List Given)
    (parameter : Parameter)
    (value : Option Bytes) :
    Progress :=
  { progress with given := given, pending := some ⟨parameter, value⟩ }

variable
  {progress : Progress}
  {given : List Given}
  {parameter : Parameter}
  {value : Bytes}

theorem has_iff :
    progress.has parameter = true ↔
      parameter ∈ progress.given.map Prod.fst := by
  rw [has, List.any_eq_true, List.mem_map]
  constructor
  · rintro ⟨entry, member, same⟩
    exact ⟨entry, member, beq_iff_eq.mp same⟩
  · rintro ⟨entry, member, same⟩
    exact ⟨entry, member, beq_iff_eq.mpr same⟩

/-- A new parameter with a suitable value is judged well. -/
theorem give_eq_ok
    (fresh : parameter ∉ progress.given.map Prod.fst)
    (suits : Suits parameter value) :
    progress.give parameter value =
      .ok { progress with given := progress.given ++ [(parameter, value)] } := by
  have notGiven : progress.has parameter = false :=
    Bool.eq_false_iff.mpr fun given => fresh (has_iff.mp given)
  have notMissing : (parameter.takesValue && value.isEmpty) = false := by
    cases takes : parameter.takesValue with
    | false =>
        rfl
    | true =>
        exact List.isEmpty_eq_false_iff.mpr (suits takes)
  rw [give, notGiven, notMissing]
  rfl

/-- What is waiting is judged well. -/
theorem settle_eq_ok
    (settles : Settles progress.given progress.pending given) :
    progress.settle = .ok (progress.settled given) := by
  rcases progress with ⟨judged, pending, valuesOnly, inputNamed⟩
  cases settles with
  | judged =>
      rfl
  | waiting fresh suits =>
      exact give_eq_ok fresh suits

theorem takePending_eq_ok
    (settles : Settles progress.given progress.pending given)
    (parameter : Parameter)
    (waiting : Option Bytes) :
    progress.takePending parameter waiting =
      .ok (progress.awaiting given parameter waiting) := by
  rw [takePending, settle_eq_ok settles]
  rfl

section Steps

variable
  (gathered : progress.Gathered given)
  (fresh : parameter ∉ given.map Prod.fst)

include gathered

theorem Gathered.input_mem_append
    (entry : Given)
    (named : progress.inputNamed = true) :
    .input ∈ (given ++ [entry]).map Prod.fst := by
  rw [List.map_append]
  exact List.mem_append_left _ (gathered.input_mem named)

/-- A parameter that has been judged is gathered with those before it. -/
theorem gathered_settled :
    (progress.settled (given ++ [(parameter, value)])).Gathered
      (given ++ [(parameter, value)]) where
  settles :=
    .judged
  input_mem :=
    gathered.input_mem_append (parameter, value)

include fresh

theorem takeAttached_eq_ok
    (suits : Suits parameter value) :
    progress.takeAttached parameter value =
      .ok (progress.settled (given ++ [(parameter, value)])) := by
  rw [takeAttached, settle_eq_ok gathered.settles]
  exact give_eq_ok fresh suits

theorem takeFlag_verbose_eq_ok
    (isVerbose : parameter = .verbose) :
    progress.takeFlag parameter =
      .ok (progress.settled (given ++ [(parameter, [])])) := by
  subst isVerbose
  rw [takeFlag, settle_eq_ok gathered.settles]
  exact give_eq_ok fresh nofun

/-- A parameter that is waiting is gathered with those before it. -/
theorem gathered_waiting
    (suits : Suits parameter value) :
    (progress.awaiting given parameter (some value)).Gathered
      (given ++ [(parameter, value)]) where
  settles :=
    .waiting fresh suits
  input_mem :=
    gathered.input_mem_append (parameter, value)

end Steps

section Forms

variable (opened : progress.valuesOnly = false)

include opened

/-- Two dashes with something behind them introduce a name. -/
theorem take_dashes
    {text : Bytes}
    (named : text ≠ []) :
    progress.take (Bytes.ofAscii "--" ++ text) = progress.takeLong text := by
  change progress.take (dash :: dash :: text) = _
  rw [take, opened]
  simp only [Bool.false_eq_true, ↓reduceIte, named]

/-- One dash introduces letters. -/
theorem take_dash
    {letter : UInt8}
    (notDash : letter ≠ dash)
    (rest : Bytes) :
    progress.take (Bytes.ofAscii "-" ++ letter :: rest) =
      progress.takeLetters (letter :: rest) := by
  change progress.take (dash :: letter :: rest) = _
  rw [take, opened]
  simp only [Bool.false_eq_true, ↓reduceIte, notDash]

/-- An argument of its own is a value. -/
theorem take_alone
    (alone : standsAlone value = true) :
    progress.take value = progress.takeValue value := by
  rcases value with _ | ⟨first, _ | ⟨second, rest⟩⟩
  · unfold take
    rw [opened]
    rfl
  · unfold take
    rw [opened]
    rfl
  · have notDash : first ≠ dash := by
      rintro rfl
      cases alone
    unfold take
    rw [opened]
    exact if_neg notDash

end Forms

section Names

variable {name : Bytes}

theorem longName_spec
    (known : (name, parameter) ∈ longNames) :
    name ≠ [] ∧ (∀ byte ∈ name, (byte != equalsSign) = true) ∧
      Parameter.ofLongName? name = some parameter ∧
      parameter.takesValue = true := by
  simp only [longNames, List.mem_cons, List.not_mem_nil, or_false,
    Prod.mk.injEq] at known
  rcases known with ⟨rfl, rfl⟩ | ⟨rfl, rfl⟩ | ⟨rfl, rfl⟩
  · exact ⟨by decide, List.all_eq_true.mp rfl, rfl, rfl⟩
  · exact ⟨by decide, List.all_eq_true.mp rfl, rfl, rfl⟩
  · exact ⟨by decide, List.all_eq_true.mp rfl, rfl, rfl⟩

/-- A name alone leaves its parameter waiting for a value. -/
theorem takeLong_name
    (known : (name, parameter) ∈ longNames) :
    progress.takeLong name = progress.takePending parameter none := by
  obtain ⟨_, noSign, found, takes⟩ := longName_spec known
  have whole : name.takeWhile (· != equalsSign) = name :=
    List.takeWhile_eq_self_iff.mpr noSign
  have nothing : name.dropWhile (· != equalsSign) = [] :=
    List.dropWhile_eq_nil_iff.mpr noSign
  unfold takeLong
  rw [whole, nothing]
  simp only [found, List.tail?_nil, takes, ↓reduceIte]

/-- A name, an equals sign and a value come together. -/
theorem takeLong_joined
    (known : (name, parameter) ∈ longNames)
    (value : Bytes) :
    progress.takeLong (name ++ equalsSign :: value) =
      progress.takeAttached parameter value := by
  obtain ⟨_, noSign, found, takes⟩ := longName_spec known
  have before :
      (name ++ equalsSign :: value).takeWhile (· != equalsSign) = name := by
    rw [List.takeWhile_append_of_pos noSign]
    exact List.append_nil _
  have behind :
      (name ++ equalsSign :: value).dropWhile (· != equalsSign) =
        equalsSign :: value := by
    rw [List.dropWhile_append_of_pos noSign]
    rfl
  unfold takeLong
  rw [before, behind]
  simp only [found, List.tail?_cons, takes, ↓reduceIte]

end Names

section Letters

/-- What follows a letter directly is its value, unless it starts with an equals sign. -/
theorem takeLetters_attached
    (nonempty : value ≠ [])
    (noSign : value.head? ≠ some '='.toUInt8) :
    progress.takeLetters ('c'.toUInt8 :: value) =
      progress.takeAttached .config value := by
  cases value with
  | nil =>
      exact (nonempty rfl).elim
  | cons first rest =>
      have notSign : first ≠ equalsSign :=
        fun same => noSign (congrArg some same)
      have whole :
          progress.takeLetters ('c'.toUInt8 :: first :: rest) =
            progress.takeAttached .config
              (if first = equalsSign then rest else first :: rest) :=
        rfl
      rw [whole, if_neg notSign]

theorem takeLetters_verbose :
    progress.takeLetters ['v'.toUInt8] = progress.takeFlag .verbose := by
  have known : Parameter.ofLetter? 'v'.toUInt8 = some .verbose := rfl
  have bare : ¬ Parameter.verbose.takesValue = true := by decide
  rw [takeLetters, known]
  dsimp only
  rw [if_neg bare]
  cases progress.takeFlag .verbose <;> rfl

end Letters

section Values

/-- The value that is due comes. -/
theorem takeValue_due
    (due : progress.pending = some ⟨parameter, none⟩)
    (opened : progress.valuesOnly = false)
    (value : Bytes) :
    progress.takeValue value =
      .ok { progress with pending := some ⟨parameter, some value⟩ } := by
  unfold takeValue
  rw [due, opened]

/-- A reader that knows of the picture. -/
def namingInput (progress : Progress) : Progress :=
  { progress with inputNamed := true }

/-- Nothing that has been gathered is still without its value. -/
theorem not_due_of_settles
    (settles : Settles progress.given progress.pending given)
    (parameter : Parameter) :
    progress.pending ≠ some ⟨parameter, none⟩ := by
  intro due
  rw [due] at settles
  cases settles

section Input

variable (fresh : .input ∉ given.map Prod.fst)

include fresh

/-- When no value is due, a value is the picture. -/
theorem takeValue_input
    (gathered : progress.Gathered given)
    (value : Bytes) :
    progress.takeValue value =
      .ok (progress.namingInput.awaiting given .input (some value)) := by
  have notNamed : progress.inputNamed = false :=
    Bool.eq_false_iff.mpr fun named => fresh (gathered.input_mem named)
  have settles :
      Settles progress.namingInput.given progress.namingInput.pending given :=
    gathered.settles
  unfold takeValue
  split
  next parameter due _ =>
    exact (not_due_of_settles gathered.settles parameter due).elim
  next =>
    rw [notNamed]
    exact takePending_eq_ok settles .input (some value)

theorem gathered_namingInput
    (suits : Suits .input value) :
    (progress.namingInput.awaiting given .input (some value)).Gathered
      (given ++ [(.input, value)]) where
  settles :=
    .waiting fresh suits
  input_mem := by
    intro _
    rw [List.map_append]
    exact List.mem_append_right _ List.mem_cons_self

end Input

end Values

section Runs

theorem takeAll_cons
    {argument : Bytes}
    {after : Progress}
    (taken : progress.take argument = .ok after)
    (rest : List Bytes) :
    progress.takeAll (argument :: rest) = after.takeAll rest := by
  rw [takeAll, taken]

theorem takeAll_append
    {arguments : List Bytes}
    {after : Progress}
    (taken : progress.takeAll arguments = .ok after)
    (rest : List Bytes) :
    progress.takeAll (arguments ++ rest) = after.takeAll rest := by
  induction arguments generalizing progress with
  | nil =>
      cases taken
      rfl
  | cons argument arguments inductionHypothesis =>
      rw [takeAll] at taken
      cases first : progress.take argument with
      | error stop =>
          rw [first] at taken
          cases taken
      | ok middle =>
          rw [first] at taken
          exact (takeAll_cons first _).trans (inductionHypothesis taken)

section Steps

variable
  (gathered : progress.Gathered given)
  (opened : progress.valuesOnly = false)
  (fresh : parameter ∉ given.map Prod.fst)

include gathered opened fresh

/-- A parameter without a value is gathered at once. -/
theorem exists_gathered_of_takeFlag
    {argument : Bytes}
    (isVerbose : parameter = .verbose)
    (flagged : progress.take argument = progress.takeFlag parameter) :
    ∃ after, progress.takeAll [argument] = .ok after ∧
      after.Gathered (given ++ [(parameter, [])]) ∧
        after.valuesOnly = false :=
  ⟨_,
    takeAll_cons
      (flagged.trans (takeFlag_verbose_eq_ok gathered fresh isVerbose)) [],
    gathered_settled gathered, opened⟩

variable (suits : Suits parameter value)

include suits

/-- A value that comes together with its parameter is gathered at once. -/
theorem exists_gathered_of_takeAttached
    {argument : Bytes}
    (attached :
      progress.take argument = progress.takeAttached parameter value) :
    ∃ after, progress.takeAll [argument] = .ok after ∧
      after.Gathered (given ++ [(parameter, value)]) ∧
        after.valuesOnly = false :=
  ⟨_, takeAll_cons (attached.trans (takeAttached_eq_ok gathered fresh suits)) [],
    gathered_settled gathered, opened⟩

/-- A value that comes behind its parameter is gathered as one that is waiting. -/
theorem exists_gathered_of_takePending
    {argument : Bytes}
    (pending : progress.take argument = progress.takePending parameter none)
    (alone : standsAlone value = true) :
    ∃ after, progress.takeAll [argument, value] = .ok after ∧
      after.Gathered (given ++ [(parameter, value)]) ∧
        after.valuesOnly = false := by
  have named :=
    pending.trans (takePending_eq_ok gathered.settles parameter none)
  have stillOpened :
      (progress.awaiting given parameter none).valuesOnly = false :=
    opened
  have valued :
      (progress.awaiting given parameter none).take value =
        .ok (progress.awaiting given parameter (some value)) :=
    (take_alone stillOpened alone).trans (takeValue_due rfl stillOpened value)
  exact
    ⟨_, (takeAll_cons named [value]).trans (takeAll_cons valued []),
      gathered_waiting gathered fresh suits, opened⟩

/-- Any form of a parameter with its value is gathered. -/
theorem exists_gathered_of_spells
    {arguments : List Bytes}
    (spells : Spells parameter value arguments) :
    ∃ after, progress.takeAll arguments = .ok after ∧
      after.Gathered (given ++ [(parameter, value)]) ∧
        after.valuesOnly = false := by
  cases spells with
  | separate known alone =>
      have named := take_dashes opened (longName_spec known).1
      exact
        exists_gathered_of_takePending gathered opened fresh suits
          (named.trans (takeLong_name known)) alone
  | @joined name _ known =>
      have named :
          progress.take
              (Bytes.ofAscii "--" ++ name ++ Bytes.ofAscii "=" ++ value) =
            progress.takeLong (name ++ equalsSign :: value) := by
        rw [List.append_assoc, List.append_assoc]
        exact take_dashes opened (List.append_ne_nil_of_right_ne_nil _ nofun)
      exact
        exists_gathered_of_takeAttached gathered opened fresh suits
          (named.trans (takeLong_joined known value))
  | letterSeparate alone =>
      have lettered := take_dash opened (show 'c'.toUInt8 ≠ dash by decide) []
      exact
        exists_gathered_of_takePending gathered opened fresh suits
          (lettered.trans rfl) alone
  | letterJoined =>
      have lettered :=
        take_dash opened (show 'c'.toUInt8 ≠ dash by decide) (equalsSign :: value)
      exact
        exists_gathered_of_takeAttached gathered opened fresh suits
          (lettered.trans rfl)
  | letterAttached noSign =>
      have lettered :=
        take_dash opened (show 'c'.toUInt8 ≠ dash by decide) value
      exact
        exists_gathered_of_takeAttached gathered opened fresh suits
          (lettered.trans (takeLetters_attached (suits rfl) noSign))
  | verbose =>
      have named :=
        take_dashes opened (show Bytes.ofAscii "verbose" ≠ [] by decide)
      exact
        exists_gathered_of_takeFlag gathered opened fresh rfl
          (named.trans rfl)
  | verboseLetter =>
      have lettered := take_dash opened (show 'v'.toUInt8 ≠ dash by decide) []
      exact
        exists_gathered_of_takeFlag gathered opened fresh rfl
          (lettered.trans takeLetters_verbose)
  | bare alone =>
      have taken :=
        (take_alone opened alone).trans (takeValue_input fresh gathered value)
      exact
        ⟨_, takeAll_cons taken [], gathered_namingInput fresh suits,
          opened⟩

end Steps

/-- Behind two dashes, any value is the picture. -/
theorem exists_gathered_of_dashes
    (gathered : progress.Gathered given)
    (opened : progress.valuesOnly = false)
    (fresh : .input ∉ given.map Prod.fst)
    (suits : Suits .input value) :
    ∃ after, progress.takeAll [Bytes.ofAscii "--", value] = .ok after ∧
      after.Gathered (given ++ [(.input, value)]) := by
  have closed :
      progress.take (Bytes.ofAscii "--") =
        .ok { progress with valuesOnly := true } := by
    change progress.take [dash, dash] = _
    rw [take, opened]
    rfl
  have stillGathered :
      ({ progress with valuesOnly := true } : Progress).Gathered given :=
    ⟨gathered.settles, gathered.input_mem⟩
  have taken :
      ({ progress with valuesOnly := true } : Progress).take value =
        ({ progress with valuesOnly := true } : Progress).takeValue value := by
    unfold take
    exact if_pos rfl
  exact
    ⟨_, (takeAll_cons closed [value]).trans
      (takeAll_cons (taken.trans (takeValue_input fresh stillGathered value)) []),
      gathered_namingInput fresh suits⟩

theorem fresh_of_distinct
    {rest : List Given}
    (distinct : ((given ++ (parameter, value) :: rest).map Prod.fst).Nodup) :
    parameter ∉ given.map Prod.fst := by
  rw [List.map_append, List.nodup_append] at distinct
  intro member
  exact distinct.2.2 parameter member parameter List.mem_cons_self rfl

/-- A line is gathered form by form. -/
theorem exists_gathered_of_spellsLine
    {rest : List Given}
    {line : List Bytes}
    (spells : SpellsLine rest line)
    (gathered : progress.Gathered given)
    (opened : progress.valuesOnly = false)
    (distinct : ((given ++ rest).map Prod.fst).Nodup)
    (suits : ∀ entry ∈ rest, Suits entry.1 entry.2) :
    ∃ after, progress.takeAll line = .ok after ∧
      after.Gathered (given ++ rest) := by
  induction spells generalizing progress given with
  | nil =>
      rw [List.append_nil]
      exact ⟨progress, rfl, gathered⟩
  | @cons parameter value rest arguments line first _ inductionHypothesis =>
      have fresh := fresh_of_distinct distinct
      rw [List.append_cons] at distinct ⊢
      rcases
        exists_gathered_of_spells gathered opened fresh
          (suits _ List.mem_cons_self) first with
        ⟨middle, taken, middleGathered, middleOpened⟩
      rw [takeAll_append taken]
      exact
        inductionHypothesis middleGathered middleOpened distinct
          fun entry member => suits entry (List.mem_cons_of_mem _ member)
  | behindDashes value =>
      exact
        exists_gathered_of_dashes gathered opened (fresh_of_distinct distinct)
          (suits _ List.mem_cons_self)

end Runs

end Progress

end SpritePack.CommandLine
