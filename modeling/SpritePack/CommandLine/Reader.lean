import SpritePack.CommandLine.Arguments

namespace SpritePack.CommandLine

/-!
# Reading command lines

Arguments are taken from left to right. Two dashes introduce a parameter by its
name, one dash introduces letters, and two dashes alone say that no parameters
follow. A parameter's value comes behind an equals sign, or directly behind its
letter, or as the next argument. It is judged only when the next parameter comes
or the line ends, so a fault in what follows may be found first.
-/

/-- The byte that introduces parameters. -/
def dash : UInt8 := 0x2D

/-- The byte between a parameter and its value. -/
def equalsSign : UInt8 := 0x3D

/-- Why reading stops before the end of the line. -/
inductive Stop where
  | help
  | version
  | fault (cause : ArgumentFault)
  deriving Repr, DecidableEq

/-- A parameter that is not judged yet, and its value if that has come. -/
structure Pending where
  parameter : Parameter
  value : Option Bytes
  deriving Repr, DecidableEq

/-- What the arguments so far have given. -/
structure Progress where
  /-- The parameters judged, in their order, with their values. -/
  given : List (Parameter × Bytes) := []
  pending : Option Pending := none
  /-- Whether no parameters may follow. -/
  valuesOnly : Bool := false
  /-- Whether the picture has been named, judged or not. -/
  inputNamed : Bool := false
  deriving Repr, DecidableEq

namespace Progress

/-- Whether a parameter has been judged. -/
def has
    (progress : Progress)
    (parameter : Parameter) :
    Bool :=
  progress.given.any (·.1 == parameter)

/-- Judge a parameter: it may not be repeated, and its value may not be empty. -/
def give
    (progress : Progress)
    (parameter : Parameter)
    (value : Bytes) :
    Except Stop Progress :=
  if progress.has parameter then
    .error (.fault (.repeated parameter))
  else if parameter.takesValue && value.isEmpty then
    .error (.fault (.missingValue parameter))
  else
    .ok { progress with given := progress.given ++ [(parameter, value)] }

/-- Judge the parameter that is not judged yet. -/
def settle (progress : Progress) : Except Stop Progress :=
  match progress.pending with
  | none => .ok progress
  | some ⟨parameter, none⟩ => .error (.fault (.missingValue parameter))
  | some ⟨parameter, some value⟩ =>
      ({ progress with pending := none }).give parameter value

/-- Take a parameter without a value. Help and version end the reading. -/
def takeFlag
    (progress : Progress)
    (parameter : Parameter) :
    Except Stop Progress := do
  let progress ← progress.settle
  match parameter with
  | .help => .error .help
  | .version => .error .version
  | _ => progress.give parameter []

/-- Take a parameter together with its value. -/
def takeAttached
    (progress : Progress)
    (parameter : Parameter)
    (value : Bytes) :
    Except Stop Progress := do
  let progress ← progress.settle
  progress.give parameter value

/-- Take a parameter whose value is the next argument, or has just come by itself. -/
def takePending
    (progress : Progress)
    (parameter : Parameter)
    (value : Option Bytes) :
    Except Stop Progress := do
  let progress ← progress.settle
  .ok { progress with pending := some ⟨parameter, value⟩ }

/-- Take what follows two dashes. -/
def takeLong
    (progress : Progress)
    (text : Bytes) :
    Except Stop Progress :=
  let name := text.takeWhile (· != equalsSign)
  let value := (text.dropWhile (· != equalsSign)).tail?
  match Parameter.ofLongName? name, value with
  | none, _ =>
      .error (.fault (.unknownArgument ("--" ++ Utf8.lossy name)))
  | some parameter, none =>
      if parameter.takesValue then
        progress.takePending parameter none
      else
        progress.takeFlag parameter
  | some parameter, some value =>
      if parameter.takesValue then
        progress.takeAttached parameter value
      else
        .error (.fault (.unexpectedValue (Utf8.lossy value) parameter))

/-- How letters are shown that start with an unknown one: that one alone, unless it is no text. -/
def shownLetters (first : UInt8) (rest : Bytes) : String :=
  match (Utf8.nextSegment first rest).1 with
  | .character letter => String.ofList ['-', letter]
  | .invalid _ => "-" ++ Utf8.lossy (first :: rest)

/-- Take the letters that follow one dash. -/
def takeLetters
    (progress : Progress) :
    Bytes → Except Stop Progress
  | [] => .ok progress
  | letter :: rest =>
      match Parameter.ofLetter? letter with
      | none => .error (.fault (.unknownArgument (shownLetters letter rest)))
      | some parameter =>
          if parameter.takesValue then
            match rest with
            | [] => progress.takePending parameter none
            | first :: value =>
                progress.takeAttached parameter
                  (if first = equalsSign then value else rest)
          else
            match progress.takeFlag parameter with
            | .error stop => .error stop
            | .ok progress => progress.takeLetters rest

/-- Take an argument that introduces no parameter: a value that is due, or the picture. -/
def takeValue
    (progress : Progress)
    (value : Bytes) :
    Except Stop Progress :=
  match progress.pending, progress.valuesOnly with
  | some ⟨parameter, none⟩, false =>
      .ok { progress with pending := some ⟨parameter, some value⟩ }
  | _, _ =>
      if progress.inputNamed then
        .error (.fault (.unknownArgument (Utf8.lossy value)))
      else
        ({ progress with inputNamed := true }).takePending .input (some value)

/-- Take the next argument. -/
def take
    (progress : Progress)
    (argument : Bytes) :
    Except Stop Progress :=
  if progress.valuesOnly then
    progress.takeValue argument
  else
    match argument with
    | first :: second :: rest =>
        if first = dash then
          if second = dash then
            if rest = [] then
              .ok { progress with valuesOnly := true }
            else
              progress.takeLong rest
          else
            progress.takeLetters (second :: rest)
        else
          progress.takeValue argument
    | _ => progress.takeValue argument

/-- Take all arguments. -/
def takeAll
    (progress : Progress) :
    List Bytes → Except Stop Progress
  | [] => .ok progress
  | argument :: rest =>
      match progress.take argument with
      | .error stop => .error stop
      | .ok progress => progress.takeAll rest

/-- The value that has been given to a parameter. -/
def value?
    (progress : Progress)
    (parameter : Parameter) :
    Option Path :=
  (progress.given.lookup parameter).map Path.mk

/-- The arguments that have been given. -/
def arguments (progress : Progress) : Arguments where
  input := progress.value? .input
  config := progress.value? .config
  bitmap := progress.value? .bitmap
  palette := progress.value? .palette
  verbose := progress.has .verbose

/-- The two parameters that exclude each other, in their order, if both have been given. -/
def conflict? (progress : Progress) : Option ArgumentFault :=
  match (progress.given.map Prod.fst).filter
      (fun parameter => parameter == .input || parameter == .config) with
  | first :: second :: _ => some (.conflict first second)
  | _ => none

/-- Judge the line as a whole, at its end. -/
def finish (progress : Progress) : Except Stop Arguments := do
  let progress ← progress.settle
  match progress.conflict? with
  | some fault => .error (.fault fault)
  | none => .ok progress.arguments

end Progress

/-- Read a command line, without the name of the program. -/
def read (arguments : List Bytes) : Except ArgumentFault Request :=
  match (do (← ({} : Progress).takeAll arguments).finish) with
  | .ok arguments => .ok (.run arguments)
  | .error .help => .ok .help
  | .error .version => .ok .version
  | .error (.fault cause) => .error cause

end SpritePack.CommandLine
