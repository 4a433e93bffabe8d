import SpritePack.CommandLine.Reader
import SpritePack.Convert
import SpritePack.Log.Filter

namespace SpritePack

/-!
# The program

A run reads its command line, settles the configuration, and converts. It ends
with a status, some output, and a complaint if something went wrong. The log is
filtered only when it is shown, so no setting of it can change a run.
-/

namespace Program

/-- The text that explains the command line. -/
def helpText : String :=
  "Converts indexed PNG sprites into raw 4bpp bitmap and palette files for " ++
  "the Commander X16\n\n" ++
  "Usage: cx16-sprite-converter [OPTIONS] [INPUT]\n\n" ++
  "Arguments:\n" ++
  "  [INPUT]  Indexed png to convert, defaults to dragonsprite.png\n\n" ++
  "Options:\n" ++
  "  -c, --config <CONFIG>    Read the input and output paths from a toml file\n" ++
  "      --bitmap <BITMAP>    Where to write the packed bitmap\n" ++
  "      --palette <PALETTE>  Where to write the packed palette\n" ++
  "  -v, --verbose            Log at debug level unless RUST_LOG says otherwise\n" ++
  "  -h, --help               Print help\n" ++
  "  -V, --version            Print version\n"

/-- The text that names the program and its version. -/
def versionText : String := "cx16-sprite-converter 0.1.0\n"

/-- How a run ends. -/
structure Outcome where
  exitCode : Nat
  output : String
  complaint : Option String
  deriving Repr, DecidableEq

namespace Outcome

/-- The end of a run that has only something to say. -/
def said (output : String) : Outcome where
  exitCode := 0
  output := output
  complaint := none

/-- The end of a run that has done its work. -/
def done : Outcome := said ""

/--
The end of a run that is broken off. What a build says besides the message, such as
where that came up, is left out.
-/
def brokenOff (message : String) : Outcome where
  exitCode := 101
  output := ""
  complaint := some message

/-- The end of a run whose work failed with an error that is reported. -/
def reported (error : Error) : Outcome where
  exitCode := 1
  output := ""
  complaint := some ("Error: " ++ error.message)

/-- The end of a run whose work failed. -/
def failed (error : Error) : Outcome :=
  if error.breaksOff then brokenOff error.message else reported error

/-- The end of a run whose command line has no meaning. -/
def refused (fault : ArgumentFault) : Outcome where
  exitCode := 2
  output := ""
  complaint := some fault.message

end Outcome

variable {m : Type → Type} [Monad m] [Host m]

/-- The configuration that the arguments settle. -/
def configOf (arguments : Arguments) : ExceptT Error m Config := do
  let base ←
    match arguments.config, arguments.input with
    | some path, _ => loadConfig path
    | none, some input => pure (Config.withInput input)
    | none, none => pure Config.default
  return arguments.overrideOutputs base

/-- Convert as the arguments say, with a record before and after. -/
def convertAs (arguments : Arguments) : ExceptT Error m Unit := do
  let config ← configOf arguments
  (Host.record ⟨none, .usingConfiguration config⟩ : m Unit)
  let sprite ← convert config
  (Host.record ⟨none,
    .convertedSprite sprite.bitmap.length sprite.palette.length⟩ : m Unit)

/-- Run with the given arguments. -/
def run (arguments : List Bytes) : m Outcome :=
  match CommandLine.read arguments with
  | .error fault => pure (.refused fault)
  | .ok .help => pure (.said helpText)
  | .ok .version => pure (.said versionText)
  | .ok (.run arguments) => do
      match ← (convertAs arguments : ExceptT Error m Unit).run with
      | .error error => pure (.failed error)
      | .ok () => pure .done

/-- Whether the arguments ask for a more talkative log. -/
def isVerbose (arguments : List Bytes) : Bool :=
  match CommandLine.read arguments with
  | .ok (.run arguments) => arguments.verbose
  | _ => false

/-- The records of a run that its log shows. -/
def shownRecords
    (setting : Option String)
    (arguments : List Bytes)
    (records : List Log.Record) :
    List Log.Record :=
  records.filterMap (Log.Filter.forRun setting (isVerbose arguments)).view?

/-- A line of what a run writes besides its output. -/
inductive ErrorLine where
  /-- The start of a log record, behind its time. -/
  | log (text : String)
  | plain (text : String)
  deriving Repr, DecidableEq

/-- The lines of a record. Line feeds in names go on without a time. -/
def ErrorLine.ofRecord (record : Log.Record) : List ErrorLine :=
  match Lines.ofText record.text with
  | [] => []
  | first :: rest => .log first :: rest.map .plain

/-- What a run writes besides its output: its log, and then its complaint. -/
def errorLines
    (setting : Option String)
    (arguments : List Bytes)
    (records : List Log.Record)
    (outcome : Outcome) :
    List ErrorLine :=
  let log := (shownRecords setting arguments records).flatMap ErrorLine.ofRecord
  match outcome.complaint with
  | some complaint => log ++ (Lines.ofText complaint).map .plain
  | none => log

/-- The records before the first line that does not start one. -/
def ErrorLine.leadingLog : List ErrorLine → List String
  | .log text :: rest => text :: leadingLog rest
  | _ => []

/-- The first line that does not start a record. -/
def ErrorLine.firstPlain? : List ErrorLine → Option String
  | .log _ :: rest => firstPlain? rest
  | .plain text :: _ => some text
  | [] => none

end Program

end SpritePack
