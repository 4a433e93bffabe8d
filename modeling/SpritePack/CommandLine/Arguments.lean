import SpritePack.Config
import SpritePack.Text.ControlSequence

namespace SpritePack

/-!
# Arguments

What a command line can say: the picture, or a settings file in its place, where
to write the two files, and whether to say more in the log.
-/

/-- Something that a command line can give. -/
inductive Parameter where
  | input
  | config
  | bitmap
  | palette
  | verbose
  | help
  | version
  deriving Repr, DecidableEq

namespace Parameter

/-- Whether the parameter comes with a value. -/
def takesValue : Parameter → Bool
  | input | config | bitmap | palette => true
  | verbose | help | version => false

/-- The parameter in messages. -/
def shown : Parameter → String
  | input => "[INPUT]"
  | config => "--config <CONFIG>"
  | bitmap => "--bitmap <BITMAP>"
  | palette => "--palette <PALETTE>"
  | verbose => "--verbose"
  | help => "--help"
  | version => "--version"

/-- The parameter with the given long name. -/
def ofLongName? (name : Bytes) : Option Parameter :=
  [
    (Bytes.ofAscii "config", config),
    (Bytes.ofAscii "bitmap", bitmap),
    (Bytes.ofAscii "palette", palette),
    (Bytes.ofAscii "verbose", verbose),
    (Bytes.ofAscii "help", help),
    (Bytes.ofAscii "version", version)
  ].lookup name

/-- The parameter with the given letter. -/
def ofLetter? (letter : UInt8) : Option Parameter :=
  [
    ('c'.toUInt8, config),
    ('v'.toUInt8, verbose),
    ('h'.toUInt8, help),
    ('V'.toUInt8, version)
  ].lookup letter

end Parameter

/-- Why a command line has no meaning. -/
inductive ArgumentFault where
  | unknownArgument (shown : String)
  | missingValue (parameter : Parameter)
  | repeated (parameter : Parameter)
  | conflict (first second : Parameter)
  | unexpectedValue (value : String) (parameter : Parameter)
  deriving Repr, DecidableEq

/-- The message of a fault. What the user has typed is shown without control sequences. -/
def ArgumentFault.message : ArgumentFault → String
  | unknownArgument shown =>
      "error: unexpected argument '" ++ ControlSequence.strip shown ++ "' found"
  | missingValue parameter =>
      "error: a value is required for '" ++ parameter.shown ++
        "' but none was supplied"
  | repeated parameter =>
      "error: the argument '" ++ parameter.shown ++
        "' cannot be used multiple times"
  | conflict first second =>
      "error: the argument '" ++ first.shown ++ "' cannot be used with '" ++
        second.shown ++ "'"
  | unexpectedValue value parameter =>
      "error: unexpected value '" ++ ControlSequence.strip value ++ "' for '" ++
        parameter.shown ++ "' found; no more were expected"

/-- The meaning of a command line. -/
structure Arguments where
  input : Option Path
  config : Option Path
  bitmap : Option Path
  palette : Option Path
  verbose : Bool
  deriving Repr, DecidableEq

/-- What a command line asks for. -/
inductive Request where
  | help
  | version
  | run (arguments : Arguments)
  deriving Repr, DecidableEq

/-- A configuration with the outputs that a command line gives. -/
def Arguments.overrideOutputs
    (arguments : Arguments)
    (base : Config) :
    Config where
  input := base.input
  bitmapOutput := arguments.bitmap.getD base.bitmapOutput
  paletteOutput := arguments.palette.getD base.paletteOutput

end SpritePack
