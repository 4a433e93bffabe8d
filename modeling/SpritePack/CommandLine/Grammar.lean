import SpritePack.CommandLine.Reader

namespace SpritePack

/-!
# The forms of a command line

What a command line gives can be written in any order, and each parameter with
its value in several ways. A value that looks like a parameter cannot stand as
an argument of its own, unless it is the picture and comes behind two dashes.
-/

/-- A parameter and its value, which is empty for a parameter without one. -/
abbrev Given := Parameter × Bytes

namespace Arguments

/-- The value that arguments give to a parameter. -/
def value?
    (arguments : Arguments) :
    Parameter → Option Bytes
  | .input => arguments.input.map Path.bytes
  | .config => arguments.config.map Path.bytes
  | .bitmap => arguments.bitmap.map Path.bytes
  | .palette => arguments.palette.map Path.bytes
  | .verbose => if arguments.verbose then some [] else none
  | .help | .version => none

/-- That a list has what arguments give, each parameter once, in some order. -/
structure Listed
    (arguments : Arguments)
    (given : List Given) :
    Prop where
  distinct :
    (given.map Prod.fst).Nodup
  mem_iff :
    ∀ parameter value,
      (parameter, value) ∈ given ↔ arguments.value? parameter = some value

end Arguments

namespace CommandLine

/-- The names that may stand behind two dashes, of parameters with values. -/
def longNames : List (Bytes × Parameter) := [
  (Bytes.ofAscii "config", .config),
  (Bytes.ofAscii "bitmap", .bitmap),
  (Bytes.ofAscii "palette", .palette)
]

/-- Whether a value may be an argument of its own: it has no dash in front, or is one dash. -/
def standsAlone (value : Bytes) : Bool :=
  value.head? != some '-'.toUInt8 || value == Bytes.ofAscii "-"

/-- The arguments that give a parameter its value. -/
inductive Spells : Parameter → Bytes → List Bytes → Prop where
  | separate
      {name value : Bytes}
      {parameter : Parameter}
      (known : (name, parameter) ∈ longNames)
      (alone : standsAlone value = true) :
      Spells parameter value [Bytes.ofAscii "--" ++ name, value]
  | joined
      {name : Bytes}
      {parameter : Parameter}
      (known : (name, parameter) ∈ longNames)
      (value : Bytes) :
      Spells parameter value
        [Bytes.ofAscii "--" ++ name ++ Bytes.ofAscii "=" ++ value]
  | letterSeparate
      {value : Bytes}
      (alone : standsAlone value = true) :
      Spells .config value [Bytes.ofAscii "-c", value]
  | letterJoined
      (value : Bytes) :
      Spells .config value [Bytes.ofAscii "-c=" ++ value]
  | letterAttached
      {value : Bytes}
      (noSign : value.head? ≠ some '='.toUInt8) :
      Spells .config value [Bytes.ofAscii "-c" ++ value]
  | verbose :
      Spells .verbose [] [Bytes.ofAscii "--verbose"]
  | verboseLetter :
      Spells .verbose [] [Bytes.ofAscii "-v"]
  | bare
      {value : Bytes}
      (alone : standsAlone value = true) :
      Spells .input value [value]

/-- The lines that give parameters their values in a given order. -/
inductive SpellsLine : List Given → List Bytes → Prop where
  | nil :
      SpellsLine [] []
  | cons
      {parameter : Parameter}
      {value : Bytes}
      {given : List Given}
      {arguments line : List Bytes}
      (first : Spells parameter value arguments)
      (rest : SpellsLine given line) :
      SpellsLine ((parameter, value) :: given) (arguments ++ line)
  | behindDashes
      (value : Bytes) :
      SpellsLine [(.input, value)] [Bytes.ofAscii "--", value]

end CommandLine

end SpritePack
