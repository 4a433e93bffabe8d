import SpritePack.Config
import SpritePack.Text.Lines
import SpritePack.Text.Quoted

namespace SpritePack.Log

/-!
# Log records

A run leaves records of what it has done. A record made during a conversion
names the picture that is being converted.
-/

/-- How much a record matters, from the most to the least. -/
inductive Level where
  | error
  | warn
  | info
  | debug
  | trace
  deriving Repr, DecidableEq

namespace Level

/-- How talkative a log must be to show the level; zero shows nothing. -/
def verbosity : Level → Nat
  | error => 1
  | warn => 2
  | info => 3
  | debug => 4
  | trace => 5

/-- The name of a level in the log. -/
def name : Level → String
  | error => "ERROR"
  | warn => "WARN"
  | info => "INFO"
  | debug => "DEBUG"
  | trace => "TRACE"

end Level

/-- The part of the program that all records come from. -/
def origin : String := "cx16_sprite_converter"

/-- What a record made during a conversion says it belongs to. -/
def conversionName : String := "convert sprite"

/-- The field that names the picture being converted. -/
def conversionField : String := "input"

/-- Something that happened. -/
inductive Event where
  | usingConfiguration (config : Config)
  | loadedImage (width height bitDepth colours : Nat)
  | wroteOutput (path : Path) (bytes : Nat)
  | convertedSprite (bitmapBytes paletteBytes : Nat)
  deriving Repr, DecidableEq

namespace Event

/-- How much an event matters. -/
def level : Event → Level
  | usingConfiguration _ => .debug
  | loadedImage .. | wroteOutput .. | convertedSprite .. => .info

/-- What happened, in words. -/
def message : Event → String
  | usingConfiguration _ => "Using configuration"
  | loadedImage .. => "Loaded image"
  | wroteOutput .. => "Wrote output"
  | convertedSprite .. => "Converted sprite"

/-- A configuration with its paths quoted. -/
def configText (config : Config) : String :=
  "ConverterConfig \x7b input: " ++ Quoted.ofBytes config.input.bytes ++
    ", bitmap_output: " ++ Quoted.ofBytes config.bitmapOutput.bytes ++
    ", palette_output: " ++ Quoted.ofBytes config.paletteOutput.bytes ++ " \x7d"

/-- The details of an event: names and values. -/
def fields : Event → List (String × String)
  | usingConfiguration config => [("config", configText config)]
  | loadedImage width height bitDepth colours => [
      ("width", toString width),
      ("height", toString height),
      ("bit_depth", toString bitDepth),
      ("colours", toString colours)
    ]
  | wroteOutput path bytes =>
      [("path", path.shown), ("bytes", toString bytes)]
  | convertedSprite bitmapBytes paletteBytes => [
      ("bitmap", toString bitmapBytes),
      ("palette", toString paletteBytes)
    ]

end Event

/-- An event, with the picture of the conversion that it is part of. -/
structure Record where
  conversion : Option Path
  event : Event
  deriving Repr, DecidableEq

namespace Record

/-- A detail as it stands in the log, behind a space. -/
def fieldText (field : String × String) : String :=
  " " ++ field.1 ++ "=" ++ field.2

/-- A record as it stands in the log, without its time. -/
def text (record : Record) : String :=
  let details := String.join (record.event.fields.map fieldText)
  let body := origin ++ ": " ++ record.event.message ++ details
  match record.conversion with
  | none => record.event.level.name ++ " " ++ body
  | some input =>
      record.event.level.name ++ " " ++ conversionName ++ ": " ++ body ++
        fieldText (conversionField, input.shown)

/-- The lines of a record, without its time and the blanks that they start with. -/
def lines (record : Record) : List String :=
  (Lines.ofText record.text).map Lines.unindented

end Record

end SpritePack.Log
