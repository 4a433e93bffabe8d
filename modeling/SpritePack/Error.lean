import SpritePack.Config.Settings
import SpritePack.FileFault
import SpritePack.Png.Load
import SpritePack.Sprite

namespace SpritePack

/-!
# Errors

Everything that can go wrong between the command line and the finished files,
with its cause and its message.
-/

/-- Why no sprite was made. -/
inductive Error where
  | openImage (path : Path) (cause : FileFault)
  | load (path : Path) (fault : LoadFault)
  /-- There is not one index for each pixel. -/
  | pixelCount (width height actual : Nat)
  | sprite (fault : SpriteFault)
  | writeOutput (path : Path) (cause : FileFault)
  | readConfig (path : Path) (cause : FileFault)
  | config (path : Path) (fault : ConfigFault)
  deriving Repr, DecidableEq

/-- The message for a file that gives no raster. -/
def LoadFault.message (path : Path) : LoadFault → String
  | .undecodable => "Failed to decode " ++ path.shown ++ " as a png"
  | .notIndexed colourType =>
      "Expected an indexed colour image, got " ++ colourType.name
  | .missingPalette => "Indexed image has no palette"
  | .capacityOverflow => "capacity overflow"

/-- The name of a sprite's part in messages. -/
def SpritePart.name : SpritePart → String
  | .bitmap => "bitmap"
  | .palette => "palette"

/-- The message for a raster that is no sprite. -/
def SpriteFault.message : SpriteFault → String
  | .invalidDimensions width height =>
      s!"The sprite size ({width}, {height}) is invalid, " ++
        s!"must be ({spriteWidth}, {spriteHeight})"
  | .tooManyColours count =>
      s!"Palette has {count} colours but can have at most {maxPaletteColours}"
  | .indexOutOfRange pixel colours =>
      s!"Pixel ({pixel.x}, {pixel.y}) uses colour {pixel.index} " ++
        s!"but the palette only has {colours} colours"
  | .partSize part expected actual =>
      s!"Packed {part.name} is {actual} bytes, expected {expected}"

/-- The message for a text that is no configuration. -/
def ConfigFault.message (path : Path) : ConfigFault → String
  | .malformed => "Failed to parse config file " ++ path.shown
  | .unsupportedVersion version =>
      "Expected version of " ++ path.shown ++ " to be " ++
        Config.supportedVersion ++ ", got " ++ version

/-- The message of an error. -/
def Error.message : Error → String
  | .openImage path _ => "Failed to open image " ++ path.shown
  | .load path fault => fault.message path
  | .pixelCount width height actual =>
      s!"A {width}x{height} image needs one index per pixel, got {actual}"
  | .sprite fault => fault.message
  | .writeOutput path _ => "Failed to write " ++ path.shown
  | .readConfig path _ => "Failed to read config file " ++ path.shown
  | .config path fault => fault.message path

/-- What the file system reported, if it is to blame. -/
def Error.cause? : Error → Option FileFault
  | .openImage _ cause => some cause
  | .writeOutput _ cause => some cause
  | .readConfig _ cause => some cause
  | _ => none

/-- Whether an error breaks the run off where it comes up, and is reported to no one. -/
def Error.breaksOff : Error → Bool
  | .load _ .capacityOverflow => true
  | _ => false

end SpritePack
