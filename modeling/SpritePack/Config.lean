import SpritePack.Path

namespace SpritePack

/-!
# Configurations

A configuration says where to read the picture and where to write the two files
of the sprite. Unless told otherwise, the files are named after the picture in
capitals and lie in the working directory.
-/

/-- The three paths of a conversion. -/
structure Config where
  input : Path
  bitmapOutput : Path
  paletteOutput : Path
  deriving Repr, DecidableEq

namespace Config

/-- What the outputs of a conversion are called, without their extensions. -/
def outputStem (input : Path) : String :=
  match input.fileStem? with
  | some stem => UpperCase.ofString (Utf8.lossy stem)
  | none => "SPRITE"

/-- The configuration for a picture, with outputs named after it. -/
def withInput (input : Path) : Config where
  input := input
  bitmapOutput := Path.ofString (outputStem input ++ ".BIN")
  paletteOutput := Path.ofString (outputStem input ++ ".PAL")

/-- The picture that is converted when none is named. -/
def defaultInput : Path :=
  Path.ofString "dragonsprite.png"

/-- The configuration when nothing is given. -/
def default : Config :=
  withInput defaultInput

end Config

end SpritePack
