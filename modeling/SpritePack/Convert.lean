import SpritePack.Error
import SpritePack.Host

namespace SpritePack

/-!
# Converting

A conversion loads a raster, makes a sprite of it, and writes the palette and
then the bitmap. It records what it has loaded before it judges it, and each
file once it is written. Nothing is written unless there is a sprite.
-/

variable {m : Type → Type} [Monad m] [Host m]

/-- The content of a file, or the fault for a place that has none. -/
def contentOf : Node → Except FileFault Bytes
  | .file content => .ok content
  | .directory => .error .isADirectory

/--
The raster in the file at a path. A directory can be opened but not read, so it
counts as a file that gives no raster.
-/
def Raster.ofNode
    (path : Path)
    (node : Node) :
    Except Error Raster :=
  match contentOf node with
  | .error _ => .error (.load path .undecodable)
  | .ok content =>
      match Raster.load content with
      | .error fault => .error (.load path fault)
      | .ok raster => .ok raster

/-- Load the raster at a path. -/
def loadRaster (path : Path) : ExceptT Error m Raster := do
  match ← (Host.openPath path : m _) with
  | .error cause => throw (.openImage path cause)
  | .ok node => ExceptT.mk (pure (Raster.ofNode path node))

/-- Write one of the two files of a sprite, and record it. -/
def writeOutput
    (conversion : Option Path)
    (path : Path)
    (content : Bytes) :
    ExceptT Error m Unit := do
  match ← (Host.writeFile path content : m _) with
  | .error cause => throw (.writeOutput path cause)
  | .ok () =>
      (Host.record ⟨conversion, .wroteOutput path content.length⟩ : m Unit)

/-- Write the palette of a sprite, and then its bitmap. -/
def Sprite.write
    (sprite : Sprite)
    (conversion : Option Path)
    (config : Config) :
    ExceptT Error m Unit := do
  writeOutput conversion config.paletteOutput sprite.palette
  writeOutput conversion config.bitmapOutput sprite.bitmap

/-- The sprite of a raster. -/
def spriteOf (raster : Raster) : Except Error Sprite :=
  match raster.toSprite with
  | .error fault => .error (.sprite fault)
  | .ok sprite => .ok sprite

/-- Convert the picture that a configuration names, and write the sprite. -/
def convert (config : Config) : ExceptT Error m Sprite := do
  let raster ← loadRaster config.input
  (Host.record {
    conversion := some config.input
    event :=
      .loadedImage raster.width raster.height raster.bitDepth
        raster.palette.length
  } : m Unit)
  let sprite ← ExceptT.mk (pure (spriteOf raster))
  sprite.write (some config.input) config
  return sprite

/-- The configuration in the file at a path. -/
def loadConfig (path : Path) : ExceptT Error m Config := do
  match ← (Host.openPath path : m _) with
  | .error cause => throw (.readConfig path cause)
  | .ok node =>
      match contentOf node with
      | .error cause => throw (.readConfig path cause)
      | .ok content =>
          match Utf8.decode? content with
          | none => throw (.readConfig path .notText)
          | some text =>
              match Config.parse text with
              | .error fault => throw (.config path fault)
              | .ok config => return config

end SpritePack
