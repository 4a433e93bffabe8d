import SpritePack.Interlace
import SpritePack.Png.ImageData
import SpritePack.Png.Prelude
import SpritePack.Raster

namespace SpritePack

/-!
# Loading rasters from picture files

Only indexed pictures with a palette become rasters. What comes before the image
data decides first: a file that cannot be read so far is undecodable, then the
colour type is judged, then the palette. Then a buffer is made for the whole
canvas, and only then is the image data looked at. The size of the canvas is
only a claim of the file, and there is no buffer for each size that can be claimed.
-/

/-- Why a file gives no raster. -/
inductive LoadFault where
  | undecodable
  | notIndexed (colourType : Png.ColourType)
  | missingPalette
  /--
  No buffer can hold the canvas. This is not reported as the other faults are, but
  breaks the run off.
  -/
  | capacityOverflow
  deriving Repr, DecidableEq

namespace Png

/-- The first number of bytes that is too large for a buffer. -/
def bufferLimit : Nat := 0x8000000000000000

/--
The scanlines of a picture, end to end, from its decompressed image data. The
rows of an interlaced picture are laid out as wide as the canvas, and then taken
as wide as the picture itself.
-/
def scanlineBuffer?
    (prelude : Prelude)
    (stream : Bytes) :
    Option Bytes :=
  let header := prelude.header
  let size := prelude.frameSize
  let lineSize := header.lineSize size.width
  if header.interlaced then do
    let rows ← Interlace.read? header.depth size.width size.height stream
    let scanlines := rows.map (Scanline.pack header.depth)
    let stride := header.lineSize header.canvas.width
    some (Scanline.spaced stride (lineSize * size.height) scanlines)
  else do
    let (scanlines, _) ← Scanline.readFiltered lineSize size.height stream
    some scanlines.flatten

/-- The indices of an indexed picture from its decompressed image data. -/
def indices?
    (prelude : Prelude)
    (stream : Bytes) :
    Option Bytes :=
  let size := prelude.frameSize
  let lineSize := prelude.header.lineSize size.width
  (scanlineBuffer? prelude stream).map <|
    Scanline.unpackAll prelude.header.depth size.width lineSize size.height

/-- The raster of an indexed picture, from the point where its image data starts. -/
def readRaster?
    (opening : Prelude.Opening)
    (palette : List Colour) :
    Option Raster :=
  if opening.prelude.pictureCount = 0 then
    none
  else do
    let stream ←
      ImageData.read? opening.prelude.nextNumber opening.chunk opening.rest
    let indices ← indices? opening.prelude stream
    let size := opening.prelude.frameSize
    if complete : indices.length = size.width * size.height then
      some {
        width := size.width
        height := size.height
        bitDepth := opening.prelude.header.depth
        indices := indices
        palette := palette
        length_indices := complete
      }
    else
      none

end Png

/-- The raster in a picture file. -/
def Raster.load (file : Bytes) : Except LoadFault Raster :=
  match Png.Prelude.read? file with
  | none => .error .undecodable
  | some opening =>
      let colourType := opening.prelude.header.colourType
      if colourType = .indexed then
        match opening.prelude.palette with
        | none => .error .missingPalette
        | some table =>
            if Png.bufferLimit ≤ opening.prelude.header.bufferSize then
              .error .capacityOverflow
            else
              match Png.readRaster? opening (Colour.ofTriples table) with
              | none => .error .undecodable
              | some raster => .ok raster
      else
        .error (.notIndexed colourType)

end SpritePack
