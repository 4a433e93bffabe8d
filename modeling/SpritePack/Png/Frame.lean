import SpritePack.Png.Load
import SpritePack.Scanline.Access

namespace SpritePack

/-!
# Loading through a buffer

A decoder fills a buffer that is as large as the canvas, and says how large the
picture is and how long its lines are. The picture's part of that buffer is then
read pixel by pixel. Here both are done in these two steps, with the buffer and
each access to it checked, so that a picture whose sizes do not fit together
shows. Memory for a buffer that there can be is taken to be granted.
-/

namespace Png

/-- What decoding a picture gives: a buffer, and how the picture lies in it. -/
structure Frame where
  size : Size
  depth : Nat
  /-- The bytes from the start of a line to the start of the next. -/
  lineSize : Nat
  buffer : Bytes
  deriving Repr, DecidableEq

/--
Decode image data into a buffer as large as the canvas. The lines of a picture
follow each other at once; those of an interlaced picture are put where those of
the canvas start.
-/
def canvasBuffer?
    (prelude : Prelude)
    (stream : Bytes) :
    Option Bytes :=
  let header := prelude.header
  let size := prelude.frameSize
  if header.interlaced then do
    let rows ← Interlace.read? header.depth size.width size.height stream
    let scanlines := rows.map (Scanline.pack header.depth)
    let stride := header.lineSize header.canvas.width
    some (Scanline.spaced stride header.bufferSize scanlines)
  else do
    let lineSize := header.lineSize size.width
    let (scanlines, _) ← Scanline.readFiltered lineSize size.height stream
    some (Scanline.spaced lineSize header.bufferSize scanlines)

/-- Decode image data, and say how the picture lies in the buffer. -/
def frame?
    (prelude : Prelude)
    (stream : Bytes) :
    Option Frame :=
  (canvasBuffer? prelude stream).map fun buffer => {
    size := prelude.frameSize
    depth := prelude.header.depth
    lineSize := prelude.header.lineSize prelude.frameSize.width
    buffer := buffer
  }

namespace Frame

/-- The indices of the picture, from its part of the buffer. -/
def indices (frame : Frame) : Except Breach Bytes :=
  let count := frame.lineSize * frame.size.height
  if Prelude.addressLimit ≤ count then
    .error .address
  else if frame.buffer.length < count then
    .error .buffer
  else
    Scanline.readRows frame.depth frame.size.width frame.lineSize
      frame.size.height (frame.buffer.take count)

/-- The picture as a raster. -/
def raster
    (frame : Frame)
    (palette : List Colour) :
    Except Breach Raster :=
  match frame.indices with
  | .error breach => .error breach
  | .ok indices =>
      if complete : indices.length = frame.size.width * frame.size.height then
        .ok {
          width := frame.size.width
          height := frame.size.height
          bitDepth := frame.depth
          indices := indices
          palette := palette
          length_indices := complete
        }
      else
        .error .count

end Frame

/-- The frame of a picture, from the point where its image data starts. -/
def readFrame? (opening : Prelude.Opening) : Option Frame :=
  if opening.prelude.pictureCount = 0 then
    none
  else do
    let stream ←
      ImageData.read? opening.prelude.nextNumber opening.chunk opening.rest
    frame? opening.prelude stream

end Png

/--
The raster in a picture file, or its fault, unless there can be no buffer for the
canvas or an access is out of range on the way.
-/
def Raster.loadChecked (file : Bytes) : Except Breach (Except LoadFault Raster) :=
  match Png.Prelude.read? file with
  | none => .ok (.error .undecodable)
  | some opening =>
      let colourType := opening.prelude.header.colourType
      if colourType = .indexed then
        match opening.prelude.palette with
        | none => .ok (.error .missingPalette)
        | some table =>
            if Png.bufferLimit ≤ opening.prelude.header.bufferSize then
              .error .capacity
            else
              match Png.readFrame? opening with
              | none => .ok (.error .undecodable)
              | some frame => (frame.raster (Colour.ofTriples table)).map .ok
      else
        .ok (.error (.notIndexed colourType))

end SpritePack
