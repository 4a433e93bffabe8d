import SpritePack.Png.Load

namespace SpritePack

/-!
# The scanlines in a picture file

Image data is a run of filtered scanlines: those of the picture, or those of each
of its passes in turn. Here the filters are undone and nothing else, so that the
scanlines come out as they are stored.
-/

namespace Interlace

/-- The scanlines of passes of the given sizes, pass after pass; one without width has none. -/
def readScanlines?
    (depth : Nat) :
    List PassSize → Bytes → Option (List Bytes)
  | [], _ => some []
  | size :: sizes, stream =>
      if size.width = 0 then
        readScanlines? depth sizes stream
      else do
        let (scanlines, rest) ←
          Scanline.readFiltered (Scanline.size depth size.width) size.height
            stream
        let others ← readScanlines? depth sizes rest
        some (scanlines ++ others)

end Interlace

namespace Png

/-- The scanlines in decompressed image data, in their order there. -/
def storedScanlines?
    (prelude : Prelude)
    (stream : Bytes) :
    Option (List Bytes) :=
  let header := prelude.header
  let size := prelude.frameSize
  if header.interlaced then
    Interlace.readScanlines? header.depth
      (Interlace.passSizes size.width size.height) stream
  else
    (Scanline.readFiltered (header.lineSize size.width) size.height stream).map
      Prod.fst

/-- The header of a file. -/
def header? (file : Bytes) : Option Header :=
  (Prelude.read? file).map fun opening => opening.prelude.header

/-- The unfiltered scanlines of a file, in the order in which they are stored. -/
def scanlines? (file : Bytes) : Option (List Bytes) := do
  let opening ← Prelude.read? file
  let stream ←
    ImageData.read? opening.prelude.nextNumber opening.chunk opening.rest
  storedScanlines? opening.prelude stream

end Png

end SpritePack
