import SpritePack.Png.TextChunk
import SpritePack.Zlib

namespace SpritePack.Png

/-!
# Colour profiles

A picture may carry a compressed profile of its colours under a name. It has no
bearing on indices, but takes memory when it can be read.
-/

namespace ColourProfile

/--
The profile in the content of a chunk: behind a name of at most eighty bytes and
the one known compression method. Its checksum must be right.
-/
def read? (content : Bytes) : Option Bytes := do
  let (name, rest) ← TextChunk.splitAtZero? content
  match rest with
  | method :: stream =>
      if name.length = 0 ∨ 80 < name.length ∨ method ≠ 0 then
        none
      else
        Zlib.decompressIntact? stream
  | [] => none

end ColourProfile

end SpritePack.Png
