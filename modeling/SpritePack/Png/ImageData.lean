import SpritePack.Png.Chunk
import SpritePack.Zlib

namespace SpritePack.Png

/-!
# Image data

The image data is one zlib stream, cut into pieces that are the contents of
consecutive chunks of one kind. The pieces of a frame come with numbers, which
go on from the last one before them. The run of chunks ends where a chunk of
another kind starts, so the start of that chunk must be there too.
-/

namespace ImageData

/-- The piece of the stream behind its number, if that is the one that is due. -/
def afterNumber?
    (number : Nat)
    (content : Bytes) :
    Option Bytes := do
  let (digits, piece) ← Bytes.splitExactly? 4 content
  if Bytes.bigEndian digits = number then
    some piece
  else
    none

/-- The piece of the stream in a chunk, given the number that is due if it is one of a frame. -/
def piece?
    (number : Nat)
    (chunk : ChunkHeader)
    (body : ChunkBody) :
    Option Bytes :=
  if body.passes chunk then
    if chunk.kind = .frameData then
      afterNumber? number body.content
    else
      some body.content
  else
    none

/--
Collect the pieces in a run of chunks, given the pieces so far in reverse, the
number that is due, and the start of the chunk at hand.
-/
def collectFrom?
    (pieces : List Bytes)
    (number : Nat)
    (chunk : ChunkHeader)
    (bytes : Bytes) :
    Option Bytes :=
  match _bodyRead : ChunkBody.read? chunk bytes with
  | none => none
  | some (body, rest) =>
      match piece? number chunk body with
      | none => none
      | some piece =>
          match _chunkRead : ChunkHeader.read? rest with
          | none => none
          | some (following, rest') =>
              if following.kind = chunk.kind then
                collectFrom? (piece :: pieces) (number + 1) following rest'
              else
                some (piece :: pieces).reverse.flatten
termination_by bytes.length
decreasing_by
  have := ChunkBody.length_of_read? _bodyRead
  have := ChunkHeader.length_of_read? _chunkRead
  omega

/-- The decompressed image data that starts with the given chunk. -/
def read?
    (number : Nat)
    (chunk : ChunkHeader)
    (bytes : Bytes) :
    Option Bytes := do
  let stream ← collectFrom? [] number chunk bytes
  Zlib.decompress? stream

end ImageData

end SpritePack.Png
