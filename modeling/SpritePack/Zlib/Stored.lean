import SpritePack.Checksum
import SpritePack.Deflate.Stored
import SpritePack.Zlib

namespace SpritePack.Zlib

/-!
# Stored streams

A stream whose content is not compressed, but complete: header, stored blocks,
and the checksum of the content.
-/

/--
The stream that stores the given contents, each in a block of its own, behind a
header of the given two bytes.
-/
def storeUnder
    (method flags : UInt8)
    (contents : List Bytes) :
    Bytes :=
  method :: flags ::
    (Deflate.storeBlocks contents ++
      Bytes.ofWord (Checksum.adler32 contents.flatten))

/-- The stream that stores the given contents behind the usual header. -/
def store (contents : List Bytes) : Bytes :=
  storeUnder 0x78 0x01 contents

section Reading

variable
  {method flags : UInt8}
  {contents : List Bytes}

/-- A stored stream is read back with its checksum. -/
theorem read?_storeUnder
    (header : isHeader method flags = true)
    (short : ∀ content ∈ contents, content.length < 65536)
    (rest : Bytes) :
    read? (storeUnder method flags contents ++ rest) =
      some (contents.flatten, Bytes.ofWord (Checksum.adler32 contents.flatten)) := by
  have content :=
    Deflate.inflate?_storeBlocks contents
      (Bytes.ofWord (Checksum.adler32 contents.flatten) ++ rest) short
  simp only [read?, storeUnder, List.cons_append, List.append_assoc, header,
    ↓reduceIte, content]
  simp [Bytes.ofWord]

/-- A stored stream decompresses to its contents, end to end. -/
theorem decompress?_storeUnder
    (header : isHeader method flags = true)
    (short : ∀ content ∈ contents, content.length < 65536)
    (rest : Bytes) :
    decompress? (storeUnder method flags contents ++ rest) =
      some contents.flatten := by
  rw [decompress?, read?_storeUnder header short rest, Option.map_some]

end Reading

/-- The usual header is one. -/
theorem isHeader_usual : isHeader 0x78 0x01 = true := by
  decide

end SpritePack.Zlib
