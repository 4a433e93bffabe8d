import SpritePack.Checksum
import SpritePack.Deflate.Inflate

namespace SpritePack

/-!
# Zlib streams

A zlib stream wraps compressed data in a header of two bytes and a checksum of
four. The header says how the data is compressed and is a multiple of 31 as a
number. The checksum must be present, but image data is accepted whatever its
value is.
-/

namespace Zlib

/-- Whether two bytes are the header of a stream in the one known method, without a dictionary. -/
def isHeader (method flags : UInt8) : Bool :=
  method.toNat % 16 == 8 &&
    method.toNat / 16 ≤ 7 &&
    !flags.toNat.testBit 5 &&
    (method.toNat * 256 + flags.toNat) % 31 == 0

/-- The content of a complete stream, and its checksum; bytes after it are ignored. -/
def read? : Bytes → Option (Bytes × Bytes)
  | method :: flags :: data =>
      if isHeader method flags then
        match Deflate.inflate? data with
        | some (content, a :: b :: c :: d :: _) => some (content, [a, b, c, d])
        | _ => none
      else
        none
  | _ => none

/-- The content of a complete stream, whatever its checksum. -/
def decompress? (stream : Bytes) : Option Bytes :=
  (read? stream).map Prod.fst

/-- The content of a complete stream with the right checksum. -/
def decompressIntact? (stream : Bytes) : Option Bytes := do
  let (content, check) ← read? stream
  if (Checksum.adler32 content).toNat = Bytes.bigEndian check then
    some content
  else
    none

end Zlib

end SpritePack
