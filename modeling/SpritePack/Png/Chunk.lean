import SpritePack.Checksum

namespace SpritePack.Png

/-!
# Chunks

After its signature a picture file is a sequence of chunks. Each has a length,
a name of four letters, its content, and a check word over name and content.
The case of the name's first letter says whether a reader can do without the
chunk.
-/

/-- The bytes that every picture file starts with. -/
def signature : Bytes :=
  [0x89, 0x50, 0x4E, 0x47, 0x0D, 0x0A, 0x1A, 0x0A]

/-- The kinds of chunk that a reader looks into. -/
inductive ChunkKind where
  | header
  | palette
  | imageData
  | frameData
  | imageEnd
  | transparency
  | gamma
  | chromaticities
  | pixelSize
  | renderingIntent
  | animation
  | frame
  | significantBits
  | colourProfile
  | text
  | compressedText
  | internationalText
  | other
  deriving Repr, DecidableEq

/-- A name of four letters as bytes. -/
def chunkName (first second third fourth : Char) : Bytes :=
  [first.toUInt8, second.toUInt8, third.toUInt8, fourth.toUInt8]

/-- The names of the kinds, in the order of their tests. -/
def ChunkKind.names : List (Bytes × ChunkKind) := [
  (chunkName 'I' 'D' 'A' 'T', .imageData),
  (chunkName 'I' 'H' 'D' 'R', .header),
  (chunkName 'P' 'L' 'T' 'E', .palette),
  (chunkName 'I' 'E' 'N' 'D', .imageEnd),
  (chunkName 'f' 'd' 'A' 'T', .frameData),
  (chunkName 't' 'R' 'N' 'S', .transparency),
  (chunkName 'g' 'A' 'M' 'A', .gamma),
  (chunkName 'c' 'H' 'R' 'M', .chromaticities),
  (chunkName 'p' 'H' 'Y' 's', .pixelSize),
  (chunkName 's' 'R' 'G' 'B', .renderingIntent),
  (chunkName 'a' 'c' 'T' 'L', .animation),
  (chunkName 'f' 'c' 'T' 'L', .frame),
  (chunkName 's' 'B' 'I' 'T', .significantBits),
  (chunkName 'i' 'C' 'C' 'P', .colourProfile),
  (chunkName 't' 'E' 'X' 't', .text),
  (chunkName 'z' 'T' 'X' 't', .compressedText),
  (chunkName 'i' 'T' 'X' 't', .internationalText)
]

/-- The kind of chunk that a name stands for. -/
def ChunkKind.ofName (name : Bytes) : ChunkKind :=
  (ChunkKind.names.lookup name).getD .other

/-- The start of a chunk. -/
structure ChunkHeader where
  length : Nat
  name : Bytes
  deriving Repr, DecidableEq

namespace ChunkHeader

/-- The kind of the chunk. -/
def kind (header : ChunkHeader) : ChunkKind :=
  ChunkKind.ofName header.name

/-- Whether a reader cannot do without the chunk: its name starts with a capital. -/
def isCritical (header : ChunkHeader) : Bool :=
  match header.name with
  | first :: _ => !first.toNat.testBit 5
  | [] => false

/-- Read the start of a chunk. -/
def read? (bytes : Bytes) : Option (ChunkHeader × Bytes) := do
  let (length, bytes) ← Bytes.splitExactly? 4 bytes
  let (name, bytes) ← Bytes.splitExactly? 4 bytes
  some (⟨Bytes.bigEndian length, name⟩, bytes)

/-- The start of a chunk takes eight bytes. -/
theorem length_of_read?
    {header : ChunkHeader}
    {bytes rest : Bytes}
    (read : read? bytes = some (header, rest)) :
    bytes.length = 8 + rest.length := by
  simp only [read?, Option.bind_eq_bind, Option.bind_eq_some_iff,
    Option.some.injEq, Prod.mk.injEq, Prod.exists] at read
  obtain ⟨_, _, first, _, _, second, _, rfl⟩ := read
  have := Bytes.length_of_splitExactly? first
  have := Bytes.length_of_splitExactly? second
  omega

end ChunkHeader

/-- What follows the start of a chunk: the content, and whether the check word agrees. -/
structure ChunkBody where
  content : Bytes
  intact : Bool
  deriving Repr, DecidableEq

/-- Read a chunk's content and check word. -/
def ChunkBody.read?
    (header : ChunkHeader)
    (bytes : Bytes) :
    Option (ChunkBody × Bytes) := do
  let (content, bytes) ← Bytes.splitExactly? header.length bytes
  let (check, bytes) ← Bytes.splitExactly? 4 bytes
  let expected := Checksum.crc32 (header.name ++ content)
  some (⟨content, expected.toNat == Bytes.bigEndian check⟩, bytes)

/-- Whether a chunk's check word lets the picture pass: it agrees, or the chunk is not needed. -/
def ChunkBody.passes
    (header : ChunkHeader)
    (body : ChunkBody) :
    Bool :=
  body.intact || !header.isCritical

/-- The rest of a chunk takes its content and the check word. -/
theorem ChunkBody.length_of_read?
    {header : ChunkHeader}
    {body : ChunkBody}
    {bytes rest : Bytes}
    (read : ChunkBody.read? header bytes = some (body, rest)) :
    bytes.length = header.length + 4 + rest.length := by
  simp only [ChunkBody.read?, Option.bind_eq_bind, Option.bind_eq_some_iff,
    Option.some.injEq, Prod.mk.injEq, Prod.exists] at read
  obtain ⟨_, _, first, _, _, second, _, rfl⟩ := read
  have := Bytes.length_of_splitExactly? first
  have := Bytes.length_of_splitExactly? second
  omega

end SpritePack.Png
