import SpritePack.Png.Writer

namespace SpritePack.Png

/-!
# Leads

The lead of a picture file is what it starts with: the signature, the chunks up
to the first one with image data, and the start of that chunk. Chunks are taken
as they stand in the file, whether or not their check words are right.
-/

/-- A chunk as it stands in a file. -/
structure Chunk where
  name : Bytes
  content : Bytes
  check : Bytes
  length_name : name.length = 4
  content_lt : content.length < 4294967296
  length_check : check.length = 4

namespace Chunk

/-- The start of the chunk. -/
def header (chunk : Chunk) : ChunkHeader :=
  ⟨chunk.content.length, chunk.name⟩

/-- The kind of the chunk. -/
def kind (chunk : Chunk) : ChunkKind :=
  chunk.header.kind

@[simp] theorem kind_header
    (chunk : Chunk) :
    chunk.header.kind = chunk.kind := rfl

/-- What a reader finds behind the start of the chunk. -/
def body (chunk : Chunk) : ChunkBody where
  content := chunk.content
  intact :=
    (Checksum.crc32 (chunk.name ++ chunk.content)).toNat ==
      Bytes.bigEndian chunk.check

/-- The bytes of the chunk. -/
def bytes (chunk : Chunk) : Bytes :=
  chunk.header.write ++ (chunk.content ++ chunk.check)

/-- Whether the chunk holds a table of colours. An empty one holds none. -/
def HasColours (chunk : Chunk) : Prop :=
  chunk.kind = .palette ∧ chunk.content ≠ []

/-- The chunk with the right check word. -/
def ofContent
    (name content : Bytes)
    (length_name : name.length = 4)
    (content_lt : content.length < 4294967296) :
    Chunk where
  name := name
  content := content
  check := Bytes.ofWord (Checksum.crc32 (name ++ content))
  length_name := length_name
  content_lt := content_lt
  length_check := Bytes.length_ofWord _

section OfContent

variable
  {name content : Bytes}
  (length_name : name.length = 4)
  (content_lt : content.length < 4294967296)

@[simp] theorem kind_ofContent :
    (ofContent name content length_name content_lt).kind =
      ChunkKind.ofName name := rfl

/-- A chunk with the right check word is found to be intact. -/
@[simp] theorem body_ofContent :
    (ofContent name content length_name content_lt).body =
      ⟨content, true⟩ := by
  simp [body, ofContent, Bytes.bigEndian_ofWord]

end OfContent

end Chunk

/-- Whether a chunk of this kind holds image data. -/
def ChunkKind.HoldsImage (kind : ChunkKind) : Prop :=
  kind = .imageData ∨ kind = .frameData

/-- What a file starts with, up to the start of its first chunk with image data. -/
structure Lead where
  chunks : List Chunk
  start : ChunkHeader
  before : ∀ chunk ∈ chunks, ¬ chunk.kind.HoldsImage
  holdsImage : start.kind.HoldsImage
  length_lt : start.length < 4294967296
  length_name : start.name.length = 4

namespace Lead

/-- The bytes of a lead. -/
def bytes (lead : Lead) : Bytes :=
  signature ++ lead.chunks.flatMap Chunk.bytes ++ lead.start.write

/-- The header that the first header chunk with content describes. -/
def header? (lead : Lead) : Option Header :=
  (lead.chunks.find? fun chunk =>
      chunk.kind == .header && !chunk.content.isEmpty).bind
    fun chunk => Header.parse? chunk.content

/-- Whether a table of colours comes before the image data. -/
def HasPalette (lead : Lead) : Prop :=
  ∃ chunk ∈ lead.chunks, chunk.HasColours

end Lead

namespace Prelude

/-- What one chunk before the image data does to what has been settled, if anything. -/
def step?
    (known : Option Prelude)
    (chunk : Chunk) :
    Option (Option Prelude) :=
  if known.isNone ∧ chunk.kind ≠ .header ∨ chunk.kind = .imageEnd then
    none
  else
    (next? known chunk.body chunk.kind).filter fun _ =>
      chunk.body.passes chunk.header

end Prelude

/-- What the chunks of a lead settle, if the image data may start behind them. -/
def Lead.prelude? (lead : Lead) : Option Prelude :=
  (lead.chunks.foldlM Prelude.step? none).bind fun known =>
    known.filter fun prelude => prelude.admitsData lead.start

end SpritePack.Png
