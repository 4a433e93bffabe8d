import SpritePack.Colour
import SpritePack.Png.Prelude

namespace SpritePack.Png

/-!
# Writing picture files

The written form of chunks, headers and whole pictures with indexed colours.
Main statements: each part that is written is read back.
-/

/-- The start of a chunk. -/
def ChunkHeader.write (header : ChunkHeader) : Bytes :=
  Bytes.ofWord header.length.toUInt32 ++ header.name

/-- A chunk's content and its check word. -/
def writeBody (name content : Bytes) : Bytes :=
  content ++ Bytes.ofWord (Checksum.crc32 (name ++ content))

/-- A chunk. -/
def writeChunk (name content : Bytes) : Bytes :=
  ChunkHeader.write ⟨content.length, name⟩ ++ writeBody name content

/-- The start of a chunk is read back, whatever follows it. -/
theorem ChunkHeader.read?_write
    (header : ChunkHeader)
    (rest : Bytes)
    (short : header.length < 4294967296)
    (named : header.name.length = 4) :
    ChunkHeader.read? (header.write ++ rest) = some (header, rest) := by
  have length : header.length.toUInt32.toNat = header.length := by
    simp only [Nat.toUInt32_eq, UInt32.toNat_ofNat']
    omega
  have first :=
    Bytes.splitExactly?_append (Bytes.ofWord header.length.toUInt32)
      (header.name ++ rest)
  have second := Bytes.splitExactly?_append header.name rest
  rw [Bytes.length_ofWord] at first
  rw [named] at second
  simp [ChunkHeader.read?, ChunkHeader.write, first, second,
    Bytes.bigEndian_ofWord, length]

/-- The content of a chunk is read back, and its check word is right. -/
theorem ChunkBody.read?_writeBody
    (name content rest : Bytes) :
    ChunkBody.read? ⟨content.length, name⟩ (writeBody name content ++ rest) =
      some (⟨content, true⟩, rest) := by
  have check :=
    Bytes.splitExactly?_append
      (Bytes.ofWord (Checksum.crc32 (name ++ content))) rest
  rw [Bytes.length_ofWord] at check
  simp [ChunkBody.read?, writeBody, check, Bytes.bigEndian_ofWord]

/-- The number that stands for a colour type. -/
def ColourType.code : ColourType → UInt8
  | greyscale => 0
  | rgb => 2
  | indexed => 3
  | greyscaleAlpha => 4
  | rgba => 6

@[simp] theorem ColourType.ofCode?_code
    (colourType : ColourType) :
    ColourType.ofCode? colourType.code.toNat = some colourType := by
  cases colourType <;> rfl

/-- The content of the header's chunk. -/
def Header.write (header : Header) : Bytes :=
  Bytes.ofWord header.canvas.width.toUInt32 ++
    Bytes.ofWord header.canvas.height.toUInt32 ++
    [header.depth.toUInt8, header.colourType.code, 0, 0,
      if header.interlaced then 1 else 0]

/-- What a header must be for its picture to be read. -/
structure Header.Valid (header : Header) : Prop where
  width_pos : 0 < header.canvas.width
  width_lt : header.canvas.width < 4294967296
  height_pos : 0 < header.canvas.height
  height_lt : header.canvas.height < 4294967296
  depth_mem : header.depth ∈ header.colourType.depths

/-- A valid header is read back. -/
theorem Header.parse?_write
    (header : Header)
    (valid : header.Valid) :
    Header.parse? header.write = some header := by
  obtain ⟨⟨width, height⟩, depth, colourType, interlaced⟩ := header
  have width_pos : 0 < width := valid.width_pos
  have height_pos : 0 < height := valid.height_pos
  have width_lt : width < 4294967296 := valid.width_lt
  have height_lt : height < 4294967296 := valid.height_lt
  have depth_mem : depth ∈ colourType.depths := valid.depth_mem
  have widthWord : width.toUInt32.toNat = width := by
    simp only [Nat.toUInt32_eq, UInt32.toNat_ofNat']
    omega
  have heightWord : height.toUInt32.toNat = height := by
    simp only [Nat.toUInt32_eq, UInt32.toNat_ofNat']
    omega
  have depthByte : depth.toUInt8.toNat = depth := by
    have few : depth ≤ 16 := by
      cases colourType <;> simp [ColourType.depths] at depth_mem <;> omega
    simp only [Nat.toUInt8_eq, UInt8.toNat_ofNat']
    omega
  have first := fun rest =>
    Bytes.splitExactly?_append (Bytes.ofWord width.toUInt32) rest
  have second := fun rest =>
    Bytes.splitExactly?_append (Bytes.ofWord height.toUInt32) rest
  simp only [Bytes.length_ofWord] at first second
  cases interlaced
  all_goals
    simp [Header.parse?, Header.write, first, second, Bytes.bigEndian_ofWord,
      widthWord, heightWord, depthByte, depth_mem, Nat.ne_of_gt width_pos,
      Nat.ne_of_gt height_pos]

/--
A picture file with indexed colours: the header, the palette, further chunks,
and the image data in the given pieces.
-/
def writeFile
    (header : Header)
    (palette : List Colour)
    (further : Bytes)
    (data : List Bytes) :
    Bytes :=
  signature ++
    writeChunk (chunkName 'I' 'H' 'D' 'R') header.write ++
    writeChunk (chunkName 'P' 'L' 'T' 'E') (palette.flatMap Colour.toTriple) ++
    further ++
    data.flatMap (writeChunk (chunkName 'I' 'D' 'A' 'T')) ++
    writeChunk (chunkName 'I' 'E' 'N' 'D') []

end SpritePack.Png
