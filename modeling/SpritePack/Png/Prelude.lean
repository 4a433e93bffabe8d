import SpritePack.Png.Chunk
import SpritePack.Png.ColourProfile
import SpritePack.Png.Header
import SpritePack.Png.Memory
import SpritePack.Png.TextChunk

namespace SpritePack.Png

/-!
# What comes before the image data

The chunks before the first one with image data settle everything but the
pixels: the header, the palette, and for an animated picture the size of its
first frame. The image data may be that of the picture or of a frame that has
been announced. Each chunk with content is checked as it comes. A chunk without
content says nothing and is passed over, except that its check word must be
right if a reader could not do without it.
-/

/-- What the chunks so far have settled. -/
structure Prelude where
  header : Header
  /-- The content of the palette chunk. -/
  palette : Option Bytes := none
  /-- The kinds that have come and may not come again. -/
  seen : List ChunkKind := []
  /-- The memory that is left. -/
  memory : Memory
  /-- The number of frames of an animation. -/
  frames : Option Nat := none
  /-- The number of the last frame announced. -/
  sequence : Option Nat := none
  /-- The size of the last frame announced. -/
  frame : Option Size := none
  deriving Repr, DecidableEq

namespace Prelude

/-- The size of the picture that the first image data holds. -/
def frameSize (prelude : Prelude) : Size :=
  prelude.frame.getD prelude.header.canvas

/-- How many pictures follow, counting one outside the animation. -/
def pictureCount (prelude : Prelude) : Nat :=
  match prelude.frames with
  | none => 1
  | some count => if prelude.frame.isSome then count else count + 1

/-- Note a kind that may come only once. -/
def once?
    (prelude : Prelude)
    (kind : ChunkKind)
    (valid : Bool) :
    Option Prelude :=
  if valid ∧ kind ∉ prelude.seen then
    some { prelude with seen := kind :: prelude.seen }
  else
    none

/-- Take memory for the content of a chunk. -/
def retain?
    (prelude : Prelude)
    (content : Bytes) :
    Option Prelude :=
  (prelude.memory.reserve? content.length).map fun memory =>
    { prelude with memory := memory }

/-- Whether the content says for each sample how many of its bits count, at least one. -/
def areSignificantBits
    (prelude : Prelude)
    (content : Bytes) :
    Bool :=
  content.length == prelude.header.colourType.channels &&
    content.all fun bits =>
      1 ≤ bits.toNat && bits.toNat ≤ prelude.header.channelDepth

/--
Note how many bits of the samples count. That may be said once, before the
palette; what is said wrongly takes memory all the same, if there is room.
-/
def noteSignificantBits
    (prelude : Prelude)
    (content : Bytes) :
    Prelude :=
  if prelude.palette.isSome ∨ .significantBits ∈ prelude.seen then
    prelude
  else
    match prelude.memory.reserve? content.length with
    | none => prelude
    | some memory =>
        if prelude.areSignificantBits content then
          { prelude with
            memory := memory
            seen := .significantBits :: prelude.seen }
        else
          { prelude with memory := memory }

/-- Note a colour profile. Only the first counts, which takes memory when it can be read. -/
def noteColourProfile
    (prelude : Prelude)
    (content : Bytes) :
    Prelude :=
  if .colourProfile ∈ prelude.seen then
    prelude
  else
    { prelude with
      memory :=
        match ColourProfile.read? content with
        | some profile => prelude.memory.reserveIfRoom profile.length
        | none => prelude.memory
      seen := .colourProfile :: prelude.seen }

/-- The number that the next announcement or piece of a frame must have. -/
def nextNumber (prelude : Prelude) : Nat :=
  (prelude.sequence.map (· + 1)).getD 0

/--
Whether transparency of this length may come now. A table needs the palette
first, and pictures with an alpha sample have no use for it.
-/
def admitsTransparency
    (prelude : Prelude)
    (length : Nat) :
    Bool :=
  match prelude.header.colourType with
  | .greyscale => 2 ≤ length
  | .rgb => 6 ≤ length
  | .indexed => prelude.palette.isSome
  | .greyscaleAlpha | .rgba => false

/-- Note the announcement of a frame, which must be the next one and lie within the canvas. -/
def announceFrame?
    (prelude : Prelude)
    (content : Bytes) :
    Option Prelude := do
  let (sequence, content) ← Bytes.splitExactly? 4 content
  let (width, content) ← Bytes.splitExactly? 4 content
  let (height, content) ← Bytes.splitExactly? 4 content
  let (left, content) ← Bytes.splitExactly? 4 content
  let (top, content) ← Bytes.splitExactly? 4 content
  let (_, content) ← Bytes.splitExactly? 4 content
  let number := Bytes.bigEndian sequence
  let size : Size := ⟨Bytes.bigEndian width, Bytes.bigEndian height⟩
  match content with
  | dispose :: blend :: _ =>
      if number = prelude.nextNumber ∧ dispose.toNat ≤ 2 ∧ blend.toNat ≤ 1 ∧
          0 < size.width ∧ 0 < size.height ∧
          Bytes.bigEndian left + size.width ≤ prelude.header.canvas.width ∧
          Bytes.bigEndian top + size.height ≤ prelude.header.canvas.height then
        some { prelude with sequence := some number, frame := some size }
      else
        none
  | _ => none

/-- Take in the content of a chunk, which is not empty. -/
def accept?
    (prelude : Prelude)
    (kind : ChunkKind)
    (content : Bytes) :
    Option Prelude :=
  match kind with
  | .header | .frameData => none
  | .palette =>
      ((prelude.once? kind true).bind (·.retain? content)).map
        fun prelude => { prelude with palette := some content }
  | .transparency =>
      (prelude.once? kind (prelude.admitsTransparency content.length)).bind
        (·.retain? content)
  | .gamma => prelude.once? kind (4 ≤ content.length)
  | .chromaticities => prelude.once? kind (32 ≤ content.length)
  | .pixelSize =>
      prelude.once? kind <|
        match content.drop 8 with
        | unit :: _ => unit.toNat ≤ 1
        | [] => false
  | .renderingIntent =>
      prelude.once? kind ((content.headD 0).toNat ≤ 3)
  | .animation =>
      if 8 ≤ content.length then
        some { prelude with frames := some (Bytes.bigEndian (content.take 4)) }
      else
        none
  | .frame => prelude.announceFrame? content
  | .significantBits => some (prelude.noteSignificantBits content)
  | .colourProfile => some (prelude.noteColourProfile content)
  | .text =>
      if TextChunk.isPlain content then prelude.retain? content else none
  | .compressedText =>
      if TextChunk.isCompressed content then prelude.retain? content else none
  | .internationalText =>
      if TextChunk.isInternational content then prelude.retain? content else none
  | .imageData | .imageEnd | .other => some prelude

/-- Take in a chunk, when the chunks before it have settled what is given, if anything. -/
def next?
    (known : Option Prelude)
    (body : ChunkBody)
    (kind : ChunkKind) :
    Option (Option Prelude) :=
  if body.content.isEmpty then
    some known
  else
    match known with
    | none => do
        let memory ← Memory.hold? {} body.content.length
        let header ← Header.parse? body.content
        some (some { header := header, memory := memory })
    | some prelude => do
        let memory ← prelude.memory.hold? body.content.length
        let prelude ← { prelude with memory := memory }.accept? kind body.content
        some (some prelude)

/-- The first number of bytes that cannot be addressed. -/
def addressLimit : Nat := 0x10000000000000000

/-- Whether the picture can be addressed as a whole, and a row of it fits into memory. -/
def fits (prelude : Prelude) : Bool :=
  prelude.header.lineSize prelude.header.canvas.width *
      prelude.header.canvas.height < addressLimit &&
    prelude.header.lineSize prelude.frameSize.width ≤ prelude.memory.room

/--
Whether a chunk's start may open the image data: that of a frame must have been
announced, and starts with a number of four bytes.
-/
def admitsData
    (prelude : Prelude)
    (chunk : ChunkHeader) :
    Bool :=
  prelude.fits &&
    (chunk.kind == .imageData || prelude.frame.isSome && 4 ≤ chunk.length)

/-- All that comes before the image data, and the data from its first chunk's content on. -/
structure Opening where
  prelude : Prelude
  /-- The start of the first chunk with image data. -/
  chunk : ChunkHeader
  rest : Bytes
  deriving Repr, DecidableEq

/--
Read chunks up to the start of the first one with image data. The first chunk
must be the header.
-/
def readFrom?
    (known : Option Prelude)
    (bytes : Bytes) :
    Option Opening :=
  match _chunkRead : ChunkHeader.read? bytes with
  | none => none
  | some (chunk, rest) =>
      if known.isNone ∧ chunk.kind ≠ .header then
        none
      else if chunk.kind = .imageData ∨ chunk.kind = .frameData then
        match known with
        | none => none
        | some prelude =>
            if prelude.admitsData chunk then
              some ⟨prelude, chunk, rest⟩
            else
              none
      else if chunk.kind = .imageEnd then
        none
      else
        match _bodyRead : ChunkBody.read? chunk rest with
        | none => none
        | some (body, rest') =>
            match next? known body chunk.kind with
            | none => none
            | some settled =>
                if body.passes chunk then readFrom? settled rest' else none
termination_by bytes.length
decreasing_by
  have := ChunkHeader.length_of_read? _chunkRead
  have := ChunkBody.length_of_read? _bodyRead
  omega

/-- Read a picture file up to its image data. -/
def read? (file : Bytes) : Option Opening := do
  let (start, rest) ← Bytes.splitExactly? 8 file
  if start = signature then
    readFrom? none rest
  else
    none

end Prelude

end SpritePack.Png
