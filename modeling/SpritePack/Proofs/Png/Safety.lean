import SpritePack.Convert
import SpritePack.Png.Frame
import SpritePack.Proofs.Png.Framing
import SpritePack.Proofs.Png.Loading
import SpritePack.Proofs.Scanline.Access
import SpritePack.Proofs.Scanline.Filtering
import SpritePack.Proofs.Scanline.Spacing
import SpritePack.Zlib.Stored

namespace SpritePack

/-!
# Loading is safe on canvases that a buffer can hold

Any bytes may be handed to the loader.  If they claim a canvas that no buffer can
hold, the loading is broken off.  Whatever other sizes they claim, a picture that
can be decoded lies in its buffer with full lines and whole pixels, so that no
access is out of range, and the raster has an index of the right depth for each
of its pixels.  All other bytes are refused with one of three faults.
-/

namespace Png

/-- That a frame's sizes fit together. -/
structure Frame.Sound (frame : Frame) : Prop where
  width_pos : 0 < frame.size.width
  height_pos : 0 < frame.size.height
  depth_mem : frame.depth ∈ Scanline.depths
  lineSize_eq :
    frame.lineSize = Scanline.size frame.depth frame.size.width
  addressable :
    frame.lineSize * frame.size.height < Prelude.addressLimit
  enough :
    frame.lineSize * frame.size.height ≤ frame.buffer.length

/-- The part of the buffer that the picture takes. -/
def Frame.content (frame : Frame) : Bytes :=
  frame.buffer.take (frame.lineSize * frame.size.height)

namespace Frame.Sound

variable
  {frame : Frame}
  (sound : frame.Sound)

include sound

theorem length_content :
    frame.content.length =
      Scanline.size frame.depth frame.size.width * frame.size.height := by
  have enough := sound.enough
  rw [content, List.length_take, Nat.min_eq_left enough, sound.lineSize_eq]

/-- The indices of a sound frame are read without an access out of range. -/
theorem indices_eq_ok :
    frame.indices =
      .ok
        (Scanline.unpackAll frame.depth frame.size.width frame.lineSize
          frame.size.height frame.content) := by
  have read :=
    Scanline.readRows_eq_ok sound.depth_mem sound.width_pos
      sound.length_content
  rw [← sound.lineSize_eq] at read
  rw [indices, if_neg (Nat.not_le.mpr sound.addressable),
    if_neg (Nat.not_lt.mpr sound.enough)]
  exact read

/-- They are one for each pixel. -/
theorem length_unpackAll_content :
    (Scanline.unpackAll frame.depth frame.size.width frame.lineSize
        frame.size.height frame.content).length =
      frame.size.width * frame.size.height := by
  rw [sound.lineSize_eq]
  exact
    Scanline.length_unpackAll sound.depth_mem sound.width_pos
      sound.length_content

end Frame.Sound

section Decoding

variable
  {prelude : Prelude}
  {stream : Bytes}
  (sound : prelude.Sound)
  (indexed : prelude.header.colourType = .indexed)

include sound indexed

theorem depth_mem_of_indexed : prelude.header.depth ∈ Scanline.depths := by
  have standard := sound.valid.depth_mem
  rw [indexed] at standard
  exact standard

/-- The buffer of the canvas has room for the frame. -/
theorem frame_le_bufferSize :
    prelude.header.lineSize prelude.frameSize.width *
        prelude.frameSize.height ≤
      prelude.header.bufferSize := by
  have within := sound.frameSize_within
  rw [Header.bufferSize, Header.lineSize_of_indexed indexed,
    Header.lineSize_of_indexed indexed]
  exact
    Nat.mul_le_mul (Scanline.size_le_size within.width_le) within.height_le

omit sound indexed in
/-- The buffer is as large as the canvas, whatever has been decoded into it. -/
theorem length_of_canvasBuffer?
    {buffer : Bytes}
    (decoded : canvasBuffer? prelude stream = some buffer) :
    buffer.length = prelude.header.bufferSize := by
  unfold canvasBuffer? at decoded
  dsimp only at decoded
  split at decoded
  next =>
    obtain ⟨rows, _, filled⟩ := Option.bind_eq_some_iff.mp decoded
    rw [← Option.some.inj filled, Scanline.length_spaced]
  next =>
    obtain ⟨⟨lines, _⟩, _, filled⟩ := Option.bind_eq_some_iff.mp decoded
    rw [← Option.some.inj filled, Scanline.length_spaced]

/-- The sizes of a decoded frame fit together. -/
theorem sound_of_frame?
    {frame : Frame}
    (fits : prelude.fits = true)
    (decoded : frame? prelude stream = some frame) :
    frame.Sound := by
  have within := sound.frameSize_within
  have enough := frame_le_bufferSize sound indexed
  obtain ⟨buffer, filled, rfl⟩ := Option.map_eq_some_iff.mp decoded
  have length := length_of_canvasBuffer? filled
  exact {
    width_pos := within.width_pos
    height_pos := within.height_pos
    depth_mem := depth_mem_of_indexed sound indexed
    lineSize_eq := Header.lineSize_of_indexed indexed _
    addressable :=
      Nat.lt_of_le_of_lt enough
        (of_decide_eq_true (Bool.and_eq_true_iff.mp fits).1)
    enough := by
      rw [length]
      exact enough
  }

/-- The scanlines of a picture are what stands at the start of the canvas's buffer. -/
theorem scanlineBuffer?_eq :
    scanlineBuffer? prelude stream =
      (canvasBuffer? prelude stream).map
        (List.take
          (prelude.header.lineSize prelude.frameSize.width *
            prelude.frameSize.height)) := by
  have enough := frame_le_bufferSize sound indexed
  have standard := depth_mem_of_indexed sound indexed
  have lineSizePos :
      0 < prelude.header.lineSize prelude.frameSize.width := by
    rw [Header.lineSize_of_indexed indexed]
    exact Scanline.size_pos standard sound.frameSize_within.width_pos
  have stridePos :
      0 < prelude.header.lineSize prelude.header.canvas.width := by
    rw [Header.lineSize_of_indexed indexed]
    exact Scanline.size_pos standard sound.valid.width_pos
  rw [scanlineBuffer?, canvasBuffer?]
  dsimp only
  by_cases interlaced : prelude.header.interlaced = true
  · rw [if_pos interlaced, if_pos interlaced]
    cases
      Interlace.read? prelude.header.depth prelude.frameSize.width
        prelude.frameSize.height stream with
    | none =>
        rfl
    | some rows =>
        exact congrArg some (Scanline.take_spaced stridePos enough).symm
  · rw [if_neg interlaced, if_neg interlaced]
    cases read :
      Scanline.readFiltered
        (prelude.header.lineSize prelude.frameSize.width)
        prelude.frameSize.height stream with
    | none =>
        rfl
    | some result =>
        obtain ⟨lines, rest⟩ := result
        obtain ⟨count, sized⟩ := Scanline.sized_of_readFiltered read
        have spaced := Scanline.spaced_of_sized lineSizePos sized
        rw [count, ← Scanline.take_spaced lineSizePos enough] at spaced
        exact congrArg some spaced.symm

/-- The indices of a picture are those of its frame. -/
theorem indices?_eq :
    indices? prelude stream =
      (frame? prelude stream).map fun frame =>
        Scanline.unpackAll frame.depth frame.size.width frame.lineSize
          frame.size.height frame.content := by
  rw [indices?, scanlineBuffer?_eq sound indexed, frame?, Option.map_map,
    Option.map_map]
  rfl

end Decoding

end Png

/-- What holds of every raster that is read from a picture file. -/
structure Raster.Decoded (raster : Raster) : Prop where
  width_pos : 0 < raster.width
  height_pos : 0 < raster.height
  bitDepth_mem : raster.bitDepth ∈ [1, 2, 4, 8]
  length_indices : raster.indices.length = raster.width * raster.height
  index_lt : ∀ index ∈ raster.indices, index.toNat < 2 ^ raster.bitDepth

namespace Png

namespace Frame.Sound

variable {frame : Frame}

/-- The raster of a sound frame. -/
def toRaster
    (sound : frame.Sound)
    (palette : List Colour) :
    Raster where
  width := frame.size.width
  height := frame.size.height
  bitDepth := frame.depth
  indices :=
    Scanline.unpackAll frame.depth frame.size.width frame.lineSize
      frame.size.height frame.content
  palette := palette
  length_indices := sound.length_unpackAll_content

variable
  (sound : frame.Sound)
  (palette : List Colour)

/-- A sound frame is read to the end, and has a pixel for each place. -/
theorem raster_eq_ok :
    frame.raster palette = .ok (sound.toRaster palette) := by
  rw [raster, sound.indices_eq_ok]
  exact dif_pos sound.length_unpackAll_content

theorem decoded_toRaster :
    (sound.toRaster palette).Decoded where
  width_pos := sound.width_pos
  height_pos := sound.height_pos
  bitDepth_mem := sound.depth_mem
  length_indices := sound.length_unpackAll_content
  index_lt _ member := Scanline.lt_of_mem_unpackAll member

end Frame.Sound

section Reading

variable
  {opening : Prelude.Opening}
  (sound : opening.prelude.Sound)
  (indexed : opening.prelude.header.colourType = .indexed)
  (fits : opening.prelude.fits = true)
  (palette : List Colour)

include sound indexed fits

/-- Reading a raster at once is reading its frame and then the frame's pixels. -/
theorem readRaster?_of_readFrame? :
    readFrame? opening = none ∧ readRaster? opening palette = none ∨
      ∃ frame raster,
        readFrame? opening = some frame ∧
          frame.raster palette = .ok raster ∧
          readRaster? opening palette = some raster ∧
          raster.Decoded := by
  rw [readFrame?, readRaster?]
  by_cases noPicture : opening.prelude.pictureCount = 0
  · rw [if_pos noPicture, if_pos noPicture]
    exact .inl ⟨rfl, rfl⟩
  · rw [if_neg noPicture, if_neg noPicture]
    cases
      ImageData.read? opening.prelude.nextNumber opening.chunk
        opening.rest with
    | none =>
        exact .inl ⟨rfl, rfl⟩
    | some stream =>
        simp only [Option.bind_eq_bind, Option.bind_some,
          indices?_eq sound indexed]
        cases decoded : frame? opening.prelude stream with
        | none =>
            exact .inl ⟨rfl, rfl⟩
        | some frame =>
            have frameSound := sound_of_frame? sound indexed fits decoded
            obtain ⟨buffer, _, rfl⟩ := Option.map_eq_some_iff.mp decoded
            exact
              .inr ⟨_, frameSound.toRaster palette, rfl,
                frameSound.raster_eq_ok palette,
                dif_pos frameSound.length_unpackAll_content,
                frameSound.decoded_toRaster palette⟩

end Reading

end Png

namespace Raster

/--
That a file claims a canvas that no buffer can hold.  It must come through the
checks before, but its image data is not looked at.
-/
def Oversized (file : Bytes) : Prop :=
  ∃ opening,
    Png.Prelude.read? file = some opening ∧
      opening.prelude.header.colourType = .indexed ∧
      opening.prelude.palette.isSome ∧
      Png.bufferLimit ≤ opening.prelude.header.bufferSize

/-- All else that loading can come to: one of three faults, or a raster that is all there. -/
inductive Loading : Except LoadFault Raster → Prop where
  | undecodable :
      Loading (.error .undecodable)
  | notIndexed
      {colourType : Png.ColourType}
      (other : colourType ≠ .indexed) :
      Loading (.error (.notIndexed colourType))
  | missingPalette :
      Loading (.error .missingPalette)
  | loaded
      {raster : Raster}
      (decoded : raster.Decoded) :
      Loading (.ok raster)

section Outcomes

variable {file : Bytes}

theorem load_of_oversized
    (oversized : Oversized file) :
    load file = .error .capacityOverflow := by
  obtain ⟨opening, opens, indexed, coloured, large⟩ := oversized
  obtain ⟨table, palette⟩ := Option.isSome_iff_exists.mp coloured
  rw [load_of_palette opens indexed palette, if_pos large]

theorem loadChecked_of_oversized
    (oversized : Oversized file) :
    loadChecked file = .error .capacity := by
  obtain ⟨opening, opens, indexed, coloured, large⟩ := oversized
  obtain ⟨table, palette⟩ := Option.isSome_iff_exists.mp coloured
  rw [loadChecked, opens]
  dsimp only
  rw [if_pos indexed, palette]
  exact if_pos large

/--
Unless no buffer can hold the canvas, loading with all accesses checked is
loading, and comes to one of the outcomes listed.
-/
theorem loadChecked_eq_load
    (bounded : ¬ Oversized file) :
    loadChecked file = .ok (load file) ∧ Loading (load file) := by
  rw [loadChecked, load]
  cases opened : Png.Prelude.read? file with
  | none =>
      exact ⟨rfl, .undecodable⟩
  | some opening =>
      obtain ⟨sound, fits⟩ := Png.Prelude.sound_of_read? opened
      dsimp only
      by_cases indexed : opening.prelude.header.colourType = .indexed
      · rw [if_pos indexed, if_pos indexed]
        cases palette : opening.prelude.palette with
        | none =>
            exact ⟨rfl, .missingPalette⟩
        | some table =>
            have small :
                ¬ Png.bufferLimit ≤ opening.prelude.header.bufferSize :=
              fun large =>
                bounded
                  ⟨opening, opened, indexed, by rw [palette]; rfl, large⟩
            dsimp only
            rw [if_neg small, if_neg small]
            rcases
              Png.readRaster?_of_readFrame? sound indexed fits
                (Colour.ofTriples table) with
              ⟨undecoded, unread⟩ |
              ⟨frame, raster, decoded, read, found, complete⟩
            · rw [undecoded, unread]
              exact ⟨rfl, .undecodable⟩
            · rw [decoded, found]
              dsimp only
              rw [read]
              exact ⟨rfl, .loaded complete⟩
      · rw [if_neg indexed, if_neg indexed]
        exact ⟨rfl, .notIndexed indexed⟩

end Outcomes

/-- A framed file is oversized exactly if its canvas is, once a row of the frame fits. -/
theorem oversized_file_iff
    {framing : Png.Framing}
    (fits : framing.lineSize ≤ framing.room)
    {first : Bytes}
    (short : first.length < 4294967296)
    (others : List Bytes)
    (tail : Bytes) :
    Oversized (framing.file (first :: others) tail) ↔
      Png.bufferLimit ≤ framing.header.bufferSize := by
  have opens := framing.read?_file_cons short others tail
  rw [if_pos (framing.fits_iff.mpr fits)] at opens
  constructor
  · rintro ⟨opening, found, _, _, large⟩
    rw [opens] at found
    obtain rfl := Option.some.inj found
    exact large
  · intro large
    exact ⟨_, opens, framing.indexed, rfl, large⟩

/--
Whatever bytes a file holds, only one thing can go wrong in loading them: that no
buffer can hold the canvas, which breaks the loading off.  Otherwise no access is
out of range, and loading ends in one of three faults or with a complete raster.
A fault is reported with the path of the file, and nothing else is.
-/
theorem load_safe
    (file : Bytes)
    (path : Path) :
    (Oversized file →
      loadChecked file = .error .capacity ∧
        load file = .error .capacityOverflow) ∧
      (¬ Oversized file →
        loadChecked file = .ok (load file) ∧ Loading (load file)) ∧
      ofNode path (.file file) = (load file).mapError (.load path) := by
  refine
    ⟨fun oversized =>
      ⟨loadChecked_of_oversized oversized, load_of_oversized oversized⟩,
      loadChecked_eq_load, ?_⟩
  rw [ofNode, contentOf]
  dsimp only
  cases load file with
  | error fault =>
      rfl
  | ok raster =>
      rfl

/-- The file of a single pixel in the corner of its canvas. -/
def cornerFile (framing : Png.Framing) : Bytes :=
  framing.file [Zlib.store [[0, 1]]]
    (Png.writeChunk (Png.chunkName 'I' 'E' 'N' 'D') [])

/-- The pixel is loaded from a canvas of two rows without an access out of range. -/
theorem load_safe_of_smallCanvas :
    let file := cornerFile (.corner 2 (by decide) (by decide))
    ¬ Oversized file ∧
      loadChecked file = .ok (load file) ∧
      Loading (load file) := by
  intro file
  have bounded : ¬ Oversized file :=
    (oversized_file_iff (by decide) (by decide) _ _).not.mpr (by decide)
  obtain ⟨_, safe, _⟩ := load_safe file (.ofString "small")
  exact ⟨bounded, safe bounded⟩

/-- The file of the same pixel on the largest canvas breaks the loading off. -/
theorem load_breaks_off_on_vast_canvas :
    loadChecked (cornerFile .vast) = .error .capacity ∧
      load (cornerFile .vast) = .error .capacityOverflow ∧
      ¬ Loading (load (cornerFile .vast)) := by
  have oversized : Oversized (cornerFile .vast) :=
    (oversized_file_iff (by decide) (by decide) _ _).mpr (by decide)
  have broken := load_of_oversized oversized
  refine ⟨loadChecked_of_oversized oversized, broken, ?_⟩
  rw [broken]
  rintro ⟨⟩

end Raster

end SpritePack
