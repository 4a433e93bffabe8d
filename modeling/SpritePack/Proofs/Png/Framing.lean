import SpritePack.Png.Announcement
import SpritePack.Proofs.Png.Lead
import SpritePack.Proofs.Scanline.Packing

namespace SpritePack.Png

/-!
# Announced first frames

Before the image data of an animated picture its first frame is announced, which
need not fill the canvas.  The palette may come before the announcement or after
it; both ways settle the same.
-/

/-- All that an animated picture with indexed colours says before its image data. -/
structure Framing where
  header : Header
  valid : header.Valid
  indexed : header.colourType = .indexed
  palette : List Colour
  palette_pos : 0 < palette.length
  palette_le : palette.length ≤ 256
  /-- What is said of the animation as a whole, which may be left out. -/
  animation : Option Animation
  frames_ne_zero : ∀ said ∈ animation, said.frames ≠ 0
  announcement : Announcement
  announced : announcement.Valid header.canvas
  paletteFirst : Bool

namespace Framing

/-- The chunk of an animation. -/
def animationChunk (said : Animation) : Chunk :=
  .ofContent (chunkName 'a' 'c' 'T' 'L') said.write (length_chunkName ..)
    (by rw [Animation.length_write]; decide)

/-- The chunk of the first frame. -/
def frameChunk (framing : Framing) : Chunk :=
  .ofContent (chunkName 'f' 'c' 'T' 'L') (framing.announcement.write 0)
    (length_chunkName ..) (by rw [Announcement.length_write]; decide)

/-- The chunks of the animation, if there is one, and of its first frame. -/
def frameChunks (framing : Framing) : List Chunk :=
  framing.animation.toList.map animationChunk ++ [framing.frameChunk]

/-- The chunks before the image data. -/
def chunks (framing : Framing) : List Chunk :=
  Chunk.ofHeader framing.header ::
    if framing.paletteFirst then
      Chunk.ofPalette framing.palette framing.palette_le :: framing.frameChunks
    else
      framing.frameChunks ++ [Chunk.ofPalette framing.palette framing.palette_le]

/-- What is settled before the image data. -/
def prelude (framing : Framing) : Prelude :=
  { Prelude.ofPalette framing.header framing.palette with
    frames := framing.animation.map (·.frames.toNat)
    sequence := some 0
    frame := some framing.announcement.size }

/-- The file with the given pieces of image data, and what follows them. -/
def file
    (framing : Framing)
    (pieces : List Bytes)
    (tail : Bytes) :
    Bytes :=
  signature ++
    (framing.chunks.flatMap Chunk.bytes ++
      (pieces.flatMap (writeChunk (chunkName 'I' 'D' 'A' 'T')) ++ tail))

/-- The bytes of a row of the frame. -/
def lineSize (framing : Framing) : Nat :=
  framing.header.lineSize framing.announcement.size.width

/-- The bytes of a row of the canvas. -/
def canvasLineSize (framing : Framing) : Nat :=
  framing.header.lineSize framing.header.canvas.width

/-- The memory that is left for a row of the frame. -/
def room (framing : Framing) : Nat :=
  64 * 1024 * 1024 - framing.palette.length * 3

variable (framing : Framing)

section Steps

variable
  {known : Prelude}

theorem step?_animation
    (said : Animation)
    (small : 8 ≤ known.memory.buffer) :
    Prelude.step? (some known) (animationChunk said) =
      some (some { known with frames := some said.frames.toNat }) := by
  rw [animationChunk,
    Prelude.step?_ofContent said.write_ne_nil small
      (by rw [kind_animation]; decide),
    kind_animation, Prelude.accept?_animation, Option.map_some]

theorem step?_frame
    (canvas : known.header = framing.header)
    (first : known.sequence = none)
    (small : 26 ≤ known.memory.buffer) :
    Prelude.step? (some known) framing.frameChunk =
      some
        (some
          { known with
            sequence := some 0
            frame := some framing.announcement.size }) := by
  have announced := framing.announced
  have valid := framing.valid
  have due : known.nextNumber = (0 : UInt32).toNat := by
    rw [Prelude.nextNumber, first]
    rfl
  rw [← canvas] at announced valid
  rw [frameChunk,
    Prelude.step?_ofContent (framing.announcement.write_ne_nil 0) small
      (by rw [kind_frame]; decide),
    kind_frame,
    Prelude.accept?_frame announced valid.width_lt valid.height_lt due,
    Option.map_some]
  rfl

/-- The animation and its first frame are taken in one after the other. -/
theorem foldlM_frameChunks
    (canvas : known.header = framing.header)
    (first : known.sequence = none)
    (unsaid : known.frames = none)
    (buffer : known.memory.buffer = 32 * 1024) :
    framing.frameChunks.foldlM Prelude.step? (some known) =
      some
        (some
          { known with
            frames := framing.animation.map (·.frames.toNat)
            sequence := some 0
            frame := some framing.announcement.size }) := by
  have small : 26 ≤ known.memory.buffer := by
    rw [buffer]
    decide
  rw [frameChunks]
  cases framing.animation with
  | none =>
      rw [Option.toList_none, List.map_nil, List.nil_append, List.foldlM_cons,
        framing.step?_frame canvas first small, Option.map_none, ← unsaid]
      rfl
  | some said =>
      rw [Option.toList_some, List.map_singleton, List.singleton_append,
        List.foldlM_cons, step?_animation said (by omega),
        Option.bind_eq_bind, Option.bind_some, List.foldlM_cons,
        framing.step?_frame
          (show
            ({ known with frames := some said.frames.toNat } : Prelude).header =
              framing.header
            from canvas)
          first small]
      rfl

end Steps

/-- The chunks before the image data settle all that they say, in either order. -/
theorem foldlM_chunks :
    framing.chunks.foldlM Prelude.step? none = some (some framing.prelude) := by
  rw [chunks, List.foldlM_cons, Prelude.step?_ofHeader framing.valid,
    Option.bind_eq_bind, Option.bind_some]
  cases framing.paletteFirst with
  | true =>
      rw [if_pos rfl, List.foldlM_cons,
        Prelude.step?_ofPalette framing.palette_pos framing.palette_le
          List.not_mem_nil rfl, Option.bind_eq_bind,
        Option.bind_some,
        framing.foldlM_frameChunks rfl rfl rfl rfl]
      rfl
  | false =>
      rw [if_neg Bool.false_ne_true, List.foldlM_append,
        framing.foldlM_frameChunks rfl rfl rfl rfl, Option.bind_eq_bind,
        Option.bind_some, List.foldlM_cons,
        Prelude.step?_ofPalette framing.palette_pos framing.palette_le
          List.not_mem_nil rfl]
      rfl

/-- No chunk before the image data holds any. -/
theorem not_holdsImage
    {chunk : Chunk}
    (member : chunk ∈ framing.chunks) :
    ¬ chunk.kind.HoldsImage := by
  have listed :
      chunk ∈
        Chunk.ofHeader framing.header ::
          Chunk.ofPalette framing.palette framing.palette_le ::
            framing.frameChunks := by
    rw [chunks] at member
    split at member
    · exact member
    · simp only [List.mem_cons, List.mem_append, List.not_mem_nil, or_false]
        at member ⊢
      exact member.imp_right Or.symm
  have kind :
      chunk.kind = .header ∨ chunk.kind = .palette ∨ chunk.kind = .animation ∨
        chunk.kind = .frame := by
    simp only [frameChunks, List.mem_cons, List.mem_append, List.mem_map,
      List.not_mem_nil, or_false] at listed
    rcases listed with rfl | rfl | ⟨_, _, rfl⟩ | rfl
    · exact .inl (Chunk.kind_ofHeader _)
    · exact .inr (.inl (Chunk.kind_ofPalette _ _))
    · exact .inr (.inr (.inl kind_animation))
    · exact .inr (.inr (.inr kind_frame))
  rcases kind with kind | kind | kind | kind <;>
  · rw [kind]
    rintro (isData | isData) <;> cases isData

/-- A file is read like what stands behind its lead, once all that is said there is settled. -/
theorem read?_file
    (pieces : List Bytes)
    (tail : Bytes) :
    Prelude.read? (framing.file pieces tail) =
      Prelude.readFrom? (some framing.prelude)
        (pieces.flatMap (writeChunk (chunkName 'I' 'D' 'A' 'T')) ++ tail) := by
  rw [file, Prelude.read?_chunks fun _ => framing.not_holdsImage,
    framing.foldlM_chunks, Option.bind_some]

/-- The first piece of image data opens it, if a row of the frame fits into memory. -/
theorem read?_file_cons
    {first : Bytes}
    (short : first.length < 4294967296)
    (others : List Bytes)
    (tail : Bytes) :
    Prelude.read? (framing.file (first :: others) tail) =
      if framing.prelude.fits then
        some
          ⟨framing.prelude, ⟨first.length, chunkName 'I' 'D' 'A' 'T'⟩,
            writeBody (chunkName 'I' 'D' 'A' 'T') first ++
              (others.flatMap (writeChunk (chunkName 'I' 'D' 'A' 'T')) ++ tail)⟩
      else
        none := by
  rw [read?_file, List.flatMap_cons, List.append_assoc,
    Prelude.readFrom?_writeChunk_imageData short]

/-- An animation has a frame, and without one the picture stands alone. -/
theorem pictureCount_ne_zero : framing.prelude.pictureCount ≠ 0 := by
  have present := framing.frames_ne_zero
  rw [prelude, Prelude.pictureCount]
  cases animation : framing.animation with
  | none =>
      exact Nat.one_ne_zero
  | some said =>
      intro none
      exact present said animation (UInt32.toNat_inj.mp none)

theorem depth_mem : framing.header.depth ∈ Scanline.depths := by
  have standard := framing.valid.depth_mem
  rw [framing.indexed] at standard
  exact standard

theorem lineSize_eq :
    framing.lineSize =
      Scanline.size framing.header.depth framing.announcement.size.width :=
  Header.lineSize_of_indexed framing.indexed _

theorem canvasLineSize_eq :
    framing.canvasLineSize =
      Scanline.size framing.header.depth framing.header.canvas.width :=
  Header.lineSize_of_indexed framing.indexed _

/-- A frame is no wider than its canvas, and neither are its rows. -/
theorem lineSize_le_canvasLineSize :
    framing.lineSize ≤ framing.canvasLineSize := by
  rw [lineSize_eq, canvasLineSize_eq]
  exact
    Scanline.size_le_size
      (Nat.le_trans (Nat.le_add_left ..) framing.announced.right_le)

/-- No canvas is too large to be addressed, so it is only a row of the frame that may not fit. -/
theorem fits_iff :
    framing.prelude.fits = true ↔ framing.lineSize ≤ framing.room := by
  have line : framing.canvasLineSize < 4294967296 := by
    rw [canvasLineSize_eq]
    exact
      Nat.lt_of_le_of_lt (Scanline.size_le_width framing.depth_mem _)
        framing.valid.width_lt
  have addressable :
      framing.canvasLineSize * framing.header.canvas.height <
        Prelude.addressLimit :=
    Nat.mul_lt_mul'' line framing.valid.height_lt
  rw [Prelude.fits, Bool.and_eq_true, decide_eq_true_eq, decide_eq_true_eq]
  exact and_iff_right addressable

/-- A frame of one pixel in the corner of a square canvas. -/
def corner
    (side : Nat)
    (side_pos : 0 < side)
    (side_lt : side < 4294967296) :
    Framing where
  header := ⟨⟨side, side⟩, 8, .indexed, false⟩
  valid := {
    width_pos := side_pos
    width_lt := side_lt
    height_pos := side_pos
    height_lt := side_lt
    depth_mem := show 8 ∈ [1, 2, 4, 8] by decide
  }
  indexed := rfl
  palette := [⟨0, 0, 0⟩, ⟨0xFF, 0x10, 0⟩]
  palette_pos := by decide
  palette_le := by decide
  animation := none
  frames_ne_zero := nofun
  announcement := ⟨⟨1, 1⟩, 0, 0, 0, 0, 0⟩
  announced := {
    width_pos := Nat.one_pos
    height_pos := Nat.one_pos
    right_le := (Nat.zero_add 1).trans_le side_pos
    bottom_le := (Nat.zero_add 1).trans_le side_pos
    dispose_le := Nat.zero_le 2
    blend_le := Nat.zero_le 1
  }
  paletteFirst := true

/-- The pixel in the corner of the largest canvas that a header can claim. -/
def vast : Framing :=
  corner 0xFFFFFFFF (by decide) (by decide)

end Framing

end SpritePack.Png
