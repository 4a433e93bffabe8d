import SpritePack.Proofs.Png.Interlaced
import SpritePack.Proofs.Png.Safety

namespace SpritePack

/-!
# Loading first frames

A first frame need not fill its canvas.  Its rows are then laid out as far apart
as those of the canvas if they come in passes, but are always read as if they
followed each other.  So an interlaced frame with rows shorter than those of its
canvas is not read as it was stored, unless it has only one row.  However small a
frame is, there must be a buffer for the canvas.
-/

/-- That a stream holds a raster, row by row or in passes. -/
inductive Raster.StoredIn
    (raster : Raster) :
    Bool → Bytes → Prop where
  | plain
      {scanlines : List Bytes}
      {filters : Nat → Filter}
      {stream : Bytes}
      (holds :
        List.Forall₂ (Scanline.Holds raster.bitDepth) raster.rows scanlines)
      (filtered : Scanline.Filtered filters 0 [] scanlines stream) :
      StoredIn raster false stream
  | interlaced
      {streams : List Bytes}
      (stores :
        List.Forall₂ (Interlace.Stores raster.bitDepth)
          (Interlace.passes.map fun pass => pass.rows raster.rows) streams) :
      StoredIn raster true streams.flatten

namespace Png

/-- A raster's image data as it stands in a file, and what follows it there. -/
structure Body
    (raster : Raster)
    (interlaced : Bool) where
  stream : Bytes
  stored : raster.StoredIn interlaced stream
  pieces : Pieces stream
  tail : Bytes
  endsData : EndsData tail

/-- The body of a file that stores a raster row by row. -/
def Encoding.body
    {raster : Raster}
    (encoding : Encoding raster) :
    Body raster false where
  stream := encoding.stream
  stored := .plain encoding.holds encoding.filtered
  pieces := encoding.packaging.toPieces
  tail := writeChunk (chunkName 'I' 'E' 'N' 'D') []
  endsData := endsData_imageEnd

/-- The body of a file that stores a raster in passes. -/
def InterlacedEncoding.body
    {raster : Raster}
    (encoding : InterlacedEncoding raster) :
    Body raster true where
  stream := encoding.streams.flatten
  stored := .interlaced encoding.stores
  pieces := encoding.packaging.toPieces
  tail := writeChunk (chunkName 'I' 'E' 'N' 'D') []
  endsData := endsData_imageEnd

/-- Every raster of indices has a body of either kind. -/
theorem exists_body
    {raster : Raster}
    (standard : raster.bitDepth ∈ Scanline.depths)
    (interlaced : Bool) :
    Nonempty (Body raster interlaced) := by
  have one_pos : 0 < 1 := Nat.one_pos
  cases interlaced with
  | false =>
      exact
        ⟨(Encoding.ofSizes raster standard (fun _ => .none) one_pos (by decide)
          one_pos (by decide)).body⟩
  | true =>
      exact
        ⟨(InterlacedEncoding.ofSizes raster standard (fun _ _ => .none) one_pos
          (by decide) one_pos (by decide)).body⟩

namespace Framing

/-- That a raster may be the frame that is announced. -/
structure Announces
    (framing : Framing)
    (raster : Raster) : Prop where
  size_eq : framing.announcement.size = ⟨raster.width, raster.height⟩
  depth_eq : framing.header.depth = raster.bitDepth
  palette_eq : framing.palette = raster.palette
  index_lt : ∀ index ∈ raster.indices, index.toNat < 2 ^ raster.bitDepth

/-- The bytes from the start of a row to that of the next, where rows are laid out. -/
def stride (framing : Framing) : Nat :=
  if framing.header.interlaced then
    framing.canvasLineSize
  else
    framing.lineSize

/-- The file of a raster. -/
def fileOf
    (framing : Framing)
    {raster : Raster}
    (body : Body raster framing.header.interlaced) :
    Bytes :=
  framing.file body.pieces.list body.tail

/-- The image data of a file has a first piece. -/
theorem exists_first
    (framing : Framing)
    {raster : Raster}
    (body : Body raster framing.header.interlaced) :
    ∃ first others,
      first.length < 4294967296 ∧
        framing.fileOf body = framing.file (first :: others) body.tail := by
  obtain ⟨first, others, list⟩ :=
    List.exists_cons_of_ne_nil body.pieces.list_ne_nil
  have short := body.pieces.length_lt
  rw [list] at short
  refine ⟨first, others, short first List.mem_cons_self, ?_⟩
  rw [fileOf, list]

section Loading

variable
  {framing : Framing}
  {raster : Raster}
  (announces : framing.Announces raster)

include announces

theorem Announces.packable : raster.Packable where
  width_pos := by
    have positive := framing.announced.width_pos
    rw [announces.size_eq] at positive
    exact positive
  bitDepth_mem := by
    rw [← announces.depth_eq]
    exact framing.depth_mem
  index_lt := announces.index_lt

theorem Announces.lineSize_eq :
    framing.lineSize = Scanline.size raster.bitDepth raster.width := by
  rw [Framing.lineSize_eq, announces.size_eq, announces.depth_eq]

/-- The indices are those that are seen where the rows are laid out. -/
theorem indices?_of_storedIn
    {stream : Bytes}
    (stored : raster.StoredIn framing.header.interlaced stream) :
    indices? framing.prelude stream =
      some (raster.seenAt framing.stride).indices := by
  have packable := announces.packable
  generalize interlaced : framing.header.interlaced = passes at stored
  cases stored with
  | plain holds filtered =>
      have stride : framing.stride = framing.lineSize :=
        if_neg (by rw [interlaced]; exact Bool.false_ne_true)
      rw [stride, announces.lineSize_eq, raster.seenAt_size packable.bitDepth_mem]
      exact
        indices?_of_filtered packable framing.indexed announces.depth_eq
          announces.size_eq interlaced holds filtered
  | interlaced stores =>
      have stride : framing.stride = framing.canvasLineSize :=
        if_pos interlaced
      have wide := framing.lineSize_le_canvasLineSize
      rw [announces.lineSize_eq] at wide
      rw [stride]
      exact
        indices?_of_stores_at packable framing.indexed announces.depth_eq
          announces.size_eq interlaced stores wide

variable (body : Body raster framing.header.interlaced)

/--
A frame is loaded as it is seen where its rows are laid out, if one of its rows
fits and a buffer can hold the canvas.
-/
theorem load_fileOf
    (fits : framing.lineSize ≤ framing.room)
    (small : framing.header.bufferSize < bufferLimit) :
    Raster.load (framing.fileOf body) = .ok (raster.seenAt framing.stride) := by
  obtain ⟨opening, opens, settled, stream⟩ :=
    body.pieces.opens (framing.fits_iff.mpr fits) body.endsData
  have coloured :
      framing.prelude.palette =
        some (raster.palette.flatMap Colour.toTriple) := by
    rw [← announces.palette_eq]
    rfl
  have found := indices?_of_storedIn announces body.stored
  rw [← framing.read?_file] at opens
  rw [← settled] at coloured found
  exact
    Raster.load_of_opening opens (by rw [settled]; exact framing.indexed)
      coloured (by rw [settled]; exact small)
      (by rw [settled]; exact framing.pictureCount_ne_zero) (stream _)
      found (by rw [settled]; exact announces.size_eq)
      (by rw [settled]; exact announces.depth_eq)

omit announces in
/-- A frame with a row that does not fit is not loaded. -/
theorem load_fileOf_of_wide
    (wide : framing.room < framing.lineSize) :
    Raster.load (framing.fileOf body) = .error .undecodable := by
  obtain ⟨first, others, short, file⟩ := framing.exists_first body
  have unfit : ¬ framing.prelude.fits = true :=
    fun fits => Nat.not_le.mpr wide (framing.fits_iff.mp fits)
  rw [file, Raster.load, framing.read?_file_cons short, if_neg unfit]

omit announces in
/-- A frame on a canvas that no buffer can hold breaks the loading off. -/
theorem load_fileOf_of_large
    (fits : framing.lineSize ≤ framing.room)
    (large : bufferLimit ≤ framing.header.bufferSize) :
    Raster.load (framing.fileOf body) = .error .capacityOverflow := by
  obtain ⟨first, others, short, file⟩ := framing.exists_first body
  rw [file]
  exact
    Raster.load_of_oversized
      ((Raster.oversized_file_iff fits short others body.tail).mpr large)

theorem load_fileOf_eq :
    Raster.load (framing.fileOf body) =
      if framing.room < framing.lineSize then
        .error .undecodable
      else if bufferLimit ≤ framing.header.bufferSize then
        .error .capacityOverflow
      else
        .ok (raster.seenAt framing.stride) := by
  split
  next wide => exact load_fileOf_of_wide body wide
  next narrow =>
    have fits := Nat.le_of_not_lt narrow
    split
    next large => exact load_fileOf_of_large body fits large
    next bounded =>
      exact load_fileOf announces body fits (Nat.lt_of_not_le bounded)

end Loading

/-- Whether the rows of the frame are read from where they are laid out. -/
def ReadAsLaidOut (framing : Framing) : Prop :=
  framing.header.interlaced = false ∨
    framing.lineSize = framing.canvasLineSize ∨
      framing.announcement.size.height = 1

instance (framing : Framing) : Decidable framing.ReadAsLaidOut :=
  inferInstanceAs (Decidable (_ ∨ _ ∨ _))

theorem lineSize_le_stride
    (framing : Framing) :
    framing.lineSize ≤ framing.stride := by
  rw [stride]
  split
  · exact framing.lineSize_le_canvasLineSize
  · exact Nat.le_refl _

theorem seenAt_of_readAsLaidOut
    {framing : Framing}
    {raster : Raster}
    (announces : framing.Announces raster)
    (aligned : framing.ReadAsLaidOut) :
    raster.seenAt framing.stride = raster := by
  have standard := announces.packable.bitDepth_mem
  have lineSize := announces.lineSize_eq
  have wide := framing.lineSize_le_stride
  have size := announces.size_eq
  by_cases gap : framing.stride = framing.lineSize
  · rw [gap, lineSize, raster.seenAt_size standard]
  · have single : framing.announcement.size.height = 1 := by
      rcases aligned with plain | equal | single
      · exact absurd (if_neg (by rw [plain]; exact Bool.false_ne_true)) gap
      · rw [stride, ← equal, ite_self] at gap
        exact absurd rfl gap
      · exact single
    rw [size] at single
    rw [lineSize] at wide
    exact raster.seenAt_of_height_eq_one standard single wide

/-- That every raster of the frame is loaded as it was stored. -/
def Faithful (framing : Framing) : Prop :=
  ∀ raster,
    framing.Announces raster →
      ∀ body : Body raster framing.header.interlaced,
        Raster.load (framing.fileOf body) = .ok raster

/-- A raster of the announced size without a pixel of index zero. -/
def ones (framing : Framing) : Raster where
  width := framing.announcement.size.width
  height := framing.announcement.size.height
  bitDepth := framing.header.depth
  indices :=
    List.replicate
      (framing.announcement.size.width * framing.announcement.size.height) 1
  palette := framing.palette
  length_indices := List.length_replicate

theorem announces_ones (framing : Framing) : framing.Announces framing.ones where
  size_eq := rfl
  depth_eq := rfl
  palette_eq := rfl
  index_lt := by
    intro index member
    rw [List.eq_of_mem_replicate member]
    exact Nat.one_lt_two_pow (Nat.ne_of_gt (Scanline.depth_bounds framing.depth_mem).1)

/-- Where rows are laid out further apart than they are read, a pixel turns into another. -/
theorem seenAt_ones_ne
    {framing : Framing}
    (apart : ¬ framing.ReadAsLaidOut) :
    framing.ones.seenAt framing.stride ≠ framing.ones := by
  rw [ReadAsLaidOut, not_or, not_or] at apart
  obtain ⟨interlaced, unequal, several⟩ := apart
  have widthPos : 0 < framing.ones.width := framing.announced.width_pos
  have heightPos : 0 < framing.announcement.size.height :=
    framing.announced.height_pos
  have second : 1 < framing.ones.height := by
    show 1 < framing.announcement.size.height
    omega
  have stride : framing.stride = framing.canvasLineSize :=
    if_pos (Bool.eq_true_of_not_eq_false interlaced)
  have gap :
      Scanline.size framing.ones.bitDepth framing.ones.width <
        framing.stride := by
    rw [← framing.announces_ones.lineSize_eq, stride]
    exact
      Nat.lt_of_le_of_ne framing.lineSize_le_canvasLineSize unequal
  have zero := framing.ones.index_seenAt framing.stride widthPos second
  rw [framing.ones.indexSeenAt_second_row framing.depth_mem gap] at zero
  intro same
  have one : framing.ones.index 0 1 widthPos second = 1 :=
    List.getElem_replicate _
  simp only [same, one] at zero
  exact absurd zero (by decide)

end Framing

end Png

/--
A first frame is loaded as it is seen where its rows are laid out, unless one of
them does not fit, or no buffer can hold the canvas.  All rasters of a frame are
loaded as they were stored exactly if one of its rows fits, a buffer can hold the
canvas, and the rows are laid out where they are read: they come one by one, they
are as long as those of the canvas, or there is only one.
-/
theorem Raster.load_first_frame
    (framing : Png.Framing) :
    (∀ raster,
      framing.Announces raster →
        ∀ body : Png.Body raster framing.header.interlaced,
          load (framing.fileOf body) =
            if framing.room < framing.lineSize then
              .error .undecodable
            else if Png.bufferLimit ≤ framing.header.bufferSize then
              .error .capacityOverflow
            else
              .ok (raster.seenAt framing.stride)) ∧
    (framing.Faithful ↔
      framing.lineSize ≤ framing.room ∧
        framing.header.bufferSize < Png.bufferLimit ∧
          framing.ReadAsLaidOut) := by
  refine
    ⟨fun raster announces body => Png.Framing.load_fileOf_eq announces body, ?_⟩
  constructor
  · intro faithful
    have announces := framing.announces_ones
    obtain ⟨body⟩ :=
      Png.exists_body announces.packable.bitDepth_mem framing.header.interlaced
    have result := Png.Framing.load_fileOf_eq announces body
    rw [faithful framing.ones announces body] at result
    split at result
    next =>
      cases result
    next narrow =>
      split at result
      next =>
        cases result
      next bounded =>
        refine ⟨Nat.le_of_not_lt narrow, Nat.lt_of_not_le bounded, ?_⟩
        by_contra apart
        exact
          Png.Framing.seenAt_ones_ne apart (Except.ok.inj result).symm
  · rintro ⟨fits, small, aligned⟩ raster announces body
    rw [Png.Framing.load_fileOf announces body fits small,
      Png.Framing.seenAt_of_readAsLaidOut announces aligned]

namespace Png.Framing

/-- A frame of one column on a canvas of two. -/
def narrow (interlaced : Bool) : Framing where
  header := ⟨⟨2, 2⟩, 8, .indexed, interlaced⟩
  valid := {
    width_pos := Nat.two_pos
    width_lt := show 2 < 4294967296 by decide
    height_pos := Nat.two_pos
    height_lt := show 2 < 4294967296 by decide
    depth_mem := show 8 ∈ [1, 2, 4, 8] by decide
  }
  indexed := rfl
  palette := [⟨0, 0, 0⟩, ⟨0xFF, 0xFF, 0xFF⟩]
  palette_pos := by decide
  palette_le := by decide
  animation := some ⟨1, 0⟩
  frames_ne_zero := by
    rintro _ ⟨⟩
    decide
  announcement := ⟨⟨1, 2⟩, 0, 0, 0, 0, 0⟩
  announced := {
    width_pos := Nat.one_pos
    height_pos := Nat.two_pos
    right_le := Nat.le_succ 1
    bottom_le := Nat.le_refl 2
    dispose_le := Nat.zero_le 2
    blend_le := Nat.zero_le 1
  }
  paletteFirst := true

/-- The passes of two pixels of index one, in one block and one piece. -/
def narrowBody : Body (narrow true).ones true :=
  (InterlacedEncoding.ofSizes (narrow true).ones (by decide) (fun _ _ => .none)
    (show 0 < 1024 by decide) (by decide) (show 0 < 1024 by decide)
    (by decide)).body

end Png.Framing

/-- The frame of one column is loaded as it was stored only if it does not come in passes. -/
theorem Raster.load_first_frame_of_narrow :
    (Png.Framing.narrow false).Faithful ∧
      ¬ (Png.Framing.narrow true).Faithful := by
  obtain ⟨_, plain⟩ := load_first_frame (Png.Framing.narrow false)
  obtain ⟨_, interlaced⟩ := load_first_frame (Png.Framing.narrow true)
  have apart : ¬ (Png.Framing.narrow true).ReadAsLaidOut := by decide
  exact
    ⟨plain.mpr ⟨by decide, by decide, by decide⟩, fun faithful =>
      apart (interlaced.mp faithful).2.2⟩

/-- The second of the two pixels that are stored is lost. -/
theorem Raster.load_narrow_loses_pixel :
    (Png.Framing.narrow true).Announces (Png.Framing.narrow true).ones ∧
      (Png.Framing.narrow true).announcement.size ≠
        (Png.Framing.narrow true).header.canvas ∧
      load ((Png.Framing.narrow true).fileOf Png.Framing.narrowBody) =
        .ok
          { (Png.Framing.narrow true).ones with
            indices := [1, 0]
            length_indices := rfl } ∧
      load ((Png.Framing.narrow true).fileOf Png.Framing.narrowBody) ≠
        .ok (Png.Framing.narrow true).ones := by
  have announces := (Png.Framing.narrow true).announces_ones
  have apart : ¬ (Png.Framing.narrow true).ReadAsLaidOut := by decide
  rw [Png.Framing.load_fileOf announces Png.Framing.narrowBody (by decide)
    (by decide)]
  exact
    ⟨announces, by decide, rfl, fun same =>
      Png.Framing.seenAt_ones_ne apart (Except.ok.inj same)⟩

end SpritePack
