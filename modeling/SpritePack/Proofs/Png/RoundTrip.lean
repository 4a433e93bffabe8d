import SpritePack.Convert
import SpritePack.Proofs.Png.Loading
import SpritePack.Proofs.Raster.Pixels

namespace SpritePack

/-!
# Loading undoes writing

Whatever a writer chose, the raster that it stored is the raster that is loaded.
The depth is a choice too if the indices are small enough for several: it is
noted with the raster, but no sprite depends on it.
-/

namespace Raster

variable {raster : Raster}

/-- The raster with another depth noted. -/
def atDepth
    (raster : Raster)
    (depth : Nat) :
    Raster :=
  { raster with bitDepth := depth }

/-- A raster can be stored at any depth from its own on. -/
theorem Storable.atDepth
    {depth : Nat}
    (storable : raster.Storable)
    (standard : depth ∈ Scanline.depths)
    (deeper : raster.bitDepth ≤ depth) :
    (raster.atDepth depth).Storable :=
  { storable with
    bitDepth_mem := standard
    index_lt := fun index member =>
      Nat.lt_of_lt_of_le (storable.index_lt index member)
        (Nat.pow_le_pow_right (by decide) deeper) }

end Raster

namespace Png

section Indices

variable
  {prelude : Prelude}
  {raster : Raster}
  {scanlines : List Bytes}
  {stream : Bytes}
  (packable : raster.Packable)
  (indexed : prelude.header.colourType = .indexed)
  (deep : prelude.header.depth = raster.bitDepth)

include packable indexed deep

/-- The scanlines of a raster are as long as the header says. -/
theorem length_of_mem_scanlines
    (holds : List.Forall₂ (Scanline.Holds raster.bitDepth) raster.rows scanlines) :
    ∀ scanline ∈ scanlines,
      scanline.length = prelude.header.lineSize raster.width := by
  intro scanline member
  rw [Header.lineSize_of_indexed indexed, deep]
  exact
    Scanline.length_of_mem_scanlines packable.bitDepth_mem
      (fun _ inRows => raster.length_of_mem_rows inRows) holds member

variable (sized : prelude.frameSize = ⟨raster.width, raster.height⟩)

include sized

/-- The indices of a picture are those of the rows that its scanlines hold. -/
theorem indices?_of_buffer
    (holds : List.Forall₂ (Scanline.Holds raster.bitDepth) raster.rows scanlines)
    (decoded : scanlineBuffer? prelude stream = some scanlines.flatten) :
    indices? prelude stream = some raster.indices := by
  have widthPos := packable.width_pos
  have unpacked :=
    Scanline.unpackAll_of_holds packable.bitDepth_mem widthPos
      (fun _ member => raster.length_of_mem_rows member)
      (raster.forall_mem_rows packable.index_lt) holds []
  rw [raster.length_rows_eq_height widthPos, List.append_nil,
    raster.flatten_rows widthPos] at unpacked
  have lineSize :
      prelude.header.lineSize raster.width =
        Scanline.size raster.bitDepth raster.width := by
    rw [Header.lineSize_of_indexed indexed, deep]
  rw [indices?, decoded, Option.map_some, sized, deep, lineSize, unpacked]

/-- A picture without passes is decoded from its filtered scanlines. -/
theorem indices?_of_filtered
    {filters : Nat → Filter}
    (plain : prelude.header.interlaced = false)
    (holds : List.Forall₂ (Scanline.Holds raster.bitDepth) raster.rows scanlines)
    (filtered : Scanline.Filtered filters 0 [] scanlines stream) :
    indices? prelude stream = some raster.indices := by
  have count : scanlines.length = raster.height := by
    rw [← holds.length_eq, raster.length_rows_eq_height packable.width_pos]
  have unfiltered :=
    filtered.readFiltered_append
      (length_of_mem_scanlines packable indexed deep holds) []
  rw [count, List.append_nil] at unfiltered
  apply indices?_of_buffer packable indexed deep sized holds
  simp only [scanlineBuffer?, plain, sized, unfiltered, Bool.false_eq_true,
    ↓reduceIte, Option.bind_eq_bind, Option.bind_some]

end Indices

/-- That a header says what a raster is, and leaves open whether it comes in passes. -/
structure Header.Describes
    (header : Header)
    (raster : Raster) : Prop where
  canvas_eq : header.canvas = ⟨raster.width, raster.height⟩
  depth_eq : header.depth = raster.bitDepth
  colourType_eq : header.colourType = .indexed

namespace Header.Describes

variable
  {header : Header}
  {raster : Raster}
  (describes : header.Describes raster)
  (storable : raster.Storable)

include describes storable

theorem valid : header.Valid := by
  obtain ⟨canvas, depth, colourType⟩ := describes
  exact {
    width_pos := by
      rw [canvas]
      exact storable.width_pos
    width_lt := by
      rw [canvas]
      exact Nat.lt_trans storable.width_lt (by decide)
    height_pos := by
      rw [canvas]
      exact storable.height_pos
    height_lt := by
      rw [canvas]
      exact Nat.lt_trans storable.height_lt (by decide)
    depth_mem := by
      rw [depth, colourType]
      exact storable.bitDepth_mem
  }

/-- A row of a storable raster takes no more bytes than there are columns. -/
theorem lineSize_le : header.lineSize header.canvas.width ≤ 65535 :=
  calc
    header.lineSize header.canvas.width
        = Scanline.size raster.bitDepth raster.width := by
          rw [Header.lineSize_of_indexed describes.colourType_eq,
            describes.depth_eq, describes.canvas_eq]
    _ ≤ raster.width :=
          Scanline.size_le_width storable.bitDepth_mem raster.width
    _ ≤ 65535 :=
          Nat.le_of_lt_succ storable.width_lt

theorem bufferSize_le : header.bufferSize ≤ 65535 * 65535 := by
  have height : header.canvas.height ≤ 65535 := by
    rw [describes.canvas_eq]
    exact Nat.le_of_lt_succ storable.height_lt
  exact Nat.mul_le_mul (describes.lineSize_le storable) height

/-- There can be a buffer for every storable raster. -/
theorem bufferSize_lt : header.bufferSize < bufferLimit :=
  Nat.lt_of_le_of_lt (describes.bufferSize_le storable) (by decide)

/-- No storable raster is too large to be read. -/
theorem fits : (Prelude.ofPalette header raster.palette).fits = true := by
  have lineSize := describes.lineSize_le storable
  have colours : raster.palette.length ≤ 256 :=
    storable.palette_le
  have addressable : header.bufferSize < Prelude.addressLimit :=
    Nat.lt_of_le_of_lt (describes.bufferSize_le storable) (by decide)
  have room :
      header.lineSize header.canvas.width ≤
        64 * 1024 * 1024 - raster.palette.length * 3 := by
    omega
  rw [Prelude.fits, Bool.and_eq_true, decide_eq_true_eq, decide_eq_true_eq]
  exact ⟨addressable, room⟩

end Header.Describes

namespace Encoding

variable
  {raster : Raster}
  (storable : raster.Storable)
  (encoding : Encoding raster)

include storable

theorem load_file :
    Raster.load encoding.file = .ok raster := by
  have describes : encoding.header.Describes raster := ⟨rfl, rfl, rfl⟩
  apply
    Raster.load_writeFile encoding.packaging.toPieces
      (describes.valid storable) rfl storable.palette_pos storable.palette_le
      (describes.fits storable) (describes.bufferSize_lt storable)
  · exact
      indices?_of_filtered storable.packable rfl rfl rfl rfl encoding.holds
        encoding.filtered
  · rfl
  · rfl

end Encoding

end Png

/-- What a picture file comes to as a sprite, before anything is written. -/
def spriteOfFile
    (path : Path)
    (file : Bytes) :
    Except Error Sprite := do
  let raster ← Raster.ofNode path (.file file)
  spriteOf raster

theorem spriteOfFile_of_load
    {file : Bytes}
    {raster : Raster}
    (loaded : Raster.load file = .ok raster)
    (path : Path) :
    spriteOfFile path file = spriteOf raster := by
  have read : Raster.ofNode path (.file file) = .ok raster := by
    rw [Raster.ofNode, contentOf]
    dsimp only
    rw [loaded]
  rw [spriteOfFile, read]
  rfl

/-- The depth that a raster was stored at makes no difference to its sprite. -/
theorem spriteOf_atDepth
    (raster : Raster)
    (depth : Nat) :
    spriteOf (raster.atDepth depth) = spriteOf raster :=
  rfl

/--
Every file of a storable raster loads as that raster, whatever choices were made
in writing it.  If the raster can be stored at a second depth, its files there
come to the same sprite, or fail to be one in the same way.
-/
theorem loading_undoes_encoding
    {raster : Raster}
    (storable : raster.Storable)
    (encoding : Png.Encoding raster) :
    Raster.load encoding.file = .ok raster ∧
      ∀ depth,
        (raster.atDepth depth).Storable →
          ∀ (other : Png.Encoding (raster.atDepth depth)) (path path' : Path),
            spriteOfFile path encoding.file =
              spriteOfFile path' other.file := by
  have loaded := encoding.load_file storable
  refine ⟨loaded, ?_⟩
  intro depth otherStorable other path path'
  have otherLoaded := other.load_file otherStorable
  calc
    spriteOfFile path encoding.file
        = spriteOf raster := spriteOfFile_of_load loaded path
    _ = spriteOf (raster.atDepth depth) := (spriteOf_atDepth raster depth).symm
    _ = spriteOfFile path' other.file :=
          (spriteOfFile_of_load otherLoaded path').symm

/-- A small raster whose rows end within a byte, and whose indices need two bits. -/
def Raster.tiles : Raster where
  width := 3
  height := 2
  bitDepth := 2
  indices := [0, 1, 2, 3, 0, 1]
  palette := [⟨0, 0, 0⟩, ⟨0xFF, 0, 0⟩, ⟨0, 0xFF, 0⟩, ⟨0x12, 0x34, 0x56⟩]
  length_indices := rfl

theorem Raster.storable_tiles : tiles.Storable where
  width_pos := by decide
  width_lt := by decide
  height_pos := by decide
  height_lt := by decide
  bitDepth_mem := by decide
  index_lt := by
    simp [tiles]
  palette_pos := by decide
  palette_le := by decide

/-- A file with blocks of three bytes and pieces of five, which end within rows. -/
def Png.Encoding.inSmallPieces
    {raster : Raster}
    (storable : raster.Storable) :
    Encoding raster :=
  ofSizes raster storable.bitDepth_mem
    (fun line => if line = 0 then .sub else .paeth)
    (show 0 < 3 by decide) (by decide) (show 0 < 5 by decide) (by decide)

theorem loading_undoes_encoding_of_tiles :
    ∃ storable : Raster.tiles.Storable,
      ∃ deeper : (Raster.tiles.atDepth 4).Storable,
        Raster.load (Png.Encoding.inSmallPieces storable).file =
            .ok Raster.tiles ∧
          spriteOfFile (.ofString "two bits")
              (Png.Encoding.inSmallPieces storable).file =
            spriteOfFile (.ofString "four bits")
              (Png.Encoding.inSmallPieces deeper).file := by
  have deeper : (Raster.tiles.atDepth 4).Storable :=
    Raster.storable_tiles.atDepth (by decide) (by decide)
  have undone :=
    loading_undoes_encoding Raster.storable_tiles
      (Png.Encoding.inSmallPieces Raster.storable_tiles)
  exact ⟨Raster.storable_tiles, deeper, undone.1, undone.2 4 deeper _ _ _⟩

end SpritePack
