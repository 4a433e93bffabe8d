import SpritePack.Proofs.Interlace.Streams
import SpritePack.Proofs.Png.RoundTrip
import SpritePack.Proofs.Raster.Stride

namespace SpritePack

/-!
# Loading interlaced files

A raster can also be stored in seven passes, and there are choices for each of
them.  An interlaced file loads as the same raster as the files that store it row
by row, for each pixel comes back to the place that its pass took it from.
-/

namespace Interlace

/-- The bytes of a pass with clear bits behind its rows. -/
def storePass
    (depth : Nat)
    (filters : Nat → Filter)
    (pass : Rows) :
    Bytes :=
  if ∀ row ∈ pass, row = [] then
    []
  else
    Scanline.writeFiltered filters (pass.map (Scanline.pack depth))

theorem stores_storePass
    {depth : Nat}
    (standard : depth ∈ Scanline.depths)
    (filters : Nat → Filter)
    (pass : Rows) :
    Stores depth pass (storePass depth filters pass) := by
  rw [storePass]
  split
  next empty =>
    exact .omitted empty
  next present =>
    push Not at present
    exact
      .stored present (Scanline.holds_map_pack standard pass)
        (Scanline.filtered_filterLines filters 0 [] _)

end Interlace

section Sizes

variable
  {raster : Raster}
  (widthPos : 0 < raster.width)

include widthPos

theorem Raster.sized_rows :
    Interlace.Sized ⟨raster.width, raster.height⟩ raster.rows where
  height_eq := raster.length_rows_eq_height widthPos
  width_eq _ member := raster.length_of_mem_rows member

/-- The passes of a raster have the sizes that are expected of them. -/
theorem Raster.sized_passes :
    List.Forall₂ Interlace.Sized
      (Interlace.passSizes raster.width raster.height)
      (Interlace.passes.map fun pass => pass.rows raster.rows) := by
  rw [← Interlace.split_eq_passes]
  exact (raster.sized_rows widthPos).split

end Sizes

namespace Png

section Indices

variable
  {prelude : Prelude}
  {raster : Raster}
  {streams : List Bytes}
  (packable : raster.Packable)
  (indexed : prelude.header.colourType = .indexed)
  (deep : prelude.header.depth = raster.bitDepth)
  (sized : prelude.frameSize = ⟨raster.width, raster.height⟩)
  (interlaced : prelude.header.interlaced = true)
  (stores :
    List.Forall₂ (Interlace.Stores raster.bitDepth)
      (Interlace.passes.map fun pass => pass.rows raster.rows) streams)

include packable indexed deep sized interlaced stores

/-- An interlaced picture is seen as its rows lie on the canvas. -/
theorem indices?_of_stores_at
    (wide :
      Scanline.size raster.bitDepth raster.width ≤
        prelude.header.lineSize prelude.header.canvas.width) :
    indices? prelude streams.flatten =
      some
        (raster.seenAt
          (prelude.header.lineSize prelude.header.canvas.width)).indices := by
  have widthPos := packable.width_pos
  have read :=
    Interlace.read?_of_stores packable.bitDepth_mem (raster.sized_rows widthPos)
      (raster.forall_mem_rows packable.index_lt) stores
  have lineSize :
      prelude.header.lineSize raster.width =
        Scanline.size raster.bitDepth raster.width := by
    rw [Header.lineSize_of_indexed indexed, deep]
  have buffer :
      scanlineBuffer? prelude streams.flatten =
        some
          (Scanline.spaced (prelude.header.lineSize prelude.header.canvas.width)
            (Scanline.size raster.bitDepth raster.width * raster.height)
            (raster.rows.map (Scanline.pack raster.bitDepth))) := by
    simp only [scanlineBuffer?, interlaced, sized, deep, lineSize, read,
      ↓reduceIte, Option.bind_eq_bind, Option.bind_some]
  rw [indices?, buffer, Option.map_some, sized, deep, lineSize,
    raster.unpackAll_spaced packable.bitDepth_mem widthPos packable.index_lt wide]

/-- An interlaced picture as large as its canvas is decoded from the streams of its passes. -/
theorem indices?_of_stores
    (whole : prelude.header.canvas = prelude.frameSize) :
    indices? prelude streams.flatten = some raster.indices := by
  have stride :
      prelude.header.lineSize prelude.header.canvas.width =
        Scanline.size raster.bitDepth raster.width := by
    rw [whole, sized, Header.lineSize_of_indexed indexed, deep]
  have seen :=
    indices?_of_stores_at packable indexed deep sized interlaced stores
      (Nat.le_of_eq stride.symm)
  rw [stride, raster.seenAt_size packable.bitDepth_mem] at seen
  exact seen

end Indices

/-- A choice of all that a writer is free in when it stores a raster in passes. -/
structure InterlacedEncoding
    (raster : Raster) where
  streams : List Bytes
  stores :
    List.Forall₂ (Interlace.Stores raster.bitDepth)
      (Interlace.passes.map fun pass => pass.rows raster.rows) streams
  packaging : Packaging streams.flatten

namespace InterlacedEncoding

variable {raster : Raster}

/-- Passes with clear bits behind their rows, in blocks of one size and pieces of one size. -/
def ofSizes
    (raster : Raster)
    (standard : raster.bitDepth ∈ Scanline.depths)
    (filters : Interlace.Pass → Nat → Filter)
    {blockSize pieceSize : Nat}
    (blockSize_pos : 0 < blockSize)
    (blockSize_lt : blockSize < 65536)
    (pieceSize_pos : 0 < pieceSize)
    (pieceSize_lt : pieceSize < 4294967296) :
    InterlacedEncoding raster where
  streams :=
    Interlace.passes.map fun pass =>
      Interlace.storePass raster.bitDepth (filters pass) (pass.rows raster.rows)
  stores :=
    List.forall₂_map_left_iff.mpr <| List.forall₂_map_right_iff.mpr <|
      List.forall₂_same.mpr fun _ _ => Interlace.stores_storePass standard _ _
  packaging :=
    .ofSizes _ blockSize pieceSize blockSize_pos blockSize_lt pieceSize_pos
      pieceSize_lt

/-- The header of a raster's interlaced file. -/
def header (_ : InterlacedEncoding raster) : Header where
  canvas := ⟨raster.width, raster.height⟩
  depth := raster.bitDepth
  colourType := .indexed
  interlaced := true

/-- The file that the choice leads to. -/
def file (encoding : InterlacedEncoding raster) : Bytes :=
  writeFile encoding.header raster.palette [] encoding.packaging.pieces

theorem load_file
    (encoding : InterlacedEncoding raster)
    (storable : raster.Storable) :
    Raster.load encoding.file = .ok raster := by
  have describes : encoding.header.Describes raster := ⟨rfl, rfl, rfl⟩
  apply
    Raster.load_writeFile encoding.packaging.toPieces
      (describes.valid storable) rfl storable.palette_pos storable.palette_le
      (describes.fits storable) (describes.bufferSize_lt storable)
  · exact
      indices?_of_stores storable.packable rfl rfl rfl rfl encoding.stores rfl
  · rfl
  · rfl

end InterlacedEncoding

end Png

/--
The files of a storable raster load as that raster, be they interlaced or not and
whatever choices were made in writing either.
-/
theorem interlaced_and_plain_load_alike
    {raster : Raster}
    (storable : raster.Storable)
    (interlaced : Png.InterlacedEncoding raster)
    (plain : Png.Encoding raster) :
    Raster.load interlaced.file = .ok raster ∧
      Raster.load plain.file = .ok raster :=
  ⟨interlaced.load_file storable, plain.load_file storable⟩

/-- The passes of a small raster, some of which are empty, with filters that change. -/
theorem interlaced_and_plain_load_alike_of_tiles :
    ∃ storable : Raster.tiles.Storable,
      Raster.load
            (Png.InterlacedEncoding.ofSizes Raster.tiles storable.bitDepth_mem
              (fun pass line => if pass.left = line then .up else .average)
              (show 0 < 2 by decide) (by decide) (show 0 < 7 by decide)
              (by decide)).file =
          .ok Raster.tiles ∧
        Raster.load (Png.Encoding.inSmallPieces storable).file =
          .ok Raster.tiles :=
  ⟨Raster.storable_tiles,
    interlaced_and_plain_load_alike Raster.storable_tiles _ _⟩

end SpritePack
