import SpritePack.Proofs.Interlace.Assembly
import SpritePack.Proofs.Png.Interlaced
import SpritePack.Proofs.Png.Safety

namespace SpritePack

/-!
# The scanlines of loaded files

The scanlines that a writer filtered are those that a file is found to have.  Row
by row, the pixels of a loaded raster are theirs.  In passes they are those of
seven smaller pictures, which the raster is put together from.
-/

namespace Raster

/-- Rows of one width are those of the raster that has their pixels. -/
theorem rows_eq_of_flatten
    {raster : Raster}
    {rows : List Bytes}
    (widthPos : 0 < raster.width)
    (sized : ∀ row ∈ rows, row.length = raster.width)
    (joined : raster.indices = rows.flatten) :
    raster.rows = rows := by
  have pieces := Traversal.chunks_flatten_append widthPos sized []
  rw [List.append_nil, Traversal.chunks_nil, List.append_nil] at pieces
  rw [Raster.rows, joined, pieces]

end Raster

namespace Png

section Files

variable
  {file stream : Bytes}
  {opening : Prelude.Opening}
  {raster : Raster}

theorem header?_of_read?
    (opens : Prelude.read? file = some opening) :
    header? file = some opening.prelude.header := by
  rw [header?, opens, Option.map_some]

/-- The scanlines of a file are those of its image data. -/
theorem Carries.scanlines?_eq
    (carries : Carries opening stream raster)
    (opens : Prelude.read? file = some opening) :
    scanlines? file = storedScanlines? opening.prelude stream := by
  rw [scanlines?, opens, Option.bind_eq_bind, Option.bind_some,
    carries.content, Option.bind_eq_bind, Option.bind_some]

section Written

variable
  {header : Header}
  (describes : header.Describes raster)
  (storable : raster.Storable)
  (pieces : Pieces stream)

include describes storable

/-- The header of a written file is read from it. -/
theorem Header.Describes.header?_writeFile :
    header? (writeFile header raster.palette [] pieces.list) = some header := by
  obtain ⟨opening, opens, settled, _⟩ :=
    pieces.opens_writeFile (describes.valid storable) storable.palette_pos
      storable.palette_le (describes.fits storable)
  rw [header?_of_read? opens, settled]
  rfl

/-- The scanlines of a written file are those of the data that it was given. -/
theorem Header.Describes.scanlines?_writeFile :
    scanlines? (writeFile header raster.palette [] pieces.list) =
      storedScanlines? (.ofPalette header raster.palette) stream := by
  obtain ⟨opening, opens, settled, content⟩ :=
    pieces.opens_writeFile (describes.valid storable) storable.palette_pos
      storable.palette_le (describes.fits storable)
  rw [scanlines?, opens, Option.bind_eq_bind, Option.bind_some, content,
    Option.bind_eq_bind, Option.bind_some, settled]

end Written

namespace Encoding

variable
  (encoding : Encoding raster)
  (storable : raster.Storable)

include storable

theorem header?_file :
    header? encoding.file = some encoding.header := by
  have describes : encoding.header.Describes raster := ⟨rfl, rfl, rfl⟩
  exact describes.header?_writeFile storable encoding.packaging.toPieces

/-- Row by row, the scanlines that were filtered are read back. -/
theorem scanlines?_file :
    scanlines? encoding.file = some encoding.scanlines := by
  have describes : encoding.header.Describes raster := ⟨rfl, rfl, rfl⟩
  have written : scanlines? encoding.file = _ :=
    describes.scanlines?_writeFile storable encoding.packaging.toPieces
  have count : encoding.scanlines.length = raster.height := by
    rw [← encoding.holds.length_eq,
      raster.length_rows_eq_height storable.width_pos]
  have sized :
      ∀ scanline ∈ encoding.scanlines,
        scanline.length = encoding.header.lineSize raster.width := by
    intro scanline member
    rw [Header.lineSize_of_indexed rfl]
    exact
      Scanline.length_of_mem_scanlines storable.bitDepth_mem
        (fun _ inRows => raster.length_of_mem_rows inRows) encoding.holds member
  have unfiltered := encoding.filtered.readFiltered_append sized []
  rw [count, List.append_nil] at unfiltered
  rw [written]
  exact congrArg (Option.map Prod.fst) unfiltered

end Encoding

namespace InterlacedEncoding

variable
  (encoding : InterlacedEncoding raster)
  (storable : raster.Storable)

include storable

theorem header?_file :
    header? encoding.file = some encoding.header := by
  have describes : encoding.header.Describes raster := ⟨rfl, rfl, rfl⟩
  exact describes.header?_writeFile storable encoding.packaging.toPieces

end InterlacedEncoding

end Files

namespace Carries

variable
  {stream : Bytes}
  {opening : Prelude.Opening}
  {raster : Raster}
  (carries : Carries opening stream raster)
  (sound : opening.prelude.Sound)
  (indexed : opening.prelude.header.colourType = .indexed)

include carries

theorem width_pos
    (sound : opening.prelude.Sound) :
    0 < raster.width := by
  have within := sound.frameSize_within
  rw [carries.size_eq] at within
  exact within.width_pos

theorem bitDepth_mem
    (sound : opening.prelude.Sound)
    (indexed : opening.prelude.header.colourType = .indexed) :
    raster.bitDepth ∈ Scanline.depths := by
  rw [← carries.depth_eq]
  exact depth_mem_of_indexed sound indexed

/-- A line takes the bytes that the raster's rows need. -/
theorem lineSize_eq
    (indexed : opening.prelude.header.colourType = .indexed)
    (width : Nat) :
    opening.prelude.header.lineSize width =
      Scanline.size raster.bitDepth width := by
  rw [Header.lineSize_of_indexed indexed, carries.depth_eq]

include indexed

/-- Without passes, the raster's indices are the pixels of the stored scanlines. -/
theorem exists_scanlines_of_plain
    (plain : opening.prelude.header.interlaced = false) :
    ∃ scanlines,
      storedScanlines? opening.prelude stream = some scanlines ∧
        scanlines.length = raster.height ∧
        (∀ scanline ∈ scanlines,
          scanline.length = Scanline.size raster.bitDepth raster.width) ∧
        raster.indices =
          Scanline.unpackAll raster.bitDepth raster.width
            (Scanline.size raster.bitDepth raster.width) raster.height
            scanlines.flatten := by
  have found := carries.indices_eq
  rw [indices?, carries.size_eq, carries.depth_eq] at found
  obtain ⟨buffer, decoded, unpacked⟩ := Option.map_eq_some_iff.mp found
  simp only [scanlineBuffer?, plain, carries.size_eq,
    carries.lineSize_eq indexed, Bool.false_eq_true, ↓reduceIte] at decoded
  obtain ⟨⟨scanlines, _⟩, unfiltered, joined⟩ := Option.bind_eq_some_iff.mp decoded
  obtain ⟨count, sized⟩ := Scanline.sized_of_readFiltered unfiltered
  refine ⟨scanlines, ?_, count, sized, ?_⟩
  · simp only [storedScanlines?, plain, carries.size_eq,
      carries.lineSize_eq indexed, Bool.false_eq_true, ↓reduceIte, unfiltered,
      Option.map_some]
  · rw [← unpacked, ← Option.some.inj joined, carries.lineSize_eq indexed]

include sound

/-- In passes, on a canvas of its own width, the raster's rows are those put together. -/
theorem read?_eq_rows
    (interlaced : opening.prelude.header.interlaced = true)
    (whole : opening.prelude.header.canvas.width = raster.width) :
    Interlace.read? raster.bitDepth raster.width raster.height stream =
      some raster.rows := by
  have standard := carries.bitDepth_mem sound indexed
  have widthPos := carries.width_pos sound
  have found := carries.indices_eq
  rw [indices?, carries.size_eq, carries.depth_eq] at found
  obtain ⟨buffer, decoded, unpacked⟩ := Option.map_eq_some_iff.mp found
  simp only [scanlineBuffer?, interlaced, carries.size_eq, carries.depth_eq,
    carries.lineSize_eq indexed, whole, ↓reduceIte] at decoded
  obtain ⟨rows, read, laid⟩ := Option.bind_eq_some_iff.mp decoded
  obtain ⟨sized, small⟩ := Interlace.sized_of_read? standard read
  have holds := Scanline.holds_map_pack standard rows
  have filled :=
    Scanline.spaced_of_sized (Scanline.size_pos standard widthPos)
      fun _ member =>
        Scanline.length_of_mem_scanlines standard sized.width_eq holds member
  rw [List.length_map, sized.height_eq, Option.some.inj laid] at filled
  have joined :=
    Scanline.unpackAll_of_holds standard widthPos sized.width_eq small holds []
  rw [List.append_nil, sized.height_eq, ← filled,
    ← carries.lineSize_eq indexed, unpacked] at joined
  rw [read, raster.rows_eq_of_flatten widthPos sized.width_eq joined]

end Carries

section Bitmaps

variable
  {stream : Bytes}
  {opening : Prelude.Opening}
  {raster : Raster}
  (carries : Carries opening stream raster)
  (sound : opening.prelude.Sound)
  (indexed : opening.prelude.header.colourType = .indexed)
  (deep : raster.bitDepth = 4)

include carries sound indexed deep

/-- Row by row, a picture of four bits is stored as its bitmap. -/
theorem exists_scanlines_of_bitmap
    (plain : opening.prelude.header.interlaced = false)
    (even : raster.width % 2 = 0) :
    ∃ scanlines,
      storedScanlines? opening.prelude stream = some scanlines ∧
        raster.rows.flatMap packNibbles = scanlines.flatten := by
  obtain ⟨scanlines, stored, count, sized, unpacked⟩ :=
    carries.exists_scanlines_of_plain indexed plain
  rw [deep, Scanline.size_four even] at sized unpacked
  have unpacks : raster.Unpacks scanlines.flatten := {
    width_pos := carries.width_pos sound
    even := even
    complete := by
      rw [Traversal.length_flatten_of_sized sized, count]
    indices_eq := unpacked
  }
  exact ⟨scanlines, stored, unpacks.flatMap_packNibbles_rows⟩

omit carries sound indexed deep in
/-- No row of a sprite's passes ends within a byte. -/
theorem whole_of_mem_passSizes
    {size : Interlace.PassSize}
    (member : size ∈ Interlace.passSizes 64 128) :
    size.Whole 4 := by
  have all :
      ∀ size ∈ Interlace.passSizes 64 128,
        0 < size.width ∧ Scanline.size 4 size.width * (8 / 4) = size.width := by
    decide
  obtain ⟨widthPos, bytes⟩ := all size member
  exact ⟨widthPos, bytes⟩

/-- In passes, a sprite is stored as the scanlines of its seven passes. -/
theorem storedScanlines?_of_passes
    (interlaced : opening.prelude.header.interlaced = true)
    (sized : raster.SpriteSized)
    (whole : opening.prelude.header.canvas.width = 64) :
    storedScanlines? opening.prelude stream =
      some
        ((Interlace.passes.flatMap fun pass => pass.rows raster.rows).map
          (Scanline.pack 4)) := by
  obtain ⟨width, height⟩ := sized
  have read :=
    carries.read?_eq_rows sound indexed interlaced (whole.trans width.symm)
  rw [deep, width, height] at read
  have stored :=
    Interlace.readScanlines?_of_read? Scanline.four_mem_depths
      (fun _ member => whole_of_mem_passSizes member) read
  simp only [storedScanlines?, interlaced, carries.size_eq, carries.depth_eq,
    deep, width, height, ↓reduceIte, stored]

end Bitmaps

end Png

end SpritePack
