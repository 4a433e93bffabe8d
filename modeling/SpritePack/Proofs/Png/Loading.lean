import SpritePack.Png.Load
import SpritePack.Proofs.Png.Encoding
import SpritePack.Proofs.Png.Lead

namespace SpritePack

/-!
# Loading written files

A written file opens on the prelude that was settled before its image data, and
the data behind it is what was packaged.  So a raster is loaded from it exactly
if that data gives the raster's indices.
-/

namespace Png

/-- That the chunk at the start of what follows image data does not go on with it. -/
def EndsData (tail : Bytes) : Prop :=
  ∃ following rest,
    ChunkHeader.read? tail = some (following, rest) ∧
      following.kind ≠ .imageData

theorem endsData_imageEnd :
    EndsData (writeChunk (chunkName 'I' 'E' 'N' 'D') []) := by
  have read :=
    read?_writeChunk (length_chunkName 'I' 'E' 'N' 'D')
      (show ([] : Bytes).length < 4294967296 by decide) []
  rw [List.append_nil] at read
  refine ⟨_, _, read, ?_⟩
  rw [ChunkHeader.kind, kind_imageEnd]
  decide

/-- Image data is found behind the prelude, and read back up to a chunk of another kind. -/
theorem Pieces.opens
    {data : Bytes}
    (pieces : Pieces data)
    {prelude : Prelude}
    (fits : prelude.fits = true)
    {tail : Bytes}
    (ends : EndsData tail) :
    ∃ opening : Prelude.Opening,
      Prelude.readFrom? (some prelude)
          (pieces.list.flatMap (writeChunk (chunkName 'I' 'D' 'A' 'T')) ++
            tail) =
        some opening ∧
      opening.prelude = prelude ∧
      ∀ number,
        ImageData.read? number opening.chunk opening.rest = some data := by
  obtain ⟨following, rest, tailRead, isOther⟩ := ends
  obtain ⟨first, others, list⟩ :=
    List.exists_cons_of_ne_nil pieces.list_ne_nil
  have short := pieces.length_lt
  have content := pieces.decompress?_flatten
  rw [list] at short content
  have opened :=
    Prelude.readFrom?_writeChunk_imageData (short first List.mem_cons_self)
      prelude (others.flatMap (writeChunk (chunkName 'I' 'D' 'A' 'T')) ++ tail)
  rw [if_pos fits] at opened
  rw [list, List.flatMap_cons, List.append_assoc]
  refine ⟨_, opened, rfl, ?_⟩
  intro number
  have stream :=
    ImageData.collectFrom?_writeChunks (length_chunkName 'I' 'D' 'A' 'T')
      kind_imageData tailRead isOther first others [] number
      fun other member => short other (List.mem_cons_of_mem first member)
  rw [List.reverse_nil, List.flatten_nil, List.nil_append] at stream
  rw [ImageData.read?, stream]
  exact content

/-- A written file opens on its header and palette, with its data behind them. -/
theorem Pieces.opens_writeFile
    {data : Bytes}
    (pieces : Pieces data)
    {header : Header}
    {palette : List Colour}
    (valid : header.Valid)
    (present : 0 < palette.length)
    (few : palette.length ≤ 256)
    (fits : (Prelude.ofPalette header palette).fits = true) :
    ∃ opening : Prelude.Opening,
      Prelude.read? (writeFile header palette [] pieces.list) = some opening ∧
        opening.prelude = .ofPalette header palette ∧
        ∀ number,
          ImageData.read? number opening.chunk opening.rest = some data := by
  obtain ⟨opening, opens, settled, stream⟩ :=
    pieces.opens fits endsData_imageEnd
  have fileOpens := Prelude.read?_writeFile valid present few [] pieces.list
  rw [List.nil_append, opens] at fileOpens
  exact ⟨opening, fileOpens, settled, stream⟩

/-- A raster is read from the point where data with its indices starts. -/
theorem readRaster?_eq
    {opening : Prelude.Opening}
    {data : Bytes}
    {raster : Raster}
    (pictures : opening.prelude.pictureCount ≠ 0)
    (stream :
      ImageData.read? opening.prelude.nextNumber opening.chunk opening.rest =
        some data)
    (found : indices? opening.prelude data = some raster.indices)
    (sized : opening.prelude.frameSize = ⟨raster.width, raster.height⟩)
    (deep : opening.prelude.header.depth = raster.bitDepth) :
    readRaster? opening raster.palette = some raster := by
  have complete := raster.length_indices
  rw [readRaster?, if_neg pictures]
  simp only [stream, found, sized, deep, Option.bind_eq_bind, Option.bind_some]
  exact dif_pos complete

/-- That a file goes on, from its image data, with the indices of a raster. -/
structure Carries
    (opening : Prelude.Opening)
    (stream : Bytes)
    (raster : Raster) : Prop where
  content :
    ImageData.read? opening.prelude.nextNumber opening.chunk opening.rest =
      some stream
  indices_eq : indices? opening.prelude stream = some raster.indices
  size_eq : opening.prelude.frameSize = ⟨raster.width, raster.height⟩
  depth_eq : opening.prelude.header.depth = raster.bitDepth

theorem exists_carries_of_readRaster?
    {opening : Prelude.Opening}
    {palette : List Colour}
    {raster : Raster}
    (read : readRaster? opening palette = some raster) :
    ∃ stream, Carries opening stream raster := by
  unfold readRaster? at read
  split at read
  next =>
    cases read
  next =>
    obtain ⟨stream, content, read⟩ := Option.bind_eq_some_iff.mp read
    obtain ⟨indices, found, read⟩ := Option.bind_eq_some_iff.mp read
    obtain ⟨_, made⟩ := Option.dite_none_right_eq_some.mp read
    rw [← Option.some.inj made]
    exact ⟨stream, content, found, rfl, rfl⟩

/-- A raster that is read has the size of the first frame. -/
theorem frameSize_of_readRaster?
    {opening : Prelude.Opening}
    {palette : List Colour}
    {raster : Raster}
    (read : readRaster? opening palette = some raster) :
    opening.prelude.frameSize = ⟨raster.width, raster.height⟩ := by
  obtain ⟨_, carries⟩ := exists_carries_of_readRaster? read
  exact carries.size_eq

end Png

namespace Raster

/-- Behind a palette, the canvas is judged next, and then the image data. -/
theorem load_of_palette
    {file table : Bytes}
    {opening : Png.Prelude.Opening}
    (opens : Png.Prelude.read? file = some opening)
    (indexed : opening.prelude.header.colourType = .indexed)
    (coloured : opening.prelude.palette = some table) :
    load file =
      if Png.bufferLimit ≤ opening.prelude.header.bufferSize then
        .error .capacityOverflow
      else
        (Png.readRaster? opening (Colour.ofTriples table)).elim
          (.error .undecodable) .ok := by
  rw [load, opens]
  dsimp only
  rw [if_pos indexed, coloured]
  dsimp only
  cases Png.readRaster? opening (Colour.ofTriples table) <;> rfl

/-- A raster that is loaded was read behind a prelude. -/
theorem exists_opening_of_load
    {file : Bytes}
    {raster : Raster}
    (loaded : load file = .ok raster) :
    ∃ opening table,
      Png.Prelude.read? file = some opening ∧
        opening.prelude.header.colourType = .indexed ∧
        opening.prelude.palette = some table ∧
        Png.readRaster? opening (Colour.ofTriples table) = some raster := by
  unfold load at loaded
  split at loaded
  next =>
    cases loaded
  next opening opens =>
    dsimp only at loaded
    split at loaded
    next indexed =>
      split at loaded
      next =>
        cases loaded
      next table coloured =>
        split at loaded
        next =>
          cases loaded
        next =>
          split at loaded
          next =>
            cases loaded
          next found read =>
            cases loaded
            exact ⟨opening, table, opens, indexed, coloured, read⟩
    next =>
      cases loaded

/-- A raster is loaded from a file whose prelude and image data are its own. -/
theorem load_of_opening
    {file data : Bytes}
    {opening : Png.Prelude.Opening}
    {raster : Raster}
    (opens : Png.Prelude.read? file = some opening)
    (indexed : opening.prelude.header.colourType = .indexed)
    (coloured :
      opening.prelude.palette = some (raster.palette.flatMap Colour.toTriple))
    (small : opening.prelude.header.bufferSize < Png.bufferLimit)
    (pictures : opening.prelude.pictureCount ≠ 0)
    (stream :
      Png.ImageData.read? opening.prelude.nextNumber opening.chunk
        opening.rest = some data)
    (found : Png.indices? opening.prelude data = some raster.indices)
    (sized : opening.prelude.frameSize = ⟨raster.width, raster.height⟩)
    (deep : opening.prelude.header.depth = raster.bitDepth) :
    load file = .ok raster := by
  have read := Png.readRaster?_eq pictures stream found sized deep
  rw [load_of_palette opens indexed coloured, if_neg (Nat.not_le.mpr small),
    Colour.ofTriples_flatMap_toTriple, read, Option.elim_some]

/-- A raster is loaded from a written file if its indices are found in the image data. -/
theorem load_writeFile
    {data : Bytes}
    (pieces : Png.Pieces data)
    {header : Png.Header}
    {raster : Raster}
    (valid : header.Valid)
    (indexed : header.colourType = .indexed)
    (present : 0 < raster.palette.length)
    (few : raster.palette.length ≤ 256)
    (fits : (Png.Prelude.ofPalette header raster.palette).fits = true)
    (small : header.bufferSize < Png.bufferLimit)
    (found :
      Png.indices? (Png.Prelude.ofPalette header raster.palette) data =
        some raster.indices)
    (sized : header.canvas = ⟨raster.width, raster.height⟩)
    (deep : header.depth = raster.bitDepth) :
    load (Png.writeFile header raster.palette [] pieces.list) =
      .ok raster := by
  obtain ⟨opening, opens, settled, stream⟩ :=
    pieces.opens_writeFile valid present few fits
  rw [← settled] at found
  exact
    load_of_opening opens (by rw [settled]; exact indexed)
      (by rw [settled]; rfl) (by rw [settled]; exact small)
      (by rw [settled]; exact Nat.one_ne_zero)
      (stream _) found (by rw [settled]; exact sized) (by rw [settled]; exact deep)

end Raster

end SpritePack
