import SpritePack.Proofs.Png.Scanlines

namespace SpritePack

/-!
# From scanlines to bitmaps

A picture of four bits holds the bytes of its bitmap.  Row by row, the bitmap is
its scanlines just as these are stored.  In passes the scanlines are those of
seven smaller pictures, so the bitmap has the same pixels in another order.
-/

namespace Raster

section Passes

variable
  {raster : Raster}
  (sized : raster.SpriteSized)

/-- The first pass has every eighth pixel of the first row. -/
theorem getElem?_firstPass
    {column : Nat}
    (inWidth : 8 * column < raster.width)
    (inHeight : 0 < raster.height) :
    ((Interlace.Pass.rows ⟨0, 8, 0, 8⟩ raster.rows)[0]?.bind
        fun row => row[column]?) =
      some (raster.index (8 * column) 0 inWidth inHeight) := by
  have member : (⟨0, 8, 0, 8⟩ : Interlace.Pass) ∈ Interlace.passes := by
    decide
  have found := Interlace.Pass.getElem?_rows member raster.rows column 0
  rw [Nat.mul_zero, Nat.zero_add, Nat.zero_add] at found
  rw [found, raster.getElem?_row inWidth inHeight]

include sized

theorem length_of_mem_firstPass
    {row : Bytes}
    (member : row ∈ Interlace.Pass.rows ⟨0, 8, 0, 8⟩ raster.rows) :
    row.length = 8 := by
  obtain ⟨width, height⟩ := sized
  have widthPos : 0 < raster.width := by
    rw [width]
    decide
  have passesSized := raster.sized_passes widthPos
  rw [width, height] at passesSized
  obtain ⟨first, _⟩ := List.forall₂_cons.mp passesSized
  exact first.width_eq row member

variable (small : ∀ index ∈ raster.indices, index.toNat < 16)

include small

/-- Of a sprite in passes, the first byte has the first and the ninth pixel. -/
theorem head_scanlines_of_passes
    (inWidth : 0 < raster.width)
    (inWidth' : 8 < raster.width)
    (inHeight : 0 < raster.height) :
    ((Interlace.passes.flatMap fun pass => pass.rows raster.rows).map
        (Scanline.pack 4)).flatten[0]? =
      some
        ((raster.index 0 0 inWidth inHeight <<< 4) |||
          raster.index 8 0 inWidth' inHeight) := by
  have leftAt := getElem?_firstPass (show 8 * 0 < raster.width from inWidth) inHeight
  have rightAt := getElem?_firstPass (show 8 * 1 < raster.width from inWidth') inHeight
  cases first : Interlace.Pass.rows ⟨0, 8, 0, 8⟩ raster.rows with
  | nil =>
      rw [first] at leftAt
      cases leftAt
  | cons row others =>
      rw [first, List.getElem?_cons_zero, Option.bind_some] at leftAt rightAt
      have member : row ∈ Interlace.Pass.rows ⟨0, 8, 0, 8⟩ raster.rows := by
        rw [first]
        exact List.mem_cons_self
      have even : row.length % 2 = 0 := by
        rw [length_of_mem_firstPass sized member]
      have rowSmall : ∀ pixel ∈ row, pixel.toNat < 16 := by
        obtain ⟨whole, inRows, among⟩ := Interlace.exists_mem_of_mem_rows member
        exact fun pixel inRow =>
          raster.forall_mem_rows small whole inRows pixel (among pixel inRow)
      have byteAt :
          (Scanline.pack 4 row)[0]? =
            some
              ((raster.index 0 0 inWidth inHeight <<< 4) |||
                raster.index 8 0 inWidth' inHeight) := by
        rw [Scanline.pack_four_eq_packNibbles even rowSmall]
        exact getElem?_packNibbles leftAt rightAt
      have inside := (List.getElem?_eq_some_iff.mp byteAt).1
      rw [Interlace.passes, List.flatMap_cons, first, List.cons_append,
        List.map_cons, List.flatten_cons, List.getElem?_append_left inside, byteAt]

end Passes

section Files

variable
  {file : Bytes}
  {header : Png.Header}
  {raster : Raster}
  (headed : Png.header? file = some header)
  (loaded : load file = .ok raster)

include headed loaded

/-- A raster that is loaded is carried by the image data behind a sound prelude. -/
theorem exists_carries_of_load :
    ∃ opening stream,
      Png.Carries opening stream raster ∧
        opening.prelude.Sound ∧
        opening.prelude.header = header ∧
        header.colourType = .indexed ∧
        Png.scanlines? file = Png.storedScanlines? opening.prelude stream := by
  obtain ⟨opening, table, opens, indexed, _, read⟩ := exists_opening_of_load loaded
  obtain ⟨sound, _⟩ := Png.Prelude.sound_of_read? opens
  obtain ⟨stream, carries⟩ := Png.exists_carries_of_readRaster? read
  rw [Png.header?_of_read? opens] at headed
  obtain rfl := Option.some.inj headed
  exact
    ⟨opening, stream, carries, sound, rfl, indexed, carries.scanlines?_eq opens⟩

variable (deep : header.depth = 4)

include deep

/-- The scanlines of a loaded picture of four bits, row by row. -/
theorem exists_scanlines_of_load
    (plain : header.interlaced = false)
    (even : raster.width % 2 = 0) :
    ∃ scanlines,
      Png.scanlines? file = some scanlines ∧
        raster.rows.flatMap packNibbles = scanlines.flatten := by
  obtain ⟨opening, stream, carries, sound, rfl, indexed, stored⟩ :=
    exists_carries_of_load headed loaded
  rw [stored]
  exact
    Png.exists_scanlines_of_bitmap carries sound indexed
      (carries.depth_eq.symm.trans deep) plain even

/-- The scanlines of a loaded sprite of four bits, in passes. -/
theorem scanlines?_of_load
    (interlaced : header.interlaced = true)
    (whole : header.canvas.width = 64)
    (sized : raster.SpriteSized) :
    Png.scanlines? file =
      some
        ((Interlace.passes.flatMap fun pass => pass.rows raster.rows).map
          (Scanline.pack 4)) := by
  obtain ⟨opening, stream, carries, sound, rfl, indexed, stored⟩ :=
    exists_carries_of_load headed loaded
  rw [stored]
  exact
    Png.storedScanlines?_of_passes carries sound indexed
      (carries.depth_eq.symm.trans deep) interlaced sized whole

end Files

/--
Packing undoes unpacking at four bits.  A buffer is packed again from its pixels,
whatever its bytes are, if no row ends within a byte.  So the bitmap of a picture
of four bits that comes row by row is the sequence of its scanlines.  In passes,
on a canvas of the sprite's width, the bitmap has the picture's rows, and the
stored scanlines are those of its seven passes.
-/
theorem packing_undoes_unpacking :
    (∀ (width height : Nat) (buffer : Bytes),
      2 ≤ width →
      width % 2 = 0 →
      buffer.length = height * (width / 2) →
      ∃ indices,
        Scanline.readRows 4 width (width / 2) height buffer = .ok indices ∧
          (∀ palette, (ofIndices? width height indices palette).isSome) ∧
          ∀ raster : Raster,
            raster.width = width →
            raster.height = height →
            raster.indices = indices →
            raster.packBitmap 16 = .ok buffer ∧
              (raster.indices.length < UInt64.size →
                raster.readBitmap 16 = .ok (.ok buffer))) ∧
    ∀ (file : Bytes) (header : Png.Header) (raster : Raster) (sprite : Sprite),
      Png.header? file = some header →
      header.depth = 4 →
      load file = .ok raster →
      raster.toSprite = .ok sprite →
      (header.interlaced = false →
        ∃ scanlines,
          Png.scanlines? file = some scanlines ∧
            sprite.bitmap = scanlines.flatten) ∧
      (header.interlaced = true →
        header.canvas.width = 64 →
        sprite.bitmap = raster.rows.flatMap (Scanline.pack 4) ∧
          Png.scanlines? file =
            some
              ((Interlace.passes.flatMap fun pass => pass.rows raster.rows).map
                (Scanline.pack 4))) := by
  refine ⟨fun _ _ _ => exists_readRows_repacked, ?_⟩
  intro file header raster sprite headed deep loaded accepted
  have bitmap := bitmap_eq_of_toSprite accepted
  obtain ⟨sized, _, _, rfl⟩ := eq_packed_of_toSprite accepted
  have even : raster.width % 2 = 0 := by
    rw [sized.1]
  refine ⟨fun plain => ?_, fun interlaced whole => ⟨bitmap, ?_⟩⟩
  · exact exists_scanlines_of_load headed loaded deep plain even
  · exact scanlines?_of_load headed loaded deep interlaced whole sized

theorem indices_atDepth
    (raster : Raster)
    (depth : Nat) :
    (raster.atDepth depth).indices = raster.indices :=
  rfl

/-- Stripes of three colours, with four bits to an index. -/
def deepStripes : Raster :=
  (stripes ⟨0, 0, 0⟩ ⟨0xFF, 0x10, 0⟩ ⟨0x12, 0x34, 0x56⟩).atDepth 4

theorem index_deepStripes
    {x y : Nat}
    (inWidth : x < deepStripes.width)
    (inHeight : y < deepStripes.height) :
    deepStripes.index x y inWidth inHeight = ((x + y * 64) % 3).toUInt8 := by
  simp only [index, deepStripes, atDepth, stripes, List.get_eq_getElem,
    List.getElem_map, List.getElem_range]

theorem lt_of_mem_deepStripes :
    ∀ index ∈ deepStripes.indices, index.toNat < 16 := by
  intro index member
  rw [deepStripes, indices_atDepth] at member
  exact Nat.lt_trans (lt_of_mem_stripes member) (by decide)

theorem storable_deepStripes : deepStripes.Storable where
  width_pos := by decide
  width_lt := by decide
  height_pos := by decide
  height_lt := by decide
  bitDepth_mem := by decide
  index_lt := lt_of_mem_deepStripes
  palette_pos := by decide
  palette_le := by decide

/-- The depth that a raster was stored at makes no difference to its parts. -/
theorem toSprite_atDepth
    (raster : Raster)
    (depth : Nat) :
    (raster.atDepth depth).toSprite = raster.toSprite :=
  rfl

theorem exists_toSprite_deepStripes :
    ∃ sprite, deepStripes.toSprite = .ok sprite := by
  rw [deepStripes, toSprite_atDepth]
  exact ⟨_, toSprite_stripes ..⟩

/-- The stripes row by row, unfiltered and in one piece. -/
def stripesByRows : Png.Encoding deepStripes :=
  .ofSizes deepStripes storable_deepStripes.bitDepth_mem (fun _ => .none)
    (show 0 < 8192 by decide) (by decide) (show 0 < 8192 by decide) (by decide)

/-- The stripes in passes, unfiltered and in one piece. -/
def stripesInPasses : Png.InterlacedEncoding deepStripes :=
  .ofSizes deepStripes storable_deepStripes.bitDepth_mem (fun _ _ => .none)
    (show 0 < 8192 by decide) (by decide) (show 0 < 8192 by decide) (by decide)

/--
A small buffer is packed again.  The scanlines of the stripes that come row by row
are their bitmap; those of the stripes in passes are those of the passes.
-/
theorem packing_undoes_unpacking_of_stripes :
    Scanline.readRows 4 4 2 2 [0x12, 0x34, 0x56, 0x78] =
        .ok [1, 2, 3, 4, 5, 6, 7, 8] ∧
      (∃ raster,
        ofIndices? 4 2 [1, 2, 3, 4, 5, 6, 7, 8] [] = some raster ∧
          raster.packBitmap 16 = .ok [0x12, 0x34, 0x56, 0x78]) ∧
      ∃ sprite,
        deepStripes.toSprite = .ok sprite ∧
          sprite.bitmap = stripesByRows.scanlines.flatten ∧
          Png.scanlines? stripesInPasses.file =
            some
              ((Interlace.passes.flatMap fun pass => pass.rows deepStripes.rows).map
                (Scanline.pack 4)) := by
  obtain ⟨repacked, stored⟩ := packing_undoes_unpacking
  have lines :
      Traversal.chunks 2 ([0x12, 0x34, 0x56, 0x78] : Bytes) =
        [[0x12, 0x34], [0x56, 0x78]] := by
    simp [Traversal.chunks_eq_cons]
  have unpacked :
      Scanline.readRows 4 4 2 2 [0x12, 0x34, 0x56, 0x78] =
        .ok [1, 2, 3, 4, 5, 6, 7, 8] := by
    rw [Scanline.readRows, lines]
    rfl
  obtain ⟨indices, read, _, again⟩ :=
    repacked 4 2 [0x12, 0x34, 0x56, 0x78] (by decide) (by decide) (by decide)
  obtain rfl := Except.ok.inj (unpacked.symm.trans read)
  have storable := storable_deepStripes
  obtain ⟨sprite, accepted⟩ := exists_toSprite_deepStripes
  obtain ⟨byRows, _⟩ :=
    stored _ _ _ _ (stripesByRows.header?_file storable) rfl
      (stripesByRows.load_file storable) accepted
  obtain ⟨_, inPasses⟩ :=
    stored _ _ _ _ (stripesInPasses.header?_file storable) rfl
      (stripesInPasses.load_file storable) accepted
  obtain ⟨scanlines, found, same⟩ := byRows rfl
  rw [stripesByRows.scanlines?_file storable] at found
  obtain rfl := Option.some.inj found
  obtain ⟨_, passes⟩ := inPasses rfl rfl
  exact
    ⟨unpacked, ⟨⟨4, 2, 8, [1, 2, 3, 4, 5, 6, 7, 8], [], rfl⟩, rfl,
      (again _ rfl rfl rfl).1⟩, sprite, accepted, same, passes⟩

/-- The stripes in passes have their ninth pixel where the bitmap has the second. -/
theorem bitmap_ne_scanlines_of_stripesInPasses :
    ∃ sprite scanlines,
      Png.header? stripesInPasses.file = some stripesInPasses.header ∧
        stripesInPasses.header.colourType = .indexed ∧
        stripesInPasses.header.depth = 4 ∧
        load stripesInPasses.file = .ok deepStripes ∧
        deepStripes.toSprite = .ok sprite ∧
        Png.scanlines? stripesInPasses.file = some scanlines ∧
        sprite.bitmap ≠ scanlines.flatten := by
  have sized : deepStripes.SpriteSized := ⟨rfl, rfl⟩
  have headed := stripesInPasses.header?_file storable_deepStripes
  have loaded := stripesInPasses.load_file storable_deepStripes
  have stored := scanlines?_of_load headed loaded rfl rfl rfl sized
  obtain ⟨sprite, accepted⟩ := exists_toSprite_deepStripes
  refine ⟨sprite, _, headed, rfl, rfl, loaded, accepted, stored, ?_⟩
  intro same
  have inHeight : 0 < deepStripes.height := by decide
  have second :=
    deepStripes.getElem?_bitmap (show 2 * 0 + 1 < deepStripes.width by decide)
      inHeight
  have ninth :=
    head_scanlines_of_passes sized lt_of_mem_deepStripes
      (show 0 < deepStripes.width by decide)
      (show 8 < deepStripes.width by decide) inHeight
  obtain ⟨_, _, _, rfl⟩ := eq_packed_of_toSprite accepted
  simp only [index_deepStripes] at second ninth
  have sameByte :=
    (second.symm.trans (congrArg (fun bytes => bytes[0]?) same)).trans ninth
  exact absurd sameByte (by decide)

end Raster

end SpritePack
