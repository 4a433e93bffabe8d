import SpritePack.Png.Writer
import SpritePack.Proofs.Scanline.Filtering
import SpritePack.Proofs.Scanline.Packing
import SpritePack.Raster
import SpritePack.Zlib.Stored

namespace SpritePack

/-!
# Picture files of a raster

One raster has many files.  A writer is free in the bits that fill up a row, in
the filter of each row, in the blocks that the image data is stored in, and in
the pieces that the stored data is cut into.  An encoding is one such choice.
-/

/-- What an indexed picture can hold: its sizes, its depth and the number of its colours. -/
structure Raster.Storable
    (raster : Raster) : Prop where
  width_pos : 0 < raster.width
  width_lt : raster.width < 65536
  height_pos : 0 < raster.height
  height_lt : raster.height < 65536
  bitDepth_mem : raster.bitDepth ∈ Scanline.depths
  index_lt : ∀ index ∈ raster.indices, index.toNat < 2 ^ raster.bitDepth
  palette_pos : 0 < raster.palette.length
  palette_le : raster.palette.length ≤ 256

/-- What a raster must be for its rows to be packed, however large it is. -/
structure Raster.Packable
    (raster : Raster) : Prop where
  width_pos : 0 < raster.width
  bitDepth_mem : raster.bitDepth ∈ Scanline.depths
  index_lt : ∀ index ∈ raster.indices, index.toNat < 2 ^ raster.bitDepth

theorem Raster.Storable.packable
    {raster : Raster}
    (storable : raster.Storable) :
    raster.Packable where
  width_pos := storable.width_pos
  bitDepth_mem := storable.bitDepth_mem
  index_lt := storable.index_lt

namespace Png

/-- A stream that decompresses to the data, in the pieces that it is cut into. -/
structure Pieces
    (data : Bytes) where
  list : List Bytes
  decompress?_flatten : Zlib.decompress? list.flatten = some data
  length_lt : ∀ piece ∈ list, piece.length < 4294967296

/--
How data is stored and cut: the two bytes of the stream's header, the blocks that
hold the data, and the pieces that make up the stream.
-/
structure Packaging
    (data : Bytes) where
  method : UInt8
  flags : UInt8
  isHeader : Zlib.isHeader method flags = true
  blocks : List Bytes
  blocks_flatten : blocks.flatten = data
  block_lt : ∀ block ∈ blocks, block.length < 65536
  pieces : List Bytes
  pieces_flatten : pieces.flatten = Zlib.storeUnder method flags blocks
  piece_lt : ∀ piece ∈ pieces, piece.length < 4294967296

namespace Packaging

variable {data : Bytes}

/-- Data stored in blocks of one size and cut into pieces of one size. -/
def ofSizes
    (data : Bytes)
    (blockSize pieceSize : Nat)
    (blockSize_pos : 0 < blockSize)
    (blockSize_lt : blockSize < 65536)
    (pieceSize_pos : 0 < pieceSize)
    (pieceSize_lt : pieceSize < 4294967296) :
    Packaging data where
  method := 0x78
  flags := 0x01
  isHeader := Zlib.isHeader_usual
  blocks := Traversal.chunks blockSize data
  blocks_flatten := Traversal.flatten_chunks blockSize_pos data
  block_lt _ member :=
    Nat.lt_of_le_of_lt (Traversal.length_le_of_mem_chunks member) blockSize_lt
  pieces :=
    Traversal.chunks pieceSize (Zlib.store (Traversal.chunks blockSize data))
  pieces_flatten := Traversal.flatten_chunks pieceSize_pos _
  piece_lt _ member :=
    Nat.lt_of_le_of_lt (Traversal.length_le_of_mem_chunks member) pieceSize_lt

/-- The stream is read back from the pieces. -/
theorem decompress?_pieces
    (packaging : Packaging data) :
    Zlib.decompress? packaging.pieces.flatten = some data := by
  have read :=
    Zlib.decompress?_storeUnder packaging.isHeader packaging.block_lt []
  rw [List.append_nil, packaging.blocks_flatten] at read
  rw [packaging.pieces_flatten, read]

/-- The pieces of stored data. -/
def toPieces
    (packaging : Packaging data) :
    Pieces data where
  list := packaging.pieces
  decompress?_flatten := packaging.decompress?_pieces
  length_lt := packaging.piece_lt

end Packaging

/-- No stream is empty, so it has a piece. -/
theorem Pieces.list_ne_nil
    {data : Bytes}
    (pieces : Pieces data) :
    pieces.list ≠ [] := by
  intro none
  have stream := pieces.decompress?_flatten
  rw [none] at stream
  cases stream

/-- A choice of all that a writer is free in when it stores a raster row by row. -/
structure Encoding
    (raster : Raster) where
  scanlines : List Bytes
  holds :
    List.Forall₂ (Scanline.Holds raster.bitDepth) raster.rows scanlines
  filters : Nat → Filter
  stream : Bytes
  filtered : Scanline.Filtered filters 0 [] scanlines stream
  packaging : Packaging stream

namespace Encoding

variable {raster : Raster}

/-- A raster with clear bits behind its rows, in blocks of one size and pieces of one size. -/
def ofSizes
    (raster : Raster)
    (standard : raster.bitDepth ∈ Scanline.depths)
    (filters : Nat → Filter)
    {blockSize pieceSize : Nat}
    (blockSize_pos : 0 < blockSize)
    (blockSize_lt : blockSize < 65536)
    (pieceSize_pos : 0 < pieceSize)
    (pieceSize_lt : pieceSize < 4294967296) :
    Encoding raster where
  scanlines := raster.rows.map (Scanline.pack raster.bitDepth)
  holds := Scanline.holds_map_pack standard raster.rows
  filters := filters
  stream :=
    Scanline.writeFiltered filters
      (raster.rows.map (Scanline.pack raster.bitDepth))
  filtered := Scanline.filtered_filterLines filters 0 [] _
  packaging :=
    .ofSizes _ blockSize pieceSize blockSize_pos blockSize_lt pieceSize_pos
      pieceSize_lt

/-- The header of a raster's file. -/
def header (_ : Encoding raster) : Header where
  canvas := ⟨raster.width, raster.height⟩
  depth := raster.bitDepth
  colourType := .indexed
  interlaced := false

/-- The file that the choice leads to. -/
def file (encoding : Encoding raster) : Bytes :=
  writeFile encoding.header raster.palette [] encoding.packaging.pieces

end Encoding

end Png

end SpritePack
