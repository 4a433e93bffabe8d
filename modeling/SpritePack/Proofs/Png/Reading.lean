import SpritePack.Png.ImageData
import SpritePack.Png.Prelude
import SpritePack.Png.Writer

namespace SpritePack.Png

/-!
# Reading written chunks

A written chunk is found as it was written, and one with image data adds its
content to the pieces so far.  So a run of such chunks gives the pieces in the
order they were written in.
-/

section Kinds

@[simp] theorem kind_header :
    ChunkKind.ofName (chunkName 'I' 'H' 'D' 'R') = .header := by
  decide

@[simp] theorem kind_palette :
    ChunkKind.ofName (chunkName 'P' 'L' 'T' 'E') = .palette := by
  decide

@[simp] theorem kind_imageData :
    ChunkKind.ofName (chunkName 'I' 'D' 'A' 'T') = .imageData := by
  decide

@[simp] theorem kind_imageEnd :
    ChunkKind.ofName (chunkName 'I' 'E' 'N' 'D') = .imageEnd := by
  decide

@[simp] theorem kind_animation :
    ChunkKind.ofName (chunkName 'a' 'c' 'T' 'L') = .animation := by
  decide

@[simp] theorem kind_frame :
    ChunkKind.ofName (chunkName 'f' 'c' 'T' 'L') = .frame := by
  decide

theorem length_chunkName
    (first second third fourth : Char) :
    (chunkName first second third fourth).length = 4 :=
  rfl

end Kinds

theorem read?_writeChunk
    {name content : Bytes}
    (named : name.length = 4)
    (short : content.length < 4294967296)
    (rest : Bytes) :
    ChunkHeader.read? (writeChunk name content ++ rest) =
      some (⟨content.length, name⟩, writeBody name content ++ rest) := by
  rw [writeChunk, List.append_assoc]
  exact ChunkHeader.read?_write ⟨content.length, name⟩ _ short named

theorem passes_of_intact
    {chunk : ChunkHeader}
    {body : ChunkBody}
    (intact : body.intact = true) :
    body.passes chunk = true := by
  rw [ChunkBody.passes, intact, Bool.true_or]

namespace ImageData

/-- A chunk of the run is one step: its content joins the pieces, and the next chunk decides. -/
theorem collectFrom?_of_read?
    {chunk following : ChunkHeader}
    {body : ChunkBody}
    {bytes rest rest' : Bytes}
    (pieces : List Bytes)
    (number : Nat)
    (isData : chunk.kind = .imageData)
    (bodyRead : ChunkBody.read? chunk bytes = some (body, rest))
    (intact : body.intact = true)
    (followingRead : ChunkHeader.read? rest = some (following, rest')) :
    collectFrom? pieces number chunk bytes =
      if following.kind = .imageData then
        collectFrom? (body.content :: pieces) (number + 1) following rest'
      else
        some (body.content :: pieces).reverse.flatten := by
  have piece : piece? number chunk body = some body.content := by
    rw [piece?, if_pos (passes_of_intact intact), isData]
    rfl
  rw [collectFrom?]
  split
  next noBody =>
    rw [noBody] at bodyRead
    cases bodyRead
  next bodyFound =>
    rw [bodyFound] at bodyRead
    cases bodyRead
    rw [piece]
    dsimp only
    split
    next noChunk =>
      rw [noChunk] at followingRead
      cases followingRead
    next chunkFound =>
      rw [chunkFound] at followingRead
      cases followingRead
      rw [isData]

theorem collectFrom?_writeBody
    {name : Bytes}
    {following : ChunkHeader}
    {rest rest' : Bytes}
    (pieces : List Bytes)
    (number : Nat)
    (piece : Bytes)
    (isData : ChunkKind.ofName name = .imageData)
    (followingRead : ChunkHeader.read? rest = some (following, rest')) :
    collectFrom? pieces number ⟨piece.length, name⟩
        (writeBody name piece ++ rest) =
      if following.kind = .imageData then
        collectFrom? (piece :: pieces) (number + 1) following rest'
      else
        some (piece :: pieces).reverse.flatten := by
  have chunkIsData :
      (⟨piece.length, name⟩ : ChunkHeader).kind = .imageData :=
    isData
  exact
    collectFrom?_of_read? pieces number chunkIsData
      (ChunkBody.read?_writeBody name piece rest) rfl followingRead

/-- The pieces of a run of written chunks are collected in order, up to a chunk of another kind. -/
theorem collectFrom?_writeChunks
    {name : Bytes}
    {following : ChunkHeader}
    {tail rest : Bytes}
    (named : name.length = 4)
    (isData : ChunkKind.ofName name = .imageData)
    (tailRead : ChunkHeader.read? tail = some (following, rest))
    (isOther : following.kind ≠ .imageData)
    (piece : Bytes)
    (others pieces : List Bytes)
    (number : Nat)
    (short : ∀ other ∈ others, other.length < 4294967296) :
    collectFrom? pieces number ⟨piece.length, name⟩
        (writeBody name piece ++
          (others.flatMap (writeChunk name) ++ tail)) =
      some (pieces.reverse.flatten ++ (piece :: others).flatten) := by
  induction others generalizing piece pieces number with
  | nil =>
      rw [List.flatMap_nil, List.nil_append,
        collectFrom?_writeBody pieces number piece isData tailRead,
        if_neg isOther]
      simp
  | cons second others inductionHypothesis =>
      have secondShort := short second List.mem_cons_self
      have othersShort := fun other member =>
        short other (List.mem_cons_of_mem second member)
      have followingRead :=
        read?_writeChunk named secondShort
          (others.flatMap (writeChunk name) ++ tail)
      have secondIsData :
          (⟨second.length, name⟩ : ChunkHeader).kind = .imageData :=
        isData
      rw [List.flatMap_cons, List.append_assoc,
        collectFrom?_writeBody pieces number piece isData followingRead,
        if_pos secondIsData, inductionHypothesis _ _ _ othersShort]
      simp

end ImageData

end SpritePack.Png
