import SpritePack.Png.Lead
import SpritePack.Proofs.Png.Opening
import SpritePack.Proofs.Png.Prelude

namespace SpritePack

/-!
# Reading leads

A file is read chunk by chunk, so what is found before the image data is settled
by the lead alone, and what follows it is handed on as it is.  Any file that can
be read so far starts with a lead.
-/

/-- Four bytes are those of the word that they spell. -/
theorem Bytes.ofWord_bigEndian
    {bytes : Bytes}
    (four : bytes.length = 4) :
    ofWord (bigEndian bytes).toUInt32 = bytes := by
  match bytes, four with
  | [first, second, third, fourth], _ =>
      have firstLt := first.toNat_lt
      have secondLt := second.toNat_lt
      have thirdLt := third.toNat_lt
      have fourthLt := fourth.toNat_lt
      simp only [bigEndian, ofWord, List.foldl_cons, List.foldl_nil,
        List.cons.injEq, and_true]
      refine ⟨?_, ?_, ?_, ?_⟩ <;>
      · apply UInt8.toNat_inj.mp
        simp only [UInt32.toNat_toUInt8, UInt32.toNat_shiftRight,
          UInt32.reduceToNat, Nat.reduceMod, Nat.shiftRight_eq_div_pow,
          Nat.toUInt32_eq, UInt32.toNat_ofNat']
        omega

namespace Png

/-- The start of a chunk is read from what it is written as, and from nothing else. -/
theorem ChunkHeader.read?_eq_some_iff
    {header : ChunkHeader}
    {bytes rest : Bytes} :
    read? bytes = some (header, rest) ↔
      bytes = header.write ++ rest ∧
        header.length < 4294967296 ∧ header.name.length = 4 := by
  constructor
  · intro found
    simp only [read?, Option.bind_eq_bind, Option.bind_eq_some_iff,
      Option.some.injEq, Prod.mk.injEq, Prod.exists] at found
    obtain ⟨length, _, first, name, _, second, rfl, rfl⟩ := found
    have short := Bytes.bigEndian_lt_of_splitExactly? first
    obtain ⟨rfl, four⟩ := Bytes.splitExactly?_eq_some_iff.mp first
    obtain ⟨rfl, named⟩ := Bytes.splitExactly?_eq_some_iff.mp second
    refine ⟨?_, short, named⟩
    rw [write, Bytes.ofWord_bigEndian four, List.append_assoc]
  · rintro ⟨rfl, short, named⟩
    exact read?_write header rest short named

namespace Chunk

theorem read?_header
    (chunk : Chunk)
    (rest : Bytes) :
    ChunkHeader.read? (chunk.bytes ++ rest) =
      some (chunk.header, chunk.content ++ (chunk.check ++ rest)) := by
  rw [bytes, List.append_assoc, List.append_assoc]
  exact
    ChunkHeader.read?_eq_some_iff.mpr
      ⟨rfl, chunk.content_lt, chunk.length_name⟩

theorem read?_body
    (chunk : Chunk)
    (rest : Bytes) :
    ChunkBody.read? chunk.header (chunk.content ++ (chunk.check ++ rest)) =
      some (chunk.body, rest) := by
  have content :=
    Bytes.splitExactly?_append chunk.content (chunk.check ++ rest)
  have check := Bytes.splitExactly?_append chunk.check rest
  rw [chunk.length_check] at check
  simp only [ChunkBody.read?, header, content, check, Option.bind_eq_bind,
    Option.bind_some, body]

/-- What is read as a chunk is one. -/
theorem exists_of_read?
    {header : ChunkHeader}
    {body : ChunkBody}
    {bytes afterHeader rest : Bytes}
    (headerRead : ChunkHeader.read? bytes = some (header, afterHeader))
    (bodyRead : ChunkBody.read? header afterHeader = some (body, rest)) :
    ∃ chunk : Chunk,
      chunk.header = header ∧
        chunk.body = body ∧ bytes = chunk.bytes ++ rest := by
  obtain ⟨rfl, short, named⟩ := ChunkHeader.read?_eq_some_iff.mp headerRead
  simp only [ChunkBody.read?, Option.bind_eq_bind, Option.bind_eq_some_iff,
    Option.some.injEq, Prod.mk.injEq, Prod.exists] at bodyRead
  obtain ⟨content, _, first, check, _, second, rfl, rfl⟩ := bodyRead
  obtain ⟨rfl, length⟩ := Bytes.splitExactly?_eq_some_iff.mp first
  obtain ⟨rfl, four⟩ := Bytes.splitExactly?_eq_some_iff.mp second
  obtain ⟨_, name⟩ := header
  obtain rfl : content.length = _ := length
  exact
    ⟨⟨name, content, check, named, short, four⟩, rfl, rfl, by simp [bytes, Chunk.header]⟩

end Chunk

/-- The chunk of a header. -/
def Chunk.ofHeader (header : Header) : Chunk :=
  .ofContent (chunkName 'I' 'H' 'D' 'R') header.write (length_chunkName ..)
    (by rw [Header.length_write]; decide)

@[simp] theorem Chunk.kind_ofHeader
    (header : Header) :
    (ofHeader header).kind = .header :=
  Png.kind_header

/-- The chunk of a palette. -/
def Chunk.ofPalette
    (palette : List Colour)
    (few : palette.length ≤ 256) :
    Chunk :=
  .ofContent (chunkName 'P' 'L' 'T' 'E') (palette.flatMap Colour.toTriple)
    (length_chunkName ..)
    (Nat.lt_of_le_of_lt (length_toTriple_le few) (by decide))

@[simp] theorem Chunk.kind_ofPalette
    (palette : List Colour)
    (few : palette.length ≤ 256) :
    (ofPalette palette few).kind = .palette :=
  kind_palette

@[simp] theorem Chunk.bytes_ofContent
    (name content : Bytes)
    (length_name : name.length = 4)
    (content_lt : content.length < 4294967296) :
    (ofContent name content length_name content_lt).bytes =
      writeChunk name content := rfl

namespace Prelude

section Steps

variable
  {known : Option Prelude}
  {chunk : Chunk}

/-- A chunk before the image data is read in one step. -/
theorem readFrom?_chunk
    (before : ¬ chunk.kind.HoldsImage)
    (rest : Bytes) :
    readFrom? known (chunk.bytes ++ rest) =
      (step? known chunk).bind (readFrom? · rest) := by
  have headerRead := chunk.read?_header rest
  have bodyRead := chunk.read?_body rest
  rw [readFrom?]
  split
  next noChunk =>
    rw [noChunk] at headerRead
    cases headerRead
  next chunkFound =>
    rw [chunkFound] at headerRead
    cases headerRead
    have notData : ¬ (chunk.kind = .imageData ∨ chunk.kind = .frameData) :=
      before
    rw [Chunk.kind_header, step?]
    by_cases outOfOrder : known.isNone = true ∧ chunk.kind ≠ .header
    · rw [if_pos outOfOrder, if_pos (.inl outOfOrder), Option.bind_none]
    · by_cases isEnd : chunk.kind = .imageEnd
      · rw [if_neg outOfOrder, if_neg notData, if_pos isEnd,
          if_pos (.inr isEnd), Option.bind_none]
      · rw [if_neg outOfOrder, if_neg notData, if_neg isEnd,
          if_neg (not_or.mpr ⟨outOfOrder, isEnd⟩)]
        split
        next noBody =>
          rw [noBody] at bodyRead
          cases bodyRead
        next bodyFound =>
          rw [bodyFound] at bodyRead
          cases bodyRead
          cases next? known chunk.body chunk.kind with
          | none =>
              rfl
          | some settled =>
              dsimp only [Option.filter]
              split <;> rfl

/-- The start of a chunk with image data ends the prelude, if there is one that admits it. -/
theorem readFrom?_start
    {start : ChunkHeader}
    (holdsImage : start.kind.HoldsImage)
    (short : start.length < 4294967296)
    (named : start.name.length = 4)
    (rest : Bytes) :
    readFrom? known (start.write ++ rest) =
      (known.filter fun prelude => prelude.admitsData start).map
        fun prelude => ⟨prelude, start, rest⟩ := by
  have headerRead := ChunkHeader.read?_write start rest short named
  have notHeader : start.kind ≠ .header := by
    intro isHeader
    rw [isHeader] at holdsImage
    rcases holdsImage with isImage | isFrame
    · cases isImage
    · cases isFrame
  rw [readFrom?]
  split
  next noChunk =>
    rw [noChunk] at headerRead
    cases headerRead
  next chunkFound =>
    rw [chunkFound] at headerRead
    cases headerRead
    cases known with
    | none =>
        exact if_pos ⟨rfl, notHeader⟩
    | some prelude =>
        have inOrder :
            ¬ ((some prelude).isNone = true ∧ start.kind ≠ .header) :=
          fun outOfOrder => Bool.false_ne_true outOfOrder.1
        have isData : start.kind = .imageData ∨ start.kind = .frameData :=
          holdsImage
        rw [if_neg inOrder, if_pos isData]
        dsimp only [Option.filter]
        split <;> rfl

end Steps

/-- A chunk that the buffer can hold is one step, which takes it in as its kind says. -/
theorem step?_ofContent
    {prelude : Prelude}
    {name content : Bytes}
    (nonempty : content ≠ [])
    (small : content.length ≤ prelude.memory.buffer)
    (notEnd : ChunkKind.ofName name ≠ .imageEnd)
    (length_name : name.length = 4)
    (content_lt : content.length < 4294967296) :
    step? (some prelude) (.ofContent name content length_name content_lt) =
      (prelude.accept? (ChunkKind.ofName name) content).map some := by
  have inOrder :
      ¬ ((some prelude).isNone = true ∧ ChunkKind.ofName name ≠ .header ∨
          ChunkKind.ofName name = .imageEnd) := by
    rintro (outOfOrder | isEnd)
    · exact Bool.false_ne_true outOfOrder.1
    · exact notEnd isEnd
  rw [step?, Chunk.kind_ofContent, Chunk.body_ofContent, if_neg inOrder,
    next?_of_held nonempty small, passes_of_intact rfl]
  cases prelude.accept? (ChunkKind.ofName name) content <;> rfl

/-- The header is settled by its chunk, which comes first. -/
theorem step?_ofHeader
    {header : Header}
    (valid : header.Valid) :
    step? none (.ofHeader header) = some (some (ofHeader header)) := by
  rw [step?, Chunk.ofHeader, Chunk.kind_ofContent, Chunk.body_ofContent,
    kind_header, next?_header valid]
  rfl

/-- A first palette is settled by its chunk, which takes memory. -/
theorem step?_ofPalette
    {prelude : Prelude}
    {palette : List Colour}
    (present : 0 < palette.length)
    (few : palette.length ≤ 256)
    (fresh : .palette ∉ prelude.seen)
    (unused : prelude.memory = {}) :
    step? (some prelude) (.ofPalette palette few) =
      some
        (some
          { prelude with
            palette := some (palette.flatMap Colour.toTriple)
            seen := .palette :: prelude.seen
            memory := { room := 64 * 1024 * 1024 - palette.length * 3 } }) := by
  have small :
      (palette.flatMap Colour.toTriple).length ≤ prelude.memory.buffer := by
    rw [unused]
    exact length_toTriple_le few
  have enough : palette.length * 3 ≤ prelude.memory.room := by
    rw [unused]
    show palette.length * 3 ≤ 64 * 1024 * 1024
    omega
  rw [Chunk.ofPalette,
    step?_ofContent (toTriple_ne_nil present) small
      (by rw [kind_palette]; decide),
    kind_palette, accept?_palette fresh enough, unused]
  rfl

/-- Chunks before the image data are read one step after the other. -/
theorem readFrom?_chunks
    {chunks : List Chunk}
    (before : ∀ chunk ∈ chunks, ¬ chunk.kind.HoldsImage)
    (known : Option Prelude)
    (rest : Bytes) :
    readFrom? known (chunks.flatMap Chunk.bytes ++ rest) =
      (chunks.foldlM step? known).bind (readFrom? · rest) := by
  induction chunks generalizing known with
  | nil =>
      rfl
  | cons chunk others inductionHypothesis =>
      have othersBefore := fun other member =>
        before other (List.mem_cons_of_mem chunk member)
      rw [List.flatMap_cons, List.append_assoc,
        readFrom?_chunk (before chunk List.mem_cons_self), List.foldlM_cons,
        Option.bind_eq_bind, Option.bind_assoc]
      apply congrArg
      funext settled
      exact inductionHypothesis othersBefore settled

/-- A file is read by the chunks before its image data, and then by what follows them. -/
theorem read?_chunks
    {chunks : List Chunk}
    (before : ∀ chunk ∈ chunks, ¬ chunk.kind.HoldsImage)
    (rest : Bytes) :
    read? (signature ++ (chunks.flatMap Chunk.bytes ++ rest)) =
      (chunks.foldlM step? none).bind (readFrom? · rest) := by
  have signed :=
    Bytes.splitExactly?_append signature (chunks.flatMap Chunk.bytes ++ rest)
  have signatureLength : signature.length = 8 := rfl
  rw [signatureLength] at signed
  rw [read?, signed, Option.bind_eq_bind, Option.bind_some]
  dsimp only
  rw [if_pos rfl, readFrom?_chunks before]

/-- A file is read like what stands behind its palette, once header and palette are settled. -/
theorem read?_writeFile
    {header : Header}
    {palette : List Colour}
    (valid : header.Valid)
    (present : 0 < palette.length)
    (few : palette.length ≤ 256)
    (further : Bytes)
    (data : List Bytes) :
    read? (writeFile header palette further data) =
      readFrom? (some (ofPalette header palette))
        (further ++
          (data.flatMap (writeChunk (chunkName 'I' 'D' 'A' 'T')) ++
            writeChunk (chunkName 'I' 'E' 'N' 'D') [])) := by
  have before :
      ∀ chunk ∈ [Chunk.ofHeader header, Chunk.ofPalette palette few],
        ¬ chunk.kind.HoldsImage := by
    simp [ChunkKind.HoldsImage]
  have file :
      writeFile header palette further data =
        signature ++
          ([Chunk.ofHeader header, Chunk.ofPalette palette few].flatMap
              Chunk.bytes ++
            (further ++
              (data.flatMap (writeChunk (chunkName 'I' 'D' 'A' 'T')) ++
                writeChunk (chunkName 'I' 'E' 'N' 'D') []))) := by
    simp [writeFile, Chunk.ofHeader, Chunk.ofPalette]
  rw [file, read?_chunks before, List.foldlM_cons, step?_ofHeader valid,
    Option.bind_eq_bind, Option.bind_some, List.foldlM_cons,
    step?_ofPalette present few List.not_mem_nil rfl]
  rfl

/-- The first written chunk with image data opens it, if the picture fits. -/
theorem readFrom?_writeChunk_imageData
    {content : Bytes}
    (short : content.length < 4294967296)
    (prelude : Prelude)
    (rest : Bytes) :
    readFrom? (some prelude)
        (writeChunk (chunkName 'I' 'D' 'A' 'T') content ++ rest) =
      if prelude.fits then
        some
          ⟨prelude, ⟨content.length, chunkName 'I' 'D' 'A' 'T'⟩,
            writeBody (chunkName 'I' 'D' 'A' 'T') content ++ rest⟩
      else
        none := by
  have holdsImage :
      (⟨content.length, chunkName 'I' 'D' 'A' 'T'⟩ :
        ChunkHeader).kind.HoldsImage :=
    .inl kind_imageData
  have admits :
      prelude.admitsData ⟨content.length, chunkName 'I' 'D' 'A' 'T'⟩ =
        prelude.fits := by
    rw [admitsData, ChunkHeader.kind, kind_imageData]
    exact Bool.and_true _
  rw [writeChunk, List.append_assoc,
    readFrom?_start holdsImage short (length_chunkName ..), Option.filter_some,
    admits]
  split <;> rfl

/-- What can be read up to its image data is made of chunks and the start of another. -/
theorem exists_chunks_of_readFrom?
    {known : Option Prelude}
    {bytes : Bytes}
    {opening : Opening}
    (read : readFrom? known bytes = some opening) :
    ∃ chunks : List Chunk,
      (∀ chunk ∈ chunks, ¬ chunk.kind.HoldsImage) ∧
        opening.chunk.kind.HoldsImage ∧
        opening.chunk.length < 4294967296 ∧
        opening.chunk.name.length = 4 ∧
        bytes =
          chunks.flatMap Chunk.bytes ++
            (opening.chunk.write ++ opening.rest) := by
  fun_induction readFrom? known bytes with
  | case4 _ chunk rest chunkRead holdsImage _ _ =>
      obtain ⟨shape, short, named⟩ := ChunkHeader.read?_eq_some_iff.mp chunkRead
      rw [← Option.some.inj read]
      exact
        ⟨[], fun _ member => (List.not_mem_nil member).elim, holdsImage, short,
          named, shape⟩
  | case9 known bytes header rest headerRead _ before _ body rest' bodyRead
      settled next _ inductionHypothesis =>
      obtain ⟨chunk, rfl, rfl, rfl⟩ := Chunk.exists_of_read? headerRead bodyRead
      obtain ⟨chunks, othersBefore, holdsImage, short, named, rfl⟩ :=
        inductionHypothesis read
      refine
        ⟨chunk :: chunks, ?_, holdsImage, short, named, ?_⟩
      · exact List.forall_mem_cons.mpr ⟨before, othersBefore⟩
      · rw [List.flatMap_cons, List.append_assoc]
  | case1 | case2 | case3 | case5 | case6 | case7 | case8 | case10 =>
      cases read

end Prelude

namespace Lead

/-- A file is opened by its lead alone; what follows is handed on. -/
theorem read?_append
    (lead : Lead)
    (rest : Bytes) :
    Prelude.read? (lead.bytes ++ rest) =
      lead.prelude?.map fun prelude => ⟨prelude, lead.start, rest⟩ := by
  rw [bytes, List.append_assoc, List.append_assoc,
    Prelude.read?_chunks lead.before, prelude?, Option.map_bind]
  apply congrArg
  funext known
  exact
    Prelude.readFrom?_start lead.holdsImage lead.length_lt lead.length_name rest

/-- Any file that can be opened starts with a lead. -/
theorem exists_of_read?
    {file : Bytes}
    {opening : Prelude.Opening}
    (opens : Prelude.read? file = some opening) :
    ∃ lead : Lead, file = lead.bytes ++ opening.rest := by
  obtain ⟨⟨start, rest⟩, split, read⟩ := Option.bind_eq_some_iff.mp opens
  obtain ⟨rfl, read⟩ := Option.ite_none_right_eq_some.mp read
  obtain ⟨rfl, _⟩ := Bytes.splitExactly?_eq_some_iff.mp split
  obtain ⟨chunks, before, holdsImage, short, named, rfl⟩ :=
    Prelude.exists_chunks_of_readFrom? read
  exact
    ⟨⟨chunks, opening.chunk, before, holdsImage, short, named⟩,
      by simp [bytes]⟩

end Lead

end Png

end SpritePack
