import SpritePack.Proofs.Png.Safety

namespace SpritePack

/-!
# The order of a loader's checks

What comes before the image data is judged first, then the colour type, then the
palette, then the size of the canvas, and only then is the image data looked at.
So all faults but those of the image data depend on the lead alone, whatever
follows it.
-/

namespace Png

namespace Prelude

section Chunks

variable
  {prelude after : Prelude}
  {kind : ChunkKind}
  {content : Bytes}

theorem palette_of_once?
    {valid : Bool}
    (noted : prelude.once? kind valid = some after) :
    after.palette = prelude.palette := by
  obtain ⟨_, noted⟩ := Option.ite_none_right_eq_some.mp noted
  rw [← Option.some.inj noted]

theorem palette_of_retain?
    (retained : prelude.retain? content = some after) :
    after.palette = prelude.palette := by
  obtain ⟨_, _, rfl⟩ := Option.map_eq_some_iff.mp retained
  rfl

theorem palette_noteSignificantBits
    (content : Bytes) :
    (prelude.noteSignificantBits content).palette = prelude.palette := by
  unfold noteSignificantBits
  split
  · rfl
  · split
    · rfl
    · split <;> rfl

theorem palette_noteColourProfile
    (content : Bytes) :
    (prelude.noteColourProfile content).palette = prelude.palette := by
  unfold noteColourProfile
  split <;> rfl

theorem palette_of_announceFrame?
    (announced : prelude.announceFrame? content = some after) :
    after.palette = prelude.palette := by
  simp only [announceFrame?, Option.bind_eq_bind, Option.bind_eq_some_iff,
    Prod.exists] at announced
  obtain ⟨_, _, _, _, _, _, _, _, _, _, _, _, _, _, _, _, _, _, announced⟩ :=
    announced
  split at announced
  next =>
    obtain ⟨_, announced⟩ := Option.ite_none_right_eq_some.mp announced
    rw [← Option.some.inj announced]
  next =>
    cases announced

/-- No chunk but one of colours changes the palette. -/
theorem palette_of_accept?
    (accepted : prelude.accept? kind content = some after) :
    after.palette =
      if kind = .palette then some content else prelude.palette := by
  cases kind with
  | header | frameData =>
      cases accepted
  | palette =>
      obtain ⟨_, _, rfl⟩ := Option.map_eq_some_iff.mp accepted
      rfl
  | transparency =>
      obtain ⟨once, first, second⟩ := Option.bind_eq_some_iff.mp accepted
      exact (palette_of_retain? second).trans (palette_of_once? first)
  | gamma | chromaticities | pixelSize | renderingIntent =>
      exact palette_of_once? accepted
  | animation =>
      obtain ⟨_, accepted⟩ := Option.ite_none_right_eq_some.mp accepted
      rw [← Option.some.inj accepted]
      rfl
  | frame =>
      exact palette_of_announceFrame? accepted
  | significantBits =>
      rw [← Option.some.inj accepted]
      exact palette_noteSignificantBits content
  | colourProfile =>
      rw [← Option.some.inj accepted]
      exact palette_noteColourProfile content
  | text | compressedText | internationalText =>
      obtain ⟨_, accepted⟩ := Option.ite_none_right_eq_some.mp accepted
      exact palette_of_retain? accepted
  | imageData | imageEnd | other =>
      rw [← Option.some.inj accepted]
      rfl

theorem header_of_accept?
    (accepted : prelude.accept? kind content = some after) :
    after.header = prelude.header := by
  by_cases isFrame : kind = .frame
  · subst kind
    exact (within_of_announceFrame? accepted).1
  · exact (samePicture_of_accept? accepted isFrame).1

end Chunks

section Steps

variable
  {prelude : Prelude}
  {settled : Option Prelude}
  {chunk : Chunk}

/-- A chunk behind the header keeps it, and brings a palette only if it holds colours. -/
theorem settled_of_step?
    (step : step? (some prelude) chunk = some settled) :
    ∃ after,
      settled = some after ∧
        after.header = prelude.header ∧
        (after.palette.isSome ↔
          prelude.palette.isSome ∨ chunk.HasColours) := by
  obtain ⟨_, step⟩ := Option.ite_none_left_eq_some.mp step
  obtain ⟨next, _⟩ := Option.filter_eq_some_iff.mp step
  have content : chunk.body.content = chunk.content := rfl
  rw [next?, content] at next
  by_cases empty : chunk.content = []
  · rw [empty] at next
    have noColours : ¬ chunk.HasColours := fun holds => holds.2 empty
    exact ⟨prelude, (Option.some.inj next).symm, rfl, by simp [noColours]⟩
  · rw [if_neg (by simpa using empty)] at next
    obtain ⟨memory, _, next⟩ := Option.bind_eq_some_iff.mp next
    obtain ⟨after, accepted, next⟩ := Option.bind_eq_some_iff.mp next
    have sameHeader := header_of_accept? accepted
    refine ⟨after, (Option.some.inj next).symm, sameHeader, ?_⟩
    rw [palette_of_accept? accepted]
    by_cases isPalette : chunk.kind = .palette
    · simp [Chunk.HasColours, isPalette, empty]
    · simp [Chunk.HasColours, isPalette]

/-- Before the header, a chunk is a header chunk: an empty one, or the one that brings it. -/
theorem first_of_step?
    (step : step? none chunk = some settled) :
    chunk.kind = .header ∧
      (chunk.content = [] ∧ settled = none ∨
        chunk.content ≠ [] ∧
          ∃ after,
            settled = some after ∧
              Header.parse? chunk.content = some after.header ∧
              after.palette = none) := by
  obtain ⟨inOrder, step⟩ := Option.ite_none_left_eq_some.mp step
  obtain ⟨next, _⟩ := Option.filter_eq_some_iff.mp step
  have content : chunk.body.content = chunk.content := rfl
  have isHeader : chunk.kind = .header := by
    by_contra other
    exact inOrder (.inl ⟨rfl, other⟩)
  refine ⟨isHeader, ?_⟩
  rw [next?, content] at next
  by_cases empty : chunk.content = []
  · rw [empty] at next
    exact .inl ⟨empty, (Option.some.inj next).symm⟩
  · rw [if_neg (by simpa using empty)] at next
    obtain ⟨memory, _, next⟩ := Option.bind_eq_some_iff.mp next
    obtain ⟨header, parsed, next⟩ := Option.bind_eq_some_iff.mp next
    exact .inr ⟨empty, _, (Option.some.inj next).symm, parsed, rfl⟩

end Steps

section Runs

variable
  {prelude after : Prelude}
  {chunks : List Chunk}

/-- Whatever chunks follow the header, it stays, and they bring a palette if one has colours. -/
theorem settled_of_foldlM
    {settled : Option Prelude}
    (folded : chunks.foldlM step? (some prelude) = some settled) :
    ∃ after,
      settled = some after ∧
        after.header = prelude.header ∧
        (after.palette.isSome ↔
          prelude.palette.isSome ∨ ∃ chunk ∈ chunks, chunk.HasColours) := by
  induction chunks generalizing prelude with
  | nil =>
      refine ⟨prelude, (Option.some.inj folded).symm, rfl, ?_⟩
      simp
  | cons chunk others inductionHypothesis =>
      rw [List.foldlM_cons] at folded
      obtain ⟨_, step, folded⟩ := Option.bind_eq_some_iff.mp folded
      obtain ⟨next, rfl, nextHeader, nextPalette⟩ := settled_of_step? step
      obtain ⟨after, found, header, palette⟩ := inductionHypothesis folded
      refine ⟨after, found, header.trans nextHeader, ?_⟩
      rw [palette, nextPalette, List.exists_mem_cons_iff, or_assoc]

/-- Chunks that settle a prelude bring its header, and its palette if one holds colours. -/
theorem header_of_foldlM
    (folded : chunks.foldlM step? none = some (some after)) :
    ((chunks.find? fun chunk =>
        chunk.kind == .header && !chunk.content.isEmpty).bind
          fun chunk => Header.parse? chunk.content) =
        some after.header ∧
      (after.palette.isSome ↔ ∃ chunk ∈ chunks, chunk.HasColours) := by
  induction chunks with
  | nil =>
      cases folded
  | cons chunk others inductionHypothesis =>
      rw [List.foldlM_cons] at folded
      obtain ⟨_, step, folded⟩ := Option.bind_eq_some_iff.mp folded
      obtain ⟨isHeader, first⟩ := first_of_step? step
      have noColours : ¬ chunk.HasColours := by
        rintro ⟨isPalette, _⟩
        rw [isHeader] at isPalette
        cases isPalette
      rw [List.exists_mem_cons_iff, List.find?_cons]
      rcases first with ⟨empty, rfl⟩ | ⟨present, next, rfl, parsed, bare⟩
      · obtain ⟨header, palette⟩ := inductionHypothesis folded
        simp [empty, noColours, header, palette]
      · obtain ⟨_, found, header, palette⟩ := settled_of_foldlM folded
        obtain rfl := Option.some.inj found
        have full : chunk.content.isEmpty = false :=
          List.isEmpty_eq_false_iff.mpr present
        simp [isHeader, full, parsed, header, palette, bare, noColours]

end Runs

end Prelude

/-- What a lead settles has the lead's header, and a palette if the lead has one. -/
theorem Lead.settled_of_prelude?
    {lead : Lead}
    {prelude : Prelude}
    (settled : lead.prelude? = some prelude) :
    lead.header? = some prelude.header ∧
      (prelude.palette.isSome ↔ lead.HasPalette) := by
  obtain ⟨_, folded, settled⟩ := Option.bind_eq_some_iff.mp settled
  obtain ⟨rfl, _⟩ := Option.filter_eq_some_iff.mp settled
  exact Prelude.header_of_foldlM folded

/-- What a loader comes to, in the order of its checks; the first three end it at the lead. -/
inductive Judgement
    (lead : Lead)
    (header : Header) :
    Except LoadFault Raster → Prop where
  | notIndexed
      (other : header.colourType ≠ .indexed) :
      Judgement lead header (.error (.notIndexed header.colourType))
  | missingPalette
      (indexed : header.colourType = .indexed)
      (bare : ¬ lead.HasPalette) :
      Judgement lead header (.error .missingPalette)
  | capacityOverflow
      (indexed : header.colourType = .indexed)
      (coloured : lead.HasPalette)
      (large : bufferLimit ≤ header.bufferSize) :
      Judgement lead header (.error .capacityOverflow)
  | undecodable
      (indexed : header.colourType = .indexed)
      (coloured : lead.HasPalette)
      (small : header.bufferSize < bufferLimit) :
      Judgement lead header (.error .undecodable)
  | loaded
      (indexed : header.colourType = .indexed)
      (coloured : lead.HasPalette)
      (small : header.bufferSize < bufferLimit)
      (raster : Raster) :
      Judgement lead header (.ok raster)

theorem judgement_load
    {lead : Lead}
    {prelude : Prelude}
    (settled : lead.prelude? = some prelude)
    (rest : Bytes) :
    Judgement lead prelude.header (Raster.load (lead.bytes ++ rest)) := by
  obtain ⟨_, palette⟩ := Lead.settled_of_prelude? settled
  have opens := lead.read?_append rest
  rw [settled, Option.map_some] at opens
  by_cases indexed : prelude.header.colourType = .indexed
  · cases found : prelude.palette with
    | none =>
        rw [found] at palette
        have bare : ¬ lead.HasPalette :=
          fun coloured => Bool.false_ne_true (palette.mpr coloured)
        rw [Raster.load, opens]
        dsimp only
        rw [if_pos indexed, found]
        exact .missingPalette indexed bare
    | some table =>
        rw [found] at palette
        have coloured : lead.HasPalette := palette.mp rfl
        rw [Raster.load_of_palette opens indexed found]
        split
        next large =>
          exact .capacityOverflow indexed coloured large
        next bounded =>
          have small := Nat.lt_of_not_le bounded
          cases
            readRaster? ⟨prelude, lead.start, rest⟩
              (Colour.ofTriples table) with
          | none =>
              exact .undecodable indexed coloured small
          | some raster =>
              exact .loaded indexed coloured small raster
  · rw [Raster.load, opens]
    dsimp only
    rw [if_neg indexed]
    exact .notIndexed indexed

namespace Judgement

variable
  {lead : Lead}
  {header : Header}
  {outcome : Except LoadFault Raster}
  (judgement : Judgement lead header outcome)

include judgement

theorem notIndexed_iff
    {colourType : ColourType} :
    outcome = .error (.notIndexed colourType) ↔
      header.colourType ≠ .indexed ∧ colourType = header.colourType := by
  cases judgement with
  | notIndexed other =>
      simp [other, eq_comm]
  | missingPalette indexed | capacityOverflow indexed | undecodable indexed
    | loaded indexed =>
      simp [indexed]

theorem missingPalette_iff :
    outcome = .error .missingPalette ↔
      header.colourType = .indexed ∧ ¬ lead.HasPalette := by
  cases judgement with
  | notIndexed other =>
      simp [other]
  | missingPalette indexed bare =>
      simp [indexed, bare]
  | capacityOverflow indexed coloured | undecodable indexed coloured
    | loaded indexed coloured =>
      simp [coloured]

theorem capacityOverflow_iff :
    outcome = .error .capacityOverflow ↔
      header.colourType = .indexed ∧ lead.HasPalette ∧
        bufferLimit ≤ header.bufferSize := by
  cases judgement with
  | notIndexed other =>
      simp [other]
  | missingPalette indexed bare =>
      simp [bare]
  | capacityOverflow indexed coloured large =>
      simp [indexed, coloured, large]
  | undecodable indexed coloured small | loaded indexed coloured small =>
      simp [Nat.not_le.mpr small]

theorem undecodable_or_loaded_iff :
    (outcome = .error .undecodable ∨ ∃ raster, outcome = .ok raster) ↔
      header.colourType = .indexed ∧ lead.HasPalette ∧
        header.bufferSize < bufferLimit := by
  cases judgement with
  | notIndexed other =>
      simp [other]
  | missingPalette indexed bare =>
      simp [bare]
  | capacityOverflow indexed coloured large =>
      simp [Nat.not_lt.mpr large]
  | undecodable indexed coloured small | loaded indexed coloured small =>
      simp [indexed, coloured, small]

/-- All faults but that of the image data do not depend on what follows the lead. -/
theorem fault_iff
    {outcome' : Except LoadFault Raster}
    (judgement' : Judgement lead header outcome')
    {fault : LoadFault}
    (early : fault ≠ .undecodable) :
    outcome = .error fault ↔ outcome' = .error fault := by
  cases fault with
  | undecodable =>
      exact (early rfl).elim
  | notIndexed colourType =>
      rw [judgement.notIndexed_iff, judgement'.notIndexed_iff]
  | missingPalette =>
      rw [judgement.missingPalette_iff, judgement'.missingPalette_iff]
  | capacityOverflow =>
      rw [judgement.capacityOverflow_iff, judgement'.capacityOverflow_iff]

end Judgement

end Png

/--
A file that can be read up to its image data starts with a lead.  The colour type
of the lead's header is judged first, then whether the lead has a palette, then
whether a buffer can hold the canvas, which breaks the loading off if none can.
All else is about the image data, so the faults before are those of any file with
the same lead.
-/
theorem Raster.load_judges_in_order
    {file : Bytes}
    (opens : ∃ opening, Png.Prelude.read? file = some opening) :
    (∃ (lead : Png.Lead) (rest : Bytes), file = lead.bytes ++ rest) ∧
    ∀ (lead : Png.Lead) (rest : Bytes),
      file = lead.bytes ++ rest →
        ∃ header,
          lead.header? = some header ∧
          (∀ colourType,
            load file = .error (.notIndexed colourType) ↔
              header.colourType ≠ .indexed ∧
                colourType = header.colourType) ∧
          (load file = .error .missingPalette ↔
            header.colourType = .indexed ∧ ¬ lead.HasPalette) ∧
          (load file = .error .capacityOverflow ↔
            header.colourType = .indexed ∧ lead.HasPalette ∧
              Png.bufferLimit ≤ header.bufferSize) ∧
          ((load file = .error .undecodable ∨
              ∃ raster, load file = .ok raster) ↔
            header.colourType = .indexed ∧ lead.HasPalette ∧
              header.bufferSize < Png.bufferLimit) ∧
          ∀ fault, fault ≠ .undecodable →
            ∀ other,
              load file = .error fault ↔
                load (lead.bytes ++ other) = .error fault := by
  obtain ⟨opening, opens⟩ := opens
  refine ⟨?_, ?_⟩
  · obtain ⟨lead, shape⟩ := Png.Lead.exists_of_read? opens
    exact ⟨lead, opening.rest, shape⟩
  · rintro lead rest rfl
    rw [lead.read?_append] at opens
    obtain ⟨prelude, settled, _⟩ := Option.map_eq_some_iff.mp opens
    obtain ⟨header, _⟩ := Png.Lead.settled_of_prelude? settled
    have judgement := Png.judgement_load settled rest
    exact
      ⟨prelude.header, header, fun _ => judgement.notIndexed_iff,
        judgement.missingPalette_iff, judgement.capacityOverflow_iff,
        judgement.undecodable_or_loaded_iff, fun _ early other =>
          judgement.fault_iff (Png.judgement_load settled other) early⟩

namespace Png.Lead

/-- The header of a picture with a single grey pixel. -/
def greyHeader : Header where
  canvas := ⟨1, 1⟩
  depth := 8
  colourType := .greyscale
  interlaced := false

/-- The lead of a picture with a single grey pixel. -/
def grey : Lead where
  chunks := [.ofHeader greyHeader]
  start := ⟨10, chunkName 'I' 'D' 'A' 'T'⟩
  before := by
    simp [ChunkKind.HoldsImage]
  holdsImage := .inl kind_imageData
  length_lt := by decide
  length_name := rfl

theorem prelude?_grey :
    grey.prelude? = some (Prelude.ofHeader greyHeader) := by
  have valid : greyHeader.Valid :=
    ⟨by decide, by decide, by decide, by decide, by decide⟩
  have step := Prelude.step?_ofHeader valid
  have admitted : (Prelude.ofHeader greyHeader).admitsData grey.start = true := by
    decide
  rw [grey] at admitted
  simp [prelude?, grey, step, admitted]

end Png.Lead

/-- A grey picture is refused at its lead, whether its data is missing or wrong. -/
theorem Raster.load_judges_in_order_of_grey :
    (∃ opening, Png.Prelude.read? Png.Lead.grey.bytes = some opening) ∧
      load Png.Lead.grey.bytes = .error (.notIndexed .greyscale) ∧
      load (Png.Lead.grey.bytes ++ [1, 2, 3]) =
        .error (.notIndexed .greyscale) := by
  have opens := Png.Lead.grey.read?_append []
  rw [List.append_nil, Png.Lead.prelude?_grey] at opens
  obtain ⟨_, order⟩ := load_judges_in_order ⟨_, opens⟩
  obtain ⟨header, described, notIndexed, _, _, _, same⟩ :=
    order Png.Lead.grey [] (List.append_nil _).symm
  obtain ⟨isHeader, _⟩ := Png.Lead.settled_of_prelude? Png.Lead.prelude?_grey
  rw [isHeader] at described
  obtain rfl := Option.some.inj described
  have refused := (notIndexed .greyscale).mpr ⟨by decide, rfl⟩
  exact ⟨⟨_, opens⟩, refused, (same _ (by decide) [1, 2, 3]).mp refused⟩

/--
Behind the lead of the largest canvas the image data may end after a byte, but
this is not reported: the loading is broken off before.
-/
theorem Raster.load_hides_missing_data_on_vast_canvas :
    let file := Png.Framing.vast.file [[0x78]] []
    (∃ opening,
        Png.Prelude.read? file = some opening ∧
          opening.prelude.header.colourType = .indexed ∧
          opening.prelude.palette.isSome) ∧
      load file ≠ .error .undecodable ∧
      ∀ raster, load file ≠ .ok raster := by
  intro file
  have oversized : Oversized file :=
    (oversized_file_iff (by decide) (by decide) _ _).mpr (by decide)
  have broken := load_of_oversized oversized
  obtain ⟨opening, opens, indexed, coloured, _⟩ := oversized
  rw [broken]
  exact ⟨⟨opening, opens, indexed, coloured⟩, nofun, nofun⟩

end SpritePack
