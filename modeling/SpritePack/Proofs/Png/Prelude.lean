import Mathlib.Algebra.Group.Nat.Defs
import SpritePack.Png.Writer

namespace SpritePack

/-!
# What a prelude guarantees

Whatever bytes a file is made of, a prelude that is read from it has a header of
a picture that can exist, and its frame lies within the canvas.  Each chunk keeps
this: none but the first touches the header, and none but an announcement touches
the frame.
-/

/-- Some bytes spell a number of as many digits in base 256. -/
theorem Bytes.bigEndian_lt
    (bytes : Bytes) :
    bigEndian bytes < 256 ^ bytes.length := by
  have general :
      ∀ value,
        bytes.foldl (fun value byte => value * 256 + byte.toNat) value <
          (value + 1) * 256 ^ bytes.length := by
    induction bytes with
    | nil =>
        intro value
        simp
    | cons byte rest inductionHypothesis =>
        intro value
        have small := byte.toNat_lt
        calc
          (byte :: rest).foldl (fun value byte => value * 256 + byte.toNat) value
              < (value * 256 + byte.toNat + 1) * 256 ^ rest.length :=
                inductionHypothesis _
          _ ≤ ((value + 1) * 256) * 256 ^ rest.length :=
                Nat.mul_le_mul_right _ (by omega)
          _ = (value + 1) * 256 ^ (byte :: rest).length := by
                rw [List.length_cons, Nat.pow_succ, Nat.mul_assoc,
                  Nat.mul_comm 256]
  have spelled := general 0
  rw [Nat.zero_add, Nat.one_mul] at spelled
  exact spelled

/-- Four bytes spell a number of 32 bits. -/
theorem Bytes.bigEndian_lt_of_splitExactly?
    {bytes head rest : Bytes}
    (split : splitExactly? 4 bytes = some (head, rest)) :
    bigEndian head < 4294967296 := by
  have below := bigEndian_lt head
  rw [(splitExactly?_eq_some_iff.mp split).2] at below
  exact below

namespace Png

/-- A header that is read is one of a picture that can exist. -/
theorem Header.valid_of_parse?
    {content : Bytes}
    {header : Header}
    (parsed : parse? content = some header) :
    header.Valid := by
  simp only [parse?, Option.bind_eq_bind, Option.bind_eq_some_iff,
    Prod.exists] at parsed
  obtain ⟨width, _, widthRead, height, afterHeight, heightRead, parsed⟩ := parsed
  have width_lt := Bytes.bigEndian_lt_of_splitExactly? widthRead
  have height_lt := Bytes.bigEndian_lt_of_splitExactly? heightRead
  split at parsed
  next =>
    cases parsed
  next nonzero =>
    obtain ⟨widthPos, heightPos⟩ := not_or.mp nonzero
    split at parsed
    next depth code compression filtering interlacing _ =>
      obtain ⟨colourType, _, parsed⟩ := Option.bind_eq_some_iff.mp parsed
      obtain ⟨checked, parsed⟩ := Option.ite_none_right_eq_some.mp parsed
      rw [← Option.some.inj parsed]
      exact {
        width_pos := Nat.pos_of_ne_zero widthPos
        width_lt := width_lt
        height_pos := Nat.pos_of_ne_zero heightPos
        height_lt := height_lt
        depth_mem := checked.1
      }
    next =>
      cases parsed

/-- That a size has pixels and does not exceed another. -/
structure Size.Within (size canvas : Size) : Prop where
  width_pos : 0 < size.width
  width_le : size.width ≤ canvas.width
  height_pos : 0 < size.height
  height_le : size.height ≤ canvas.height

namespace Prelude

/-- What holds of a prelude after every chunk. -/
structure Sound (prelude : Prelude) : Prop where
  valid : prelude.header.Valid
  within :
    ∀ size, prelude.frame = some size → size.Within prelude.header.canvas

/-- The first picture has pixels and lies within the canvas. -/
theorem Sound.frameSize_within
    {prelude : Prelude}
    (sound : prelude.Sound) :
    prelude.frameSize.Within prelude.header.canvas := by
  rw [frameSize]
  cases announced : prelude.frame with
  | none =>
      exact {
        width_pos := sound.valid.width_pos
        width_le := Nat.le_refl _
        height_pos := sound.valid.height_pos
        height_le := Nat.le_refl _
      }
  | some size =>
      exact sound.within size announced

/-- That a chunk has changed neither the header nor the frame. -/
def SamePicture (before after : Prelude) : Prop :=
  after.header = before.header ∧ after.frame = before.frame

section Chunks

variable
  {prelude after : Prelude}
  {kind : ChunkKind}
  {content : Bytes}

theorem Sound.of_samePicture
    (sound : prelude.Sound)
    (same : prelude.SamePicture after) :
    after.Sound := by
  obtain ⟨sameHeader, sameFrame⟩ := same
  refine ⟨?_, ?_⟩
  · rw [sameHeader]
    exact sound.valid
  · rw [sameHeader, sameFrame]
    exact sound.within

theorem samePicture_of_once?
    {valid : Bool}
    (noted : prelude.once? kind valid = some after) :
    prelude.SamePicture after := by
  obtain ⟨_, noted⟩ := Option.ite_none_right_eq_some.mp noted
  rw [← Option.some.inj noted]
  exact ⟨rfl, rfl⟩

theorem samePicture_of_retain?
    (retained : prelude.retain? content = some after) :
    prelude.SamePicture after := by
  obtain ⟨_, _, rfl⟩ := Option.map_eq_some_iff.mp retained
  exact ⟨rfl, rfl⟩

theorem SamePicture.trans
    {last : Prelude}
    (first : prelude.SamePicture after)
    (second : after.SamePicture last) :
    prelude.SamePicture last :=
  ⟨second.1.trans first.1, second.2.trans first.2⟩

theorem samePicture_noteSignificantBits
    (content : Bytes) :
    prelude.SamePicture (prelude.noteSignificantBits content) := by
  unfold noteSignificantBits
  split
  · exact ⟨rfl, rfl⟩
  · split
    · exact ⟨rfl, rfl⟩
    · split <;> exact ⟨rfl, rfl⟩

theorem samePicture_noteColourProfile
    (content : Bytes) :
    prelude.SamePicture (prelude.noteColourProfile content) := by
  unfold noteColourProfile
  split <;> exact ⟨rfl, rfl⟩

/-- A frame that is announced lies within the canvas. -/
theorem within_of_announceFrame?
    (announced : prelude.announceFrame? content = some after) :
    after.header = prelude.header ∧
      ∀ size, after.frame = some size → size.Within prelude.header.canvas := by
  simp only [announceFrame?, Option.bind_eq_bind, Option.bind_eq_some_iff,
    Prod.exists] at announced
  obtain ⟨_, _, _, width, _, _, height, _, _, left, _, _, top, _, _, _, _, _,
    announced⟩ := announced
  split at announced
  next =>
    obtain ⟨checked, announced⟩ := Option.ite_none_right_eq_some.mp announced
    obtain ⟨_, _, _, width_pos, height_pos, inWidth, inHeight⟩ := checked
    rw [← Option.some.inj announced]
    refine ⟨rfl, ?_⟩
    rintro size ⟨⟩
    exact {
      width_pos := width_pos
      width_le := Nat.le_trans (Nat.le_add_left _ _) inWidth
      height_pos := height_pos
      height_le := Nat.le_trans (Nat.le_add_left _ _) inHeight
    }
  next =>
    cases announced

/-- No chunk but the announcement of a frame changes the picture. -/
theorem samePicture_of_accept?
    (accepted : prelude.accept? kind content = some after)
    (notFrame : kind ≠ .frame) :
    prelude.SamePicture after := by
  cases kind with
  | header | frameData =>
      cases accepted
  | palette =>
      obtain ⟨retained, noted, rfl⟩ := Option.map_eq_some_iff.mp accepted
      obtain ⟨once, first, second⟩ := Option.bind_eq_some_iff.mp noted
      have same :=
        (samePicture_of_once? first).trans (samePicture_of_retain? second)
      exact same
  | transparency =>
      obtain ⟨once, first, second⟩ := Option.bind_eq_some_iff.mp accepted
      exact (samePicture_of_once? first).trans (samePicture_of_retain? second)
  | gamma | chromaticities | pixelSize | renderingIntent =>
      exact samePicture_of_once? accepted
  | animation =>
      obtain ⟨_, accepted⟩ := Option.ite_none_right_eq_some.mp accepted
      rw [← Option.some.inj accepted]
      exact ⟨rfl, rfl⟩
  | frame =>
      exact (notFrame rfl).elim
  | significantBits =>
      rw [← Option.some.inj accepted]
      exact samePicture_noteSignificantBits content
  | colourProfile =>
      rw [← Option.some.inj accepted]
      exact samePicture_noteColourProfile content
  | text | compressedText | internationalText =>
      obtain ⟨_, accepted⟩ := Option.ite_none_right_eq_some.mp accepted
      exact samePicture_of_retain? accepted
  | imageData | imageEnd | other =>
      rw [← Option.some.inj accepted]
      exact ⟨rfl, rfl⟩

theorem Sound.accept?
    (sound : prelude.Sound)
    (accepted : prelude.accept? kind content = some after) :
    after.Sound := by
  by_cases isFrame : kind = .frame
  · subst kind
    obtain ⟨sameHeader, within⟩ := within_of_announceFrame? accepted
    refine ⟨?_, ?_⟩
    · rw [sameHeader]
      exact sound.valid
    · rw [sameHeader]
      exact within
  · exact sound.of_samePicture (samePicture_of_accept? accepted isFrame)

/-- Each chunk keeps what holds of a prelude, and the first makes it hold. -/
theorem sound_of_next?
    {known settled : Option Prelude}
    {body : ChunkBody}
    (sound : ∀ prelude, known = some prelude → prelude.Sound)
    (next : next? known body kind = some settled) :
    ∀ prelude, settled = some prelude → prelude.Sound := by
  unfold next? at next
  split at next
  next =>
    rw [← Option.some.inj next]
    exact sound
  next =>
    split at next
    next =>
      obtain ⟨memory, _, next⟩ := Option.bind_eq_some_iff.mp next
      obtain ⟨header, parsed, next⟩ := Option.bind_eq_some_iff.mp next
      rw [← Option.some.inj next]
      rintro prelude ⟨⟩
      refine ⟨Header.valid_of_parse? parsed, ?_⟩
      rintro _ ⟨⟩
    next prelude =>
      obtain ⟨memory, _, next⟩ := Option.bind_eq_some_iff.mp next
      obtain ⟨accepted, taken, next⟩ := Option.bind_eq_some_iff.mp next
      rw [← Option.some.inj next]
      rintro prelude ⟨⟩
      have held : ({ prelude with memory := memory } : Prelude).Sound :=
        (sound _ rfl).of_samePicture ⟨rfl, rfl⟩
      exact held.accept? taken

end Chunks

/-- However many chunks come before the image data, what they settle is sound, and fits. -/
theorem sound_of_readFrom?
    {known : Option Prelude}
    {bytes : Bytes}
    {opening : Opening}
    (sound : ∀ prelude, known = some prelude → prelude.Sound)
    (read : readFrom? known bytes = some opening) :
    opening.prelude.Sound ∧ opening.prelude.fits = true := by
  fun_induction readFrom? known bytes with
  | case4 _ _ _ _ _ _ admitted =>
      rw [← Option.some.inj read]
      exact ⟨sound _ rfl, (Bool.and_eq_true_iff.mp admitted).1⟩
  | case9 known bytes chunk rest _ _ _ _ body rest' _ settled next _
      inductionHypothesis =>
      -- The only step that goes on: what the chunk has settled is sound too.
      exact inductionHypothesis (sound_of_next? sound next) read
  | case1 | case2 | case3 | case5 | case6 | case7 | case8 | case10 =>
      cases read

/-- A file opens on a sound prelude that fits, whatever else it holds. -/
theorem sound_of_read?
    {file : Bytes}
    {opening : Opening}
    (read : read? file = some opening) :
    opening.prelude.Sound ∧ opening.prelude.fits = true := by
  obtain ⟨⟨start, rest⟩, _, read⟩ := Option.bind_eq_some_iff.mp read
  obtain ⟨_, read⟩ := Option.ite_none_right_eq_some.mp read
  exact sound_of_readFrom? (fun _ known => absurd known (by simp)) read

end Prelude

end Png

end SpritePack
