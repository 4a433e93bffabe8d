import SpritePack.Png.Writer

namespace SpritePack.Png

/-!
# Writing announcements

An animated picture says how many frames it has, and announces each frame before
the image data of that frame. Main statements: what is announced is taken in.
-/

/-- What is said of an animation as a whole. -/
structure Animation where
  /-- The number of its frames. -/
  frames : UInt32
  /-- How often it is played. -/
  plays : UInt32
  deriving Repr, DecidableEq

/-- The content of an animation's chunk. -/
def Animation.write (animation : Animation) : Bytes :=
  Bytes.ofWord animation.frames ++ Bytes.ofWord animation.plays

theorem Animation.length_write
    (animation : Animation) :
    animation.write.length = 8 := rfl

theorem Animation.write_ne_nil
    (animation : Animation) :
    animation.write ≠ [] :=
  List.cons_ne_nil _ _

/-- What is said of a frame: its size and place, and how it is shown. -/
structure Announcement where
  size : Size
  left : Nat
  top : Nat
  /-- How long the frame is shown, as two numbers of two bytes. -/
  delay : UInt32
  /-- How the frame is removed. -/
  dispose : UInt8
  /-- How the frame is put onto what is there. -/
  blend : UInt8
  deriving Repr, DecidableEq

namespace Announcement

/-- The content of a frame's chunk with the given number. -/
def write
    (announcement : Announcement)
    (number : UInt32) :
    Bytes :=
  Bytes.ofWord number ++
    Bytes.ofWord announcement.size.width.toUInt32 ++
    Bytes.ofWord announcement.size.height.toUInt32 ++
    Bytes.ofWord announcement.left.toUInt32 ++
    Bytes.ofWord announcement.top.toUInt32 ++
    Bytes.ofWord announcement.delay ++
    [announcement.dispose, announcement.blend]

theorem length_write
    (announcement : Announcement)
    (number : UInt32) :
    (announcement.write number).length = 26 := rfl

theorem write_ne_nil
    (announcement : Announcement)
    (number : UInt32) :
    announcement.write number ≠ [] :=
  List.cons_ne_nil _ _

/-- What an announcement must be for its frame to be shown on a canvas. -/
structure Valid
    (announcement : Announcement)
    (canvas : Size) : Prop where
  width_pos : 0 < announcement.size.width
  height_pos : 0 < announcement.size.height
  right_le : announcement.left + announcement.size.width ≤ canvas.width
  bottom_le : announcement.top + announcement.size.height ≤ canvas.height
  dispose_le : announcement.dispose.toNat ≤ 2
  blend_le : announcement.blend.toNat ≤ 1

end Announcement

namespace Prelude

variable
  {prelude : Prelude}

/-- The number of frames is noted as it was written. -/
theorem accept?_animation
    (animation : Animation) :
    prelude.accept? .animation animation.write =
      some { prelude with frames := some animation.frames.toNat } := by
  have frames :
      animation.write.take 4 = Bytes.ofWord animation.frames :=
    rfl
  rw [accept?, if_pos (Nat.le_of_eq animation.length_write.symm), frames,
    Bytes.bigEndian_ofWord]

/-- A frame is announced by the number that is due. -/
theorem accept?_frame
    {announcement : Announcement}
    {number : UInt32}
    (valid : announcement.Valid prelude.header.canvas)
    (width_lt : prelude.header.canvas.width < 4294967296)
    (height_lt : prelude.header.canvas.height < 4294967296)
    (due : prelude.nextNumber = number.toNat) :
    prelude.accept? .frame (announcement.write number) =
      some
        { prelude with
          sequence := some number.toNat
          frame := some announcement.size } := by
  obtain ⟨width_pos, height_pos, right_le, bottom_le, dispose_le, blend_le⟩ :=
    valid
  have word : ∀ value < 4294967296, value.toUInt32.toNat = value :=
    fun _ small => UInt32.toNat_ofNat_of_lt' small
  have width := word announcement.size.width (by omega)
  have height := word announcement.size.height (by omega)
  have left := word announcement.left (by omega)
  have top := word announcement.top (by omega)
  have split := fun value rest =>
    Bytes.splitExactly?_append (Bytes.ofWord value) rest
  simp only [Bytes.length_ofWord] at split
  simp only [accept?, announceFrame?, Announcement.write, List.append_assoc,
    split, Option.bind_eq_bind, Option.bind_some, Bytes.bigEndian_ofWord, width,
    height, left, top]
  exact
    if_pos
      ⟨due.symm, dispose_le, blend_le, width_pos, height_pos, right_le,
        bottom_le⟩

end Prelude

end SpritePack.Png
