import SpritePack.Proofs.Png.Reading
import SpritePack.Proofs.Traversal.Pieces

namespace SpritePack.Png

/-!
# What written chunks settle

A written file has a header, and a palette behind it.  Taking them in leaves a
prelude that knows both and has paid for the palette.
-/

/-- A chunk that the buffer can hold leaves the memory as it is. -/
theorem Memory.hold?_of_le
    {memory : Memory}
    {length : Nat}
    (small : length ≤ memory.buffer) :
    memory.hold? length = some memory := by
  rw [hold?, if_pos small]

theorem length_flatMap_toTriple
    (colours : List Colour) :
    (colours.flatMap Colour.toTriple).length = colours.length * 3 :=
  Traversal.length_flatMap_of_sized fun _ _ => rfl

theorem toTriple_ne_nil
    {palette : List Colour}
    (present : 0 < palette.length) :
    palette.flatMap Colour.toTriple ≠ [] := by
  intro empty
  have length := length_flatMap_toTriple palette
  rw [empty, List.length_nil] at length
  omega

/-- No palette of an indexed picture is longer than the buffer. -/
theorem length_toTriple_le
    {palette : List Colour}
    (few : palette.length ≤ 256) :
    (palette.flatMap Colour.toTriple).length ≤ 32 * 1024 := by
  rw [length_flatMap_toTriple]
  omega

theorem Header.length_write
    (header : Header) :
    header.write.length = 13 :=
  rfl

namespace Prelude

/-- What the header alone settles. -/
def ofHeader (header : Header) : Prelude where
  header := header
  memory := {}

/-- What the header and the palette settle. -/
def ofPalette
    (header : Header)
    (palette : List Colour) :
    Prelude where
  header := header
  palette := some (palette.flatMap Colour.toTriple)
  seen := [.palette]
  memory := { room := 64 * 1024 * 1024 - palette.length * 3 }

theorem next?_header
    {header : Header}
    (valid : header.Valid) :
    next? none ⟨header.write, true⟩ .header = some (some (ofHeader header)) := by
  have held : ({} : Memory).hold? header.write.length = some {} :=
    Memory.hold?_of_le (by rw [Header.length_write]; decide)
  have content : header.write.isEmpty = false := rfl
  simp only [next?, content, Bool.false_eq_true, ↓reduceIte, held,
    Header.parse?_write header valid, Option.bind_eq_bind, Option.bind_some,
    ofHeader]

/-- A chunk that the buffer can hold is taken in as its kind says. -/
theorem next?_of_held
    {prelude : Prelude}
    {kind : ChunkKind}
    {content : Bytes}
    (nonempty : content ≠ [])
    (small : content.length ≤ prelude.memory.buffer) :
    next? (some prelude) ⟨content, true⟩ kind =
      (prelude.accept? kind content).map some := by
  have present : content.isEmpty = false :=
    List.isEmpty_eq_false_iff.mpr nonempty
  simp only [next?, present, Bool.false_eq_true, ↓reduceIte,
    Memory.hold?_of_le small, Option.bind_eq_bind, Option.bind_some,
    Option.map_eq_bind]
  rfl

/-- A first palette is taken in if there is room for it. -/
theorem accept?_palette
    {prelude : Prelude}
    {palette : List Colour}
    (fresh : .palette ∉ prelude.seen)
    (room : palette.length * 3 ≤ prelude.memory.room) :
    prelude.accept? .palette (palette.flatMap Colour.toTriple) =
      some
        { prelude with
          palette := some (palette.flatMap Colour.toTriple)
          seen := .palette :: prelude.seen
          memory :=
            { prelude.memory with
              room := prelude.memory.room - palette.length * 3 } } := by
  have noted :
      prelude.once? .palette true =
        some { prelude with seen := .palette :: prelude.seen } :=
    if_pos ⟨rfl, fresh⟩
  have reserved :
      prelude.memory.reserve? (palette.flatMap Colour.toTriple).length =
        some
          { prelude.memory with
            room := prelude.memory.room - palette.length * 3 } := by
    rw [length_flatMap_toTriple]
    exact if_pos room
  simp only [accept?, noted, Option.bind_some, retain?, reserved,
    Option.map_some]

end Prelude

end SpritePack.Png
