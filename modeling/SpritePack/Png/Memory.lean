namespace SpritePack.Png

/-!
# Memory for a picture

A picture must be read within a fixed amount of memory. What is kept of it is
taken from the room that is left. A chunk that is not image data is read into a
buffer first; for a chunk that is longer, the buffer is doubled, out of the same
room, and it keeps its size for the chunks to come.
-/

/-- The bytes that reading a picture may still take, and those of its buffer. -/
structure Memory where
  room : Nat := 64 * 1024 * 1024
  buffer : Nat := 32 * 1024
  deriving Repr, DecidableEq

namespace Memory

/-- Take a number of bytes out of the room. -/
def reserve?
    (memory : Memory)
    (count : Nat) :
    Option Memory :=
  if count ≤ memory.room then
    some { memory with room := memory.room - count }
  else
    none

/-- Take a number of bytes if there is room for them, and none otherwise. -/
def reserveIfRoom
    (memory : Memory)
    (count : Nat) :
    Memory :=
  (memory.reserve? count).getD memory

/--
What the buffer grows by for a chunk that it cannot hold: it is doubled, but
grows no larger than the room that is left.
-/
def growth (memory : Memory) : Nat :=
  min (memory.room - memory.buffer) memory.buffer

/-- Grow the buffer until it holds a chunk of the given length. -/
def hold?
    (memory : Memory)
    (length : Nat) :
    Option Memory :=
  if length ≤ memory.buffer then
    some memory
  else if memory.growth = 0 then
    none
  else
    hold?
      { room := memory.room - memory.growth
        buffer := memory.buffer + memory.growth }
      length
termination_by memory.room
decreasing_by
  simp only [growth] at *
  omega

end Memory

end SpritePack.Png
