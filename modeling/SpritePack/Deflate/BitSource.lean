import SpritePack.Bytes

namespace SpritePack.Deflate

/-!
# Bit sources

Compressed data is a sequence of bits, taken from each byte from its least
significant bit up. A source keeps the bits of the byte at hand apart from the
bytes after it, so that it can also go on at the next whole byte. Every read
leaves a source with less remaining, which is why the readers built on it end.
-/

/-- Bits still to be read: those of the byte at hand, then the bytes after it. -/
structure BitSource where
  pending : List Bool
  bytes : Bytes
  deriving Repr, DecidableEq

/-- The bits of a byte, least significant first. -/
def byteBits (byte : UInt8) : List Bool :=
  let value := byte.toNat
  [value.testBit 0, value.testBit 1, value.testBit 2, value.testBit 3,
    value.testBit 4, value.testBit 5, value.testBit 6, value.testBit 7]

namespace BitSource

/-- The source of all the bits of a byte string. -/
def ofBytes (bytes : Bytes) : BitSource where
  pending := []
  bytes := bytes

/-- The number of bits still to be read. -/
def remaining (source : BitSource) : Nat :=
  source.pending.length + 8 * source.bytes.length

/-- The next bit and the source after it. -/
def readBit? (source : BitSource) : Option (Bool × BitSource) :=
  match source.pending, source.bytes with
  | bit :: pending, bytes => some (bit, ⟨pending, bytes⟩)
  | [], byte :: bytes =>
      match byteBits byte with
      | bit :: pending => some (bit, ⟨pending, bytes⟩)
      | [] => none
  | [], [] => none

/-- Reading a bit takes one. -/
theorem remaining_of_readBit?
    {source rest : BitSource}
    {bit : Bool}
    (read : source.readBit? = some (bit, rest)) :
    source.remaining = rest.remaining + 1 := by
  obtain ⟨pending, bytes⟩ := source
  cases pending with
  | cons first pending =>
      simp only [readBit?, Option.some.injEq, Prod.mk.injEq] at read
      obtain ⟨_, rfl⟩ := read
      simp only [remaining, List.length_cons]
      omega
  | nil =>
      cases bytes with
      | nil => simp [readBit?] at read
      | cons byte bytes =>
          simp only [readBit?, byteBits, Option.some.injEq, Prod.mk.injEq] at read
          obtain ⟨_, rfl⟩ := read
          simp only [remaining, List.length_cons, List.length_nil]
          omega

/-- The number whose binary digits are the next bits, the lowest digit first. -/
def readNumber? : Nat → BitSource → Option (Nat × BitSource)
  | 0, source => some (0, source)
  | width + 1, source => do
      let (bit, source) ← source.readBit?
      let (higher, source) ← readNumber? width source
      some (bit.toNat + 2 * higher, source)

/-- Reading a number takes as many bits as it is wide. -/
theorem remaining_of_readNumber?
    {width value : Nat}
    {source rest : BitSource}
    (read : readNumber? width source = some (value, rest)) :
    source.remaining = rest.remaining + width := by
  induction width generalizing source value with
  | zero =>
      simp only [readNumber?, Option.some.injEq, Prod.mk.injEq] at read
      rw [read.2]
      rfl
  | succ width inductionHypothesis =>
      simp only [readNumber?, Option.bind_eq_bind, Option.bind_eq_some_iff,
        Option.some.injEq, Prod.mk.injEq, Prod.exists] at read
      obtain ⟨_, _, first, _, _, later, _, rfl⟩ := read
      rw [remaining_of_readBit? first, inductionHypothesis later]
      omega

/-- The whole bytes after the byte at hand, whose unread bits are dropped. -/
def wholeBytes (source : BitSource) : Bytes :=
  source.bytes

end BitSource

end SpritePack.Deflate
