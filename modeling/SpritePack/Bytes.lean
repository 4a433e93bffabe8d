namespace SpritePack

/-!
# Byte strings

Files, paths and packed pictures are finite lists of bytes. This module reads
numbers out of them and splits them at a given length.
-/

/-- The content of a file, or any other run of bytes. -/
abbrev Bytes := List UInt8

namespace Bytes

/-- The number whose digits in base 256 are the bytes, most significant first. -/
def bigEndian (bytes : Bytes) : Nat :=
  bytes.foldl (fun value byte => value * 256 + byte.toNat) 0

/-- The four bytes of a word, most significant first. -/
def ofWord (word : UInt32) : Bytes :=
  [(word >>> 24).toUInt8, (word >>> 16).toUInt8, (word >>> 8).toUInt8, word.toUInt8]

@[simp] theorem length_ofWord
    (word : UInt32) :
    (ofWord word).length = 4 := rfl

/-- The bytes of a word spell it. -/
theorem bigEndian_ofWord
    (word : UInt32) :
    bigEndian (ofWord word) = word.toNat := by
  have bound := word.toNat_lt
  simp only [bigEndian, ofWord, List.foldl_cons, List.foldl_nil,
    UInt32.toNat_toUInt8, UInt32.toNat_shiftRight, UInt32.reduceToNat,
    Nat.reduceMod, Nat.shiftRight_eq_div_pow, Nat.reducePow]
  omega

/-- The bytes of the ASCII characters of a text, for chunk names and markers. -/
def ofAscii (text : String) : Bytes :=
  text.toList.map fun character => character.toNat.toUInt8

/-- The first `count` bytes and the rest, if there are that many. -/
def splitExactly?
    (count : Nat)
    (bytes : Bytes) :
    Option (Bytes × Bytes) :=
  let head := bytes.take count
  if head.length = count then
    some (head, bytes.drop count)
  else
    none

/-- Splitting succeeds exactly when the bytes start with a run of that length. -/
theorem splitExactly?_eq_some_iff
    {count : Nat}
    {bytes head rest : Bytes} :
    splitExactly? count bytes = some (head, rest) ↔
      bytes = head ++ rest ∧ head.length = count := by
  simp only [splitExactly?, Option.ite_none_right_eq_some, Option.some.injEq,
    Prod.mk.injEq]
  constructor
  · rintro ⟨enough, rfl, rfl⟩
    exact ⟨(List.take_append_drop count bytes).symm, enough⟩
  · rintro ⟨rfl, rfl⟩
    simp

/-- Splitting behind a run of that length gives it back. -/
@[simp] theorem splitExactly?_append
    (head rest : Bytes) :
    splitExactly? head.length (head ++ rest) = some (head, rest) :=
  splitExactly?_eq_some_iff.mpr ⟨rfl, rfl⟩

/-- A split takes nothing away. -/
theorem length_of_splitExactly?
    {count : Nat}
    {bytes head rest : Bytes}
    (split : splitExactly? count bytes = some (head, rest)) :
    bytes.length = count + rest.length := by
  obtain ⟨rfl, rfl⟩ := splitExactly?_eq_some_iff.mp split
  simp

end Bytes

end SpritePack
