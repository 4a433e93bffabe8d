import SpritePack.Deflate.Inflate

namespace SpritePack.Deflate

/-!
# Stored data

The simplest form of compressed data keeps its content as it is, in blocks of
less than 64 KiB. Main statement: inflating it gives the content back, however
it is cut into blocks.
-/

/-- A block of stored bytes. -/
def storedBlock
    (last : Bool)
    (content : Bytes) :
    Bytes :=
  let low := content.length.toUInt8
  let high := (content.length / 256).toUInt8
  [if last then 1 else 0, low, high, ~~~low, ~~~high] ++ content

/-- The blocks that hold the given contents; the last is marked. -/
def storeBlocks : List Bytes → Bytes
  | [] => storedBlock true []
  | [content] => storedBlock true content
  | content :: rest => storedBlock false content ++ storeBlocks rest

/-- A stored block is read back, and its content is put behind the output so far. -/
theorem inflateBlock?_storedBlock
    (last : Bool)
    (content rest : Bytes)
    (output : Array UInt8)
    (short : content.length < 65536) :
    inflateBlock? (BitSource.ofBytes (storedBlock last content ++ rest)) output =
      some ⟨last, output ++ content, BitSource.ofBytes rest⟩ := by
  have length :
      content.length % 256 + 256 * (content.length / 256 % 256) =
        content.length := by
    omega
  have notLast : byteBits 0 = List.replicate 8 false := rfl
  have isLast : byteBits 1 = true :: List.replicate 7 false := rfl
  cases last
  all_goals
    simp [inflateBlock?, storedBlock, BitSource.ofBytes, BitSource.readBit?,
      notLast, isLast, List.replicate, BitSource.readNumber?, inflateContent?,
      inflateStored?, BitSource.wholeBytes, length]

/-- Inflating reads one block, and goes on unless that was the last. -/
theorem inflateFrom?_of_inflateBlock?
    {source : BitSource}
    {output : Array UInt8}
    {block : BlockEnd}
    (read : inflateBlock? source output = some block) :
    inflateFrom? source output =
      if block.last then
        some (block.output, block.source)
      else
        inflateFrom? block.source block.output := by
  rw [inflateFrom?]
  split <;> simp_all

/-- Stored blocks are read back one after the other, whatever follows them. -/
theorem inflateFrom?_storeBlocks
    (contents : List Bytes)
    (rest : Bytes)
    (output : Array UInt8)
    (short : ∀ content ∈ contents, content.length < 65536) :
    inflateFrom? (BitSource.ofBytes (storeBlocks contents ++ rest)) output =
      some (output ++ contents.flatten, BitSource.ofBytes rest) := by
  induction contents generalizing output with
  | nil =>
      have block := inflateBlock?_storedBlock true [] rest output (by simp)
      simp [storeBlocks, inflateFrom?_of_inflateBlock? block]
  | cons content others inductionHypothesis =>
      have contentShort := short content List.mem_cons_self
      have othersShort := fun block member =>
        short block (List.mem_cons_of_mem content member)
      cases others with
      | nil =>
          have block :=
            inflateBlock?_storedBlock true content rest output contentShort
          simp [storeBlocks, inflateFrom?_of_inflateBlock? block]
      | cons second others =>
          have block :=
            inflateBlock?_storedBlock false content
              (storeBlocks (second :: others) ++ rest) output contentShort
          rw [storeBlocks.eq_def, List.append_assoc,
            inflateFrom?_of_inflateBlock? block]
          simp only [Bool.false_eq_true, ↓reduceIte, inductionHypothesis _ othersShort,
            List.flatten_cons, Option.some.injEq, Prod.mk.injEq, and_true]
          exact Array.ext' (by simp)

/-- Inflating stored data gives its content, and what follows it. -/
theorem inflate?_storeBlocks
    (contents : List Bytes)
    (rest : Bytes)
    (short : ∀ content ∈ contents, content.length < 65536) :
    inflate? (storeBlocks contents ++ rest) = some (contents.flatten, rest) := by
  rw [inflate?, inflateFrom?_storeBlocks contents rest _ short]
  simp [BitSource.wholeBytes, BitSource.ofBytes]

end SpritePack.Deflate
