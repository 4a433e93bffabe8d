import SpritePack.Deflate.CodeLengths

namespace SpritePack.Deflate

/-!
# Inflating

Compressed data is a sequence of blocks, of which the last is marked. A block
is either stored bytes or compressed items, and repetitions may reach back into
the output of earlier blocks.
-/

/-- Append to the output the bytes that lie a distance back in it, one by one. -/
def repeatBack
    (distance : Nat) :
    Nat → Array UInt8 → Array UInt8
  | 0, output => output
  | count + 1, output =>
      repeatBack distance count
        (output.push (output.getD (output.size - distance) 0))

/-- Read items up to the end of the block. A repetition may not reach before the output. -/
def inflateItems?
    (codes : BlockCodes)
    (source : BitSource)
    (output : Array UInt8) :
    Option (Array UInt8 × BitSource) :=
  match _read : codes.read? source with
  | none => none
  | some (.finish, rest) => some (output, rest)
  | some (.literal byte, rest) => inflateItems? codes rest (output.push byte)
  | some (.repetition length distance, rest) =>
      if distance ≤ output.size then
        inflateItems? codes rest (repeatBack distance length output)
      else
        none
termination_by source.remaining
decreasing_by all_goals exact BlockCodes.remaining_of_read? _read

/-- However many items a block has, they leave no more than there was. -/
theorem remaining_of_inflateItems?
    {codes : BlockCodes}
    {source rest : BitSource}
    {before output : Array UInt8}
    (read : inflateItems? codes source before = some (output, rest)) :
    rest.remaining ≤ source.remaining := by
  fun_induction inflateItems? codes source before with
  | case1 => simp at read
  | case2 source before next itemRead =>
      have := BlockCodes.remaining_of_read? itemRead
      simp only [Option.some.injEq, Prod.mk.injEq] at read
      rw [← read.2]
      omega
  | case3 source before byte next itemRead inductionHypothesis =>
      have := BlockCodes.remaining_of_read? itemRead
      have := inductionHypothesis read
      omega
  | case4 source before length distance next itemRead _ inductionHypothesis =>
      have := BlockCodes.remaining_of_read? itemRead
      have := inductionHypothesis read
      omega
  | case5 => simp at read

/--
Read a block of stored bytes. It starts at a whole byte with the number of
bytes, low byte first, and the same number with all bits flipped.
-/
def inflateStored?
    (source : BitSource)
    (output : Array UInt8) :
    Option (Array UInt8 × BitSource) :=
  match source.wholeBytes with
  | low :: high :: lowCheck :: highCheck :: bytes =>
      if lowCheck = ~~~low ∧ highCheck = ~~~high then
        (Bytes.splitExactly? (low.toNat + 256 * high.toNat) bytes).map
          fun (stored, rest) => (output ++ stored, BitSource.ofBytes rest)
      else
        none
  | _ => none

theorem remaining_of_inflateStored?
    {source rest : BitSource}
    {before output : Array UInt8}
    (read : inflateStored? source before = some (output, rest)) :
    rest.remaining ≤ source.remaining := by
  unfold inflateStored? at read
  split at read
  next low high lowCheck highCheck bytes shape =>
    simp only [Option.ite_none_right_eq_some, Option.map_eq_some_iff,
      Prod.mk.injEq, Prod.exists] at read
    obtain ⟨_, _, _, split, _, rfl⟩ := read
    have stored := Bytes.length_of_splitExactly? split
    have whole := congrArg List.length shape
    simp only [BitSource.wholeBytes, List.length_cons] at whole
    simp only [BitSource.remaining, BitSource.ofBytes, List.length_nil]
    omega
  next => simp at read

/-- Read the content of a block, after the two bits that tell its kind. -/
def inflateContent?
    (kind : Nat)
    (source : BitSource)
    (output : Array UInt8) :
    Option (Array UInt8 × BitSource) :=
  match kind with
  | 0 => inflateStored? source output
  | 1 => do
      let codes ← fixedCodes?
      inflateItems? codes source output
  | 2 => do
      let (codes, source) ← readBlockCodes? source
      inflateItems? codes source output
  | _ => none

theorem remaining_of_inflateContent?
    {kind : Nat}
    {source rest : BitSource}
    {before output : Array UInt8}
    (read : inflateContent? kind source before = some (output, rest)) :
    rest.remaining ≤ source.remaining := by
  unfold inflateContent? at read
  split at read
  · exact remaining_of_inflateStored? read
  · simp only [Option.bind_eq_bind, Option.bind_eq_some_iff] at read
    obtain ⟨_, _, items⟩ := read
    exact remaining_of_inflateItems? items
  · simp only [Option.bind_eq_bind, Option.bind_eq_some_iff, Prod.exists] at read
    obtain ⟨_, _, codes, items⟩ := read
    exact Nat.le_trans (remaining_of_inflateItems? items)
      (remaining_of_readBlockCodes? codes)
  · simp at read

/-- What has been read after a block: whether it was the last, the output, and the rest. -/
structure BlockEnd where
  last : Bool
  output : Array UInt8
  source : BitSource

/-- Read a block. -/
def inflateBlock?
    (source : BitSource)
    (output : Array UInt8) :
    Option BlockEnd := do
  let (last, source) ← source.readBit?
  let (kind, source) ← BitSource.readNumber? 2 source
  let (output, source) ← inflateContent? kind source output
  some ⟨last, output, source⟩

/-- A block takes its head at least, so that the blocks of a stream end. -/
theorem remaining_of_inflateBlock?
    {source : BitSource}
    {before : Array UInt8}
    {block : BlockEnd}
    (read : inflateBlock? source before = some block) :
    block.source.remaining < source.remaining := by
  simp only [inflateBlock?, Option.bind_eq_bind, Option.bind_eq_some_iff,
    Option.some.injEq, Prod.exists] at read
  obtain ⟨_, _, last, _, _, kind, _, _, content, rfl⟩ := read
  have := BitSource.remaining_of_readBit? last
  have := BitSource.remaining_of_readNumber? kind
  have := remaining_of_inflateContent? content
  dsimp only
  omega

/-- Read blocks up to the last, behind the output of earlier ones. -/
def inflateFrom?
    (source : BitSource)
    (output : Array UInt8) :
    Option (Array UInt8 × BitSource) :=
  match _read : inflateBlock? source output with
  | none => none
  | some block =>
      if block.last then
        some (block.output, block.source)
      else
        inflateFrom? block.source block.output
termination_by source.remaining
decreasing_by exact remaining_of_inflateBlock? _read

/-- The decompressed form of data, and the bytes after its last block. -/
def inflate? (data : Bytes) : Option (Bytes × Bytes) :=
  (inflateFrom? (BitSource.ofBytes data) #[]).map fun (output, source) =>
    (output.toList, source.wholeBytes)

end SpritePack.Deflate
