import Mathlib.Algebra.Group.Nat.Defs
import SpritePack.Proofs.Text.Utf8

namespace SpritePack.Utf8

/-!
# Segments keep their bytes

Cutting a byte string into segments loses nothing: the bytes of the segments,
one after the other, are the bytes that were cut.  So a byte string encodes a
text only as that text is encoded, and a character is shown only where its
encoding stands.
-/

/-- The bytes that a segment takes up. -/
def Segment.bytes : Segment → Bytes
  | character value => String.utf8EncodeChar value
  | invalid bytes => bytes

/-- The bytes that hold the last digits of a code point, six bits each. -/
def trailing (code : Nat) : Nat → Bytes
  | 0 => []
  | count + 1 =>
      UInt8.ofNat (code / 64 ^ count % 64 + 128) :: trailing code count

section Continued

variable
  {taken : Bytes}
  {bits following low high : Nat}

/--
Going on with an encoding keeps all bytes, provided that those so far begin the
encoding of every code point that may come out.
-/
theorem bytes_continueSegment
    (lowest : 0x80 ≤ low)
    (highest : high ≤ 0xBF)
    (begun :
      ∀ code, code / 64 ^ following = bits →
        (0 < following →
          low ≤ code / 64 ^ (following - 1) % 64 + 128 ∧
            code / 64 ^ (following - 1) % 64 + 128 ≤ high) →
        String.utf8EncodeChar (Char.ofNat code) =
          taken.reverse ++ trailing code following)
    (rest : Bytes) :
    (continueSegment taken bits following low high rest).1.bytes ++
        (continueSegment taken bits following low high rest).2 =
      taken.reverse ++ rest := by
  induction following generalizing taken bits low high rest with
  | zero =>
      rw [continueSegment, Segment.bytes,
        begun bits (Nat.div_one bits) (fun more => absurd more (by decide)),
        trailing, List.append_nil]
  | succ following inductionHypothesis =>
      cases rest with
      | nil =>
          rw [continueSegment, Segment.bytes]
      | cons byte rest =>
          rw [continueSegment]
          by_cases inRange : low ≤ byte.toNat ∧ byte.toNat ≤ high
          · -- The byte is the next digit of every code point that is still possible.
            have goesOn :
                ∀ code, code / 64 ^ following = bits * 64 + (byte.toNat - 0x80) →
                  String.utf8EncodeChar (Char.ofNat code) =
                    (byte :: taken).reverse ++ trailing code following := by
              intro code digits
              have digit : code / 64 ^ following % 64 + 128 = byte.toNat := by
                omega
              have above : code / 64 ^ (following + 1) = bits := by
                rw [pow_succ, ← Nat.div_div_eq_div_mul, digits]
                omega
              rw [begun code above (fun _ => by rwa [Nat.add_sub_cancel, digit]),
                trailing, digit, UInt8.ofNat_toNat, List.reverse_cons,
                List.append_assoc, List.singleton_append]
            rw [if_pos inRange,
              inductionHypothesis (Nat.le_refl _) (Nat.le_refl _)
                fun code digits _ => goesOn code digits,
              List.reverse_cons, List.append_assoc, List.singleton_append]
          · rw [if_neg inRange, Segment.bytes]

end Continued

/-- The first byte of an encoding by its mark, the bits after it, and what it rules out. -/
inductive Lead.Marks (first : Nat) : Lead → Prop
  | one
      (bits : first < 0x80) :
      Marks first ⟨first, 0, 0x80, 0xBF⟩
  | two
      (bits : Nat)
      (mark : first = bits + 192)
      (needed : 2 ≤ bits)
      (small : bits < 32) :
      Marks first ⟨bits, 1, 0x80, 0xBF⟩
  | three
      (bits low high : Nat)
      (mark : first = bits + 224)
      (small : bits < 16)
      (lowest : 0x80 ≤ low)
      (highest : high ≤ 0xBF)
      (needed : bits = 0 → 0xA0 ≤ low)
      (noSurrogate : bits = 13 → high ≤ 0x9F) :
      Marks first ⟨bits, 2, low, high⟩
  | four
      (bits low high : Nat)
      (mark : first = bits + 240)
      (small : bits < 5)
      (lowest : 0x80 ≤ low)
      (highest : high ≤ 0xBF)
      (needed : bits = 0 → 0x90 ≤ low)
      (existing : bits = 4 → high ≤ 0x8F) :
      Marks first ⟨bits, 3, low, high⟩

theorem Lead.marks_of_ofByte?
    {first : UInt8}
    {lead : Lead}
    (led : ofByte? first = some lead) :
    Marks first.toNat lead := by
  rw [ofByte?] at led
  generalize first.toNat = value at led ⊢
  by_cases one : value < 0x80
  · rw [if_pos one] at led
    obtain rfl := Option.some.inj led
    exact .one one
  rw [if_neg one] at led
  by_cases needless : value < 0xC2
  · rw [if_pos needless] at led
    cases led
  rw [if_neg needless] at led
  by_cases two : value < 0xE0
  · rw [if_pos two] at led
    obtain rfl := Option.some.inj led
    exact .two _ (by omega) (by omega) (by omega)
  rw [if_neg two] at led
  by_cases three : value < 0xF0
  · repeat' split at led
    all_goals
      first
      | contradiction
      | obtain rfl := Option.some.inj led
        apply Marks.three <;> omega
  · repeat' split at led
    all_goals
      first
      | obtain rfl := Option.some.inj led
        apply Marks.four <;> omega
      | omega
      | cases led

/-- The encoding of the character with a given code point. -/
theorem utf8EncodeChar_ofNat
    {code : Nat}
    (valid : code.isValidChar) :
    String.utf8EncodeChar (Char.ofNat code) =
      if code < 0x80 then
        [UInt8.ofNat code]
      else if code < 0x800 then
        UInt8.ofNat (code / 64 + 192) :: trailing code 1
      else if code < 0x10000 then
        UInt8.ofNat (code / 64 ^ 2 + 224) :: trailing code 2
      else
        UInt8.ofNat (code / 64 ^ 3 + 240) :: trailing code 3 := by
  have codeIs : (Char.ofNat code).val.toNat = code := by
    rw [Char.ofNat, dif_pos valid]
    rfl
  rw [Nat.isValidChar] at valid
  rw [String.utf8EncodeChar.eq_1, codeIs]
  simp only [trailing, pow_zero, pow_one, Nat.div_one, Nat.reducePow]
  split_ifs
  all_goals
    first
    | omega
    | rfl
    | congr 2; omega

/-- A lead and the digits after it encode the code point of these bits. -/
theorem Lead.Marks.utf8EncodeChar_eq
    {first : UInt8}
    {lead : Lead}
    {code : Nat}
    (marks : Marks first.toNat lead)
    (leading : code / 64 ^ lead.following = lead.bits)
    (inRange :
      0 < lead.following →
        lead.low ≤ code / 64 ^ (lead.following - 1) % 64 + 128 ∧
          code / 64 ^ (lead.following - 1) % 64 + 128 ≤ lead.high) :
    String.utf8EncodeChar (Char.ofNat code) =
      first :: trailing code lead.following := by
  generalize value : first.toNat = number at marks
  have firstIs : first = UInt8.ofNat number := by
    rw [← value, UInt8.ofNat_toNat]
  cases marks with
  | one bits =>
      simp only [pow_zero, Nat.div_one] at leading
      subst leading
      have valid : code.isValidChar := .inl (by omega)
      rw [utf8EncodeChar_ofNat valid, if_pos bits, firstIs, trailing]
  | two bits mark needed small =>
      simp only [pow_one] at leading
      have valid : code.isValidChar := .inl (by omega)
      rw [utf8EncodeChar_ofNat valid, if_neg (by omega), if_pos (by omega),
        leading, ← mark, firstIs]
  | three bits low high mark small lowest highest needed noSurrogate =>
      have second := inRange Nat.two_pos
      simp only [Nat.reduceSub, pow_one, Nat.reducePow] at leading second
      have valid : code.isValidChar := by
        rw [Nat.isValidChar]
        omega
      rw [utf8EncodeChar_ofNat valid, if_neg (by omega), if_neg (by omega),
        if_pos (by omega), show code / 64 ^ 2 = bits from leading, ← mark,
        firstIs]
  | four bits low high mark small lowest highest needed existing =>
      have second := inRange (Nat.succ_pos 2)
      simp only [Nat.reduceSub, Nat.reducePow] at leading second
      have valid : code.isValidChar := .inr (by omega)
      rw [utf8EncodeChar_ofNat valid, if_neg (by omega), if_neg (by omega),
        if_neg (by omega), show code / 64 ^ 3 = bits from leading, ← mark,
        firstIs]

theorem Lead.Marks.following_range
    {first : Nat}
    {lead : Lead}
    (marks : Marks first lead) :
    0x80 ≤ lead.low ∧ lead.high ≤ 0xBF := by
  cases marks with
  | one | two => exact ⟨Nat.le_refl _, Nat.le_refl _⟩
  | three | four => exact ⟨by assumption, by assumption⟩

/-- The first segment and what comes after it are the bytes it was cut from. -/
theorem bytes_nextSegment
    (first : UInt8)
    (rest : Bytes) :
    (nextSegment first rest).1.bytes ++ (nextSegment first rest).2 =
      first :: rest := by
  rw [nextSegment]
  cases led : Lead.ofByte? first with
  | none =>
      rfl
  | some lead =>
      have marks := Lead.marks_of_ofByte? led
      obtain ⟨lowest, highest⟩ := marks.following_range
      exact
        @bytes_continueSegment [first] _ _ _ _ lowest highest
          (fun _ leading inRange => marks.utf8EncodeChar_eq leading inRange) rest

theorem segmentsFrom_append
    (found before : List Segment)
    (bytes : Bytes) :
    segmentsFrom (found ++ before) bytes =
      before.reverse ++ segmentsFrom found bytes := by
  induction found, bytes using segmentsFrom.induct with
  | case1 found =>
      rw [segmentsFrom, segmentsFrom, List.reverse_append]
  | case2 found first rest inductionHypothesis =>
      rw [segmentsFrom, segmentsFrom, ← List.cons_append, inductionHypothesis]

@[simp] theorem segments_nil :
    segments [] = [] := by
  rw [segments, segmentsFrom, List.reverse_nil]

theorem segments_cons
    (first : UInt8)
    (rest : Bytes) :
    segments (first :: rest) =
      (nextSegment first rest).1 :: segments (nextSegment first rest).2 := by
  rw [segments, segmentsFrom, ← List.nil_append [_], segmentsFrom_append]
  rfl

/-- Nothing is lost in cutting bytes into segments. -/
theorem flatMap_bytes_segments
    (bytes : Bytes) :
    (segments bytes).flatMap Segment.bytes = bytes := by
  induction size : bytes.length using Nat.strongRecOn generalizing bytes with
  | ind size' inductionHypothesis =>
      cases bytes with
      | nil =>
          rw [segments_nil, List.flatMap_nil]
      | cons first rest =>
          have shorter := length_nextSegment_le first rest
          rw [segments_cons, List.flatMap_cons,
            inductionHypothesis _ (by rw [← size, List.length_cons]; omega) _ rfl,
            bytes_nextSegment]

/-- A character is shown only where its encoding stands. -/
theorem utf8EncodeChar_infix
    {value : Char}
    {bytes : Bytes}
    (member : .character value ∈ segments bytes) :
    String.utf8EncodeChar value <:+: bytes := by
  obtain ⟨before, after, split⟩ := List.append_of_mem member
  refine
    ⟨before.flatMap Segment.bytes, after.flatMap Segment.bytes, ?_⟩
  rw [← flatMap_bytes_segments bytes, split, List.flatMap_append,
    List.flatMap_cons, List.append_assoc]
  rfl

/-- A character that is shown, but is no replacement, has its encoding among the bytes. -/
theorem utf8EncodeChar_infix_of_mem_lossy
    {value : Char}
    {bytes : Bytes}
    (ordinary : value ≠ '\uFFFD')
    (member : value ∈ (lossy bytes).toList) :
    String.utf8EncodeChar value <:+: bytes := by
  rw [lossy, String.toList_ofList] at member
  obtain ⟨segment, inside, shown⟩ := List.mem_map.mp member
  cases segment with
  | character other =>
      obtain rfl : other = value := shown
      exact utf8EncodeChar_infix inside
  | invalid bytes =>
      exact absurd shown.symm ordinary

/-- Only no bytes at all are shown as the empty text. -/
theorem lossy_eq_empty_iff
    {bytes : Bytes} :
    lossy bytes = "" ↔ bytes = [] := by
  constructor
  · intro empty
    cases bytes with
    | nil => rfl
    | cons first rest =>
        have characters := congrArg String.toList empty
        rw [lossy, String.toList_ofList, segments_cons] at characters
        cases characters
  · rintro rfl
    rw [lossy, segments_nil, List.map_nil]

/-- Segments that all show themselves are characters. -/
theorem eq_map_character_of_mapM
    {found : List Segment}
    {characters : List Char}
    (shown : found.mapM Segment.character? = some characters) :
    found = characters.map .character := by
  induction found generalizing characters with
  | nil =>
      obtain rfl := Option.some.inj shown
      rfl
  | cons segment found inductionHypothesis =>
      rw [List.mapM_cons] at shown
      obtain ⟨value, itself, shown⟩ := Option.bind_eq_some_iff.mp shown
      obtain ⟨values, others, shown⟩ := Option.bind_eq_some_iff.mp shown
      obtain rfl := Option.some.inj shown
      cases segment with
      | character other =>
          obtain rfl := Option.some.inj itself
          rw [inductionHypothesis others, List.map_cons]
      | invalid bytes =>
          cases itself

theorem encode_append
    (first second : String) :
    encode (first ++ second) = encode first ++ encode second := by
  rw [encode, String.toList_append, List.flatMap_append]
  rfl

theorem encode_eq_nil_iff
    {text : String} :
    encode text = [] ↔ text = "" := by
  constructor
  · intro nothing
    rw [← lossy_encode text, nothing, lossy_eq_empty_iff]
  · rintro rfl
    rfl

/-- All bytes but the first of an encoding are large. -/
theorem le_of_mem_trailing
    {code count : Nat}
    {byte : UInt8}
    (member : byte ∈ trailing code count) :
    0x80 ≤ byte.toNat := by
  induction count with
  | zero =>
      exact absurd member List.not_mem_nil
  | succ count inductionHypothesis =>
      rcases List.mem_cons.mp member with rfl | later
      · rw [UInt8.toNat_ofNat']
        omega
      · exact inductionHypothesis later

/-- A small byte encodes the character with its number, and is in no other encoding. -/
theorem toNat_eq_of_mem_utf8EncodeChar
    {character : Char}
    {byte : UInt8}
    (small : byte.toNat < 0x80)
    (member : byte ∈ String.utf8EncodeChar character) :
    character.toNat = byte.toNat := by
  have valid : character.toNat.isValidChar := character.valid
  have range : character.toNat < 0x110000 := by
    rw [Nat.isValidChar] at valid
    omega
  rw [← Char.ofNat_toNat character, utf8EncodeChar_ofNat valid] at member
  have notLater {count : Nat} : byte ∉ trailing character.toNat count := by
    intro later
    have := le_of_mem_trailing later
    omega
  split_ifs at member with one two three
  · rw [List.mem_singleton] at member
    rw [member, UInt8.toNat_ofNat']
    omega
  all_goals
    rcases List.mem_cons.mp member with leading | later
    · rw [leading, UInt8.toNat_ofNat'] at small
      omega
    · exact absurd later notLater

/-- A byte string encodes a text only as the text is encoded. -/
theorem decode?_eq_some_iff
    {bytes : Bytes}
    {text : String} :
    decode? bytes = some text ↔ bytes = encode text := by
  constructor
  · intro decoded
    obtain ⟨characters, shown, rfl⟩ := Option.map_eq_some_iff.mp decoded
    rw [encode, String.toList_ofList, ← flatMap_bytes_segments bytes,
      eq_map_character_of_mapM shown, List.flatMap_map]
    rfl
  · rintro rfl
    exact decode?_encode text

end SpritePack.Utf8
