import Mathlib.Data.List.Basic
import SpritePack.Text.UpperCase

namespace SpritePack.UpperCase

/-!
# Capitals are final

Text needs to be put in upper case only once, since no upper-case letter has
another upper-case form.  To see that no letter of the table is the capital of
another, all letters and all capitals are gathered as two sets of code points,
each held as one number with a bit for every member.
-/

/-- The letters that a run tells the upper-case letters of. -/
def Run.letters (run : Run) : List Nat :=
  (List.range ((run.last - run.first) / run.step + 1)).map fun place =>
    run.first + run.step * place

/-- The upper-case letters that a run gives. -/
def Run.capitals (run : Run) : List Nat :=
  run.letters.map fun letter => run.image + (letter - run.first)

/-- The letters that have another upper-case form. -/
def letters : List Nat :=
  expansions.map Prod.fst ++ runs.flatMap Run.letters

/-- All that the upper-case forms of these letters are made of. -/
def capitals : List Nat :=
  expansions.flatMap Prod.snd ++ runs.flatMap Run.capitals

/-- A set of numbers as one number, with a bit for each member. -/
def bitSet (members : List Nat) : Nat :=
  members.foldr (fun member bits => 1 <<< member ||| bits) 0

theorem testBit_bitSet
    (members : List Nat)
    (number : Nat) :
    (bitSet members).testBit number = decide (number ∈ members) := by
  induction members with
  | nil =>
      rw [bitSet, List.foldr_nil, Nat.zero_testBit]
      rfl
  | cons member members inductionHypothesis =>
      rw [bitSet] at inductionHypothesis
      rw [bitSet, List.foldr_cons, Nat.testBit_or, inductionHypothesis,
        Nat.one_shiftLeft, Nat.testBit_two_pow, ← Bool.decide_or]
      exact decide_eq_decide.mpr (by rw [List.mem_cons, eq_comm])

theorem notMem_of_bitSet
    {members others : List Nat}
    {number : Nat}
    (apart : bitSet members &&& bitSet others = 0)
    (member : number ∈ members) :
    number ∉ others := by
  have bit := congrArg (Nat.testBit · number) apart
  simpa [testBit_bitSet, member] using bit

/-- No letter of the table is the capital of another. -/
theorem notMem_letters_of_mem_capitals
    {code : Nat}
    (capital : code ∈ capitals) :
    code ∉ letters := by
  have apart : bitSet capitals &&& bitSet letters = 0 := by
    decide +kernel
  exact notMem_of_bitSet apart capital

/-- Capitals are characters, and come after the digits and the common signs. -/
theorem valid_of_mem_capitals :
    ∀ code ∈ capitals, 0x40 < code ∧ code.isValidChar := by
  decide +kernel

theorem expansion_ne_nil :
    ∀ expansion ∈ expansions, expansion.2 ≠ [] := by
  decide +kernel

/-- What a run says of a letter is among what it says. -/
theorem Run.mem_of_image?
    {run : Run}
    {letter image : Nat}
    (found : run.image? letter = some image) :
    letter ∈ run.letters ∧ image ∈ run.capitals := by
  rw [image?] at found
  split at found
  next inRun =>
    obtain ⟨notBefore, upTo, inStep⟩ := inRun
    obtain rfl := Option.some.inj found
    have whole := Nat.div_add_mod (letter - run.first) run.step
    have early :
        (letter - run.first) / run.step ≤ (run.last - run.first) / run.step :=
      Nat.div_le_div_right (Nat.sub_le_sub_right upTo run.first)
    have member : letter ∈ run.letters := by
      refine List.mem_map.mpr ⟨(letter - run.first) / run.step, ?_, ?_⟩
      · rw [List.mem_range]
        omega
      · omega
    exact ⟨member, List.mem_map_of_mem member⟩
  next =>
    cases found

/-- A character keeps its case, or its form is made of capitals. -/
theorem ofChar_cases
    (character : Char) :
    ofChar character = [character] ∨
      ∃ codes, codes ≠ [] ∧ (∀ code ∈ codes, code ∈ capitals) ∧
        ofChar character = codes.map Char.ofNat := by
  rw [ofChar]
  cases expanded : expansions.lookup character.toNat with
  | some codes =>
      obtain ⟨before, after, split, _⟩ := List.lookup_eq_some_iff.mp expanded
      have listed : (character.toNat, codes) ∈ expansions := by
        rw [split]
        exact List.mem_append_right _ List.mem_cons_self
      refine .inr ⟨codes, expansion_ne_nil _ listed, ?_, rfl⟩
      exact fun code member =>
        List.mem_append_left _ (List.mem_flatMap_of_mem listed member)
  | none =>
      dsimp only
      cases found : runs.findSome? (·.image? character.toNat) with
      | some image =>
          obtain ⟨run, listed, given⟩ := List.exists_of_findSome?_eq_some found
          refine .inr ⟨[image], List.cons_ne_nil _ _, ?_, rfl⟩
          rw [List.forall_mem_singleton]
          exact
            List.mem_append_right _
              (List.mem_flatMap_of_mem listed (Run.mem_of_image? given).2)
      | none =>
          exact .inl rfl

/-- A character that is no letter of the table keeps its case. -/
theorem ofChar_of_notMem_letters
    {character : Char}
    (absent : character.toNat ∉ letters) :
    ofChar character = [character] := by
  rw [letters, List.mem_append, not_or] at absent
  obtain ⟨notExpanded, inNoRun⟩ := absent
  have unexpanded : expansions.lookup character.toNat = none := by
    rw [List.lookup_eq_none_iff]
    intro expansion listed
    rw [bne_iff_ne]
    intro same
    rw [same] at notExpanded
    exact notExpanded (List.mem_map_of_mem listed)
  have ungiven : runs.findSome? (·.image? character.toNat) = none := by
    rw [List.findSome?_eq_none_iff]
    intro run listed
    cases given : run.image? character.toNat with
    | none =>
        rfl
    | some image =>
        exact
          absurd
            (List.mem_flatMap_of_mem listed (Run.mem_of_image? given).1)
            inNoRun
  rw [ofChar, unexpanded, ungiven]

theorem toNat_ofNat
    {code : Nat}
    (valid : code.isValidChar) :
    (Char.ofNat code).toNat = code := by
  rw [Char.ofNat, dif_pos valid]
  rfl

/-- What a character becomes in upper case stays as it is. -/
theorem ofChar_of_mem_ofChar
    {character capital : Char}
    (member : capital ∈ ofChar character) :
    ofChar capital = [capital] := by
  rcases ofChar_cases character with kept | ⟨codes, _, areCapitals, form⟩
  · rw [kept, List.mem_singleton] at member
    rw [member, kept]
  · rw [form] at member
    obtain ⟨code, inForm, rfl⟩ := List.mem_map.mp member
    have isCapital := areCapitals code inForm
    obtain ⟨_, valid⟩ := valid_of_mem_capitals code isCapital
    apply ofChar_of_notMem_letters
    rw [toNat_ofNat valid]
    exact notMem_letters_of_mem_capitals isCapital

/-- Only letters come out of changing case, apart from what was there before. -/
theorem eq_of_mem_ofChar
    {character sign : Char}
    (noLetter : sign.toNat ≤ 0x40)
    (member : sign ∈ ofChar character) :
    sign = character := by
  rcases ofChar_cases character with kept | ⟨codes, _, areCapitals, form⟩
  · rw [kept, List.mem_singleton] at member
    exact member
  · rw [form] at member
    obtain ⟨code, inForm, rfl⟩ := List.mem_map.mp member
    obtain ⟨large, valid⟩ := valid_of_mem_capitals code (areCapitals code inForm)
    rw [toNat_ofNat valid] at noLetter
    omega

theorem ofChar_ne_nil
    (character : Char) :
    ofChar character ≠ [] := by
  rcases ofChar_cases character with kept | ⟨codes, nonempty, _, form⟩
  · rw [kept]
    exact List.cons_ne_nil _ _
  · rw [form]
    exact mt List.map_eq_nil_iff.mp nonempty

/-- Text in upper case stays as it is. -/
theorem ofString_ofString
    (text : String) :
    ofString (ofString text) = ofString text := by
  have settled (character : Char) :
      (ofChar character).flatMap ofChar = ofChar character := by
    rw [List.flatMap_congr fun _ member => ofChar_of_mem_ofChar member,
      List.flatMap_singleton']
  rw [ofString, ofString, String.toList_ofList, List.flatMap_assoc,
    List.flatMap_congr fun character _ => settled character]

theorem ofString_eq_empty_iff
    {text : String} :
    ofString text = "" ↔ text = "" := by
  constructor
  · intro empty
    have characters := congrArg String.toList empty
    rw [ofString, String.toList_ofList] at characters
    have none : text.toList = [] := by
      rw [List.eq_nil_iff_forall_not_mem]
      intro character member
      have nothing := List.flatMap_eq_nil_iff.mp characters character member
      exact ofChar_ne_nil character nothing
    exact String.toList_eq_nil_iff.mp none
  · rintro rfl
    rfl

/-- Changing case brings no signs into a text. -/
theorem mem_of_mem_ofString
    {text : String}
    {sign : Char}
    (noLetter : sign.toNat ≤ 0x40)
    (member : sign ∈ (ofString text).toList) :
    sign ∈ text.toList := by
  rw [ofString, String.toList_ofList] at member
  obtain ⟨character, inText, inForm⟩ := List.mem_flatMap.mp member
  rw [eq_of_mem_ofChar noLetter inForm]
  exact inText

end SpritePack.UpperCase
