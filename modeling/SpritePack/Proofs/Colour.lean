import SpritePack.Sprite.Display

namespace SpritePack

/-!
# Display words

A display word is a number of three digits in base sixteen, one for each
channel.  Packing and unpacking are arithmetic on these digits, so a word tells
exactly the high bits of a colour's channels.
-/

namespace Colour

/-- The word of a colour as a number. -/
theorem toNat_toRgb12
    (colour : Colour) :
    colour.toRgb12.toNat =
      colour.red.toNat / 16 * 256 + colour.green.toNat / 16 * 16 +
        colour.blue.toNat / 16 := by
  have redSmall := colour.red.toNat_lt
  have greenSmall := colour.green.toNat_lt
  have blueSmall := colour.blue.toNat_lt
  have red :
      ((colour.red >>> 4).toUInt16 <<< 8).toNat =
        (colour.red.toNat / 16) <<< 8 := by
    simp only [UInt16.toNat_shiftLeft, UInt8.toNat_toUInt16,
      UInt8.toNat_shiftRight, UInt8.reduceToNat, UInt16.reduceToNat,
      Nat.reduceMod, Nat.shiftLeft_eq, Nat.shiftRight_eq_div_pow]
    omega
  have green :
      ((colour.green >>> 4).toUInt16 <<< 4).toNat =
        (colour.green.toNat / 16) <<< 4 := by
    simp only [UInt16.toNat_shiftLeft, UInt8.toNat_toUInt16,
      UInt8.toNat_shiftRight, UInt8.reduceToNat, UInt16.reduceToNat,
      Nat.reduceMod, Nat.shiftLeft_eq, Nat.shiftRight_eq_div_pow]
    omega
  have blue :
      (colour.blue >>> 4).toUInt16.toNat = colour.blue.toNat / 16 := by
    simp only [UInt8.toNat_toUInt16, UInt8.toNat_shiftRight,
      UInt8.reduceToNat, Nat.reduceMod, Nat.shiftRight_eq_div_pow,
      Nat.reducePow]
  have greenFits : (colour.green.toNat / 16) <<< 4 < 2 ^ 8 := by
    rw [Nat.shiftLeft_eq]
    omega
  have blueFits : colour.blue.toNat / 16 < 2 ^ 4 := by
    omega
  have upper :
      (colour.red.toNat / 16) <<< 8 + (colour.green.toNat / 16) <<< 4 =
        (colour.red.toNat / 16 * 16 + colour.green.toNat / 16) <<< 4 := by
    simp only [Nat.shiftLeft_eq]
    omega
  rw [toRgb12, UInt16.toNat_or, UInt16.toNat_or, red, green, blue,
    ← Nat.shiftLeft_add_eq_or_of_lt greenFits, upper,
    ← Nat.shiftLeft_add_eq_or_of_lt blueFits]
  simp only [Nat.shiftLeft_eq]
  omega

/-- The number of a shifted channel. -/
theorem toNat_shiftRight_four
    (channel : UInt8) :
    (channel >>> 4).toNat = channel.toNat / 16 := by
  simp only [UInt8.toNat_shiftRight, UInt8.reduceToNat, Nat.reduceMod,
    Nat.shiftRight_eq_div_pow, Nat.reducePow]

/-- Two colours have the same word exactly if their high bits agree. -/
theorem toRgb12_eq_iff
    {first second : Colour} :
    first.toRgb12 = second.toRgb12 ↔ first.SameHighBits second := by
  have firstRed := first.red.toNat_lt
  have firstGreen := first.green.toNat_lt
  have firstBlue := first.blue.toNat_lt
  have secondRed := second.red.toNat_lt
  have secondGreen := second.green.toNat_lt
  have secondBlue := second.blue.toNat_lt
  rw [← UInt16.toNat_inj, toNat_toRgb12, toNat_toRgb12]
  simp only [SameHighBits, ← UInt8.toNat_inj, toNat_shiftRight_four]
  constructor
  · intro sameNumber
    refine ⟨?_, ?_, ?_⟩ <;> omega
  · rintro ⟨sameRed, sameGreen, sameBlue⟩
    rw [sameRed, sameGreen, sameBlue]

/-- A digit of a word, as the channel that it is unpacked to. -/
theorem toNat_unpackedDigit
    (word : UInt16) :
    (((word &&& 15).toUInt8) <<< 4).toNat = word.toNat % 16 * 16 := by
  have mask : (15 : UInt16).toNat = 2 ^ 4 - 1 := rfl
  simp only [UInt8.toNat_shiftLeft, UInt16.toNat_toUInt8, UInt16.toNat_and,
    mask, Nat.and_two_pow_sub_one_eq_mod, UInt8.reduceToNat, Nat.reduceMod,
    Nat.shiftLeft_eq]
  omega

/-- Clearing the low bits of a channel rounds it down to a multiple of sixteen. -/
theorem toNat_and_highBits
    (channel : UInt8) :
    (channel &&& 0xF0).toNat = channel.toNat / 16 * 16 := by
  have parts :
      channel.toNat = (channel.toNat / 16) <<< 4 ||| channel.toNat % 16 := by
    rw [← Nat.shiftLeft_add_eq_or_of_lt (Nat.mod_lt _ (by decide)),
      Nat.shiftLeft_eq]
    omega
  have lowCleared : ∀ low < 16, low &&& 0xF0 = 0 := by
    decide
  have highKept : ∀ high < 16, high <<< 4 &&& 0xF0 = high * 16 := by
    decide
  have small := channel.toNat_lt
  have highSmall : channel.toNat / 16 < 16 := by
    omega
  have lowSmall : channel.toNat % 16 < 16 :=
    Nat.mod_lt _ (by decide)
  calc
    (channel &&& 0xF0).toNat = channel.toNat &&& 0xF0 :=
      UInt8.toNat_and ..
    _ = ((channel.toNat / 16) <<< 4 ||| channel.toNat % 16) &&& 0xF0 := by
      rw [← parts]
    _ = channel.toNat / 16 * 16 := by
      rw [Nat.and_or_distrib_right, lowCleared _ lowSmall,
        highKept _ highSmall, Nat.or_zero]

/-- The display shows a colour with the low bits of its channels clear. -/
theorem ofRgb12_toRgb12
    (colour : Colour) :
    ofRgb12 colour.toRgb12 = colour.coarse := by
  have number := colour.toNat_toRgb12
  have redSmall := colour.red.toNat_lt
  have greenSmall := colour.green.toNat_lt
  have blueSmall := colour.blue.toNat_lt
  simp only [ofRgb12, coarse, mk.injEq, ← UInt8.toNat_inj,
    toNat_unpackedDigit, toNat_and_highBits, UInt16.toNat_shiftRight,
    UInt16.reduceToNat, Nat.reduceMod, Nat.shiftRight_eq_div_pow,
    Nat.reducePow, number]
  refine ⟨?_, ?_, ?_⟩ <;> omega

/-- No word of a colour has a fourth digit. -/
theorem toRgb12_lt
    (colour : Colour) :
    colour.toRgb12.toNat < 4096 := by
  have redSmall := colour.red.toNat_lt
  have greenSmall := colour.green.toNat_lt
  have blueSmall := colour.blue.toNat_lt
  rw [toNat_toRgb12]
  omega

/-- A word without a fourth digit is that of the colour shown for it. -/
theorem toRgb12_ofRgb12
    {word : UInt16}
    (threeDigits : word.toNat < 4096) :
    (ofRgb12 word).toRgb12 = word := by
  apply UInt16.toNat_inj.mp
  simp only [toNat_toRgb12, ofRgb12, toNat_unpackedDigit,
    UInt16.toNat_shiftRight, UInt16.reduceToNat, Nat.reduceMod,
    Nat.shiftRight_eq_div_pow, Nat.reducePow]
  omega

/-- A word is read back from its two bytes. -/
theorem or_shiftLeft_bytes
    (word : UInt16) :
    word.toUInt8.toUInt16 ||| ((word >>> 8).toUInt8.toUInt16 <<< 8) =
      word := by
  have small := word.toNat_lt
  have low : word.toUInt8.toUInt16.toNat = word.toNat % 256 := by
    simp only [UInt8.toNat_toUInt16, UInt16.toNat_toUInt8, Nat.reducePow]
  have high :
      ((word >>> 8).toUInt8.toUInt16 <<< 8).toNat =
        (word.toNat / 256) <<< 8 := by
    simp only [UInt16.toNat_shiftLeft, UInt8.toNat_toUInt16,
      UInt16.toNat_toUInt8, UInt16.toNat_shiftRight, UInt16.reduceToNat,
      Nat.reduceMod, Nat.shiftLeft_eq, Nat.shiftRight_eq_div_pow,
      Nat.reducePow]
    omega
  apply UInt16.toNat_inj.mp
  rw [UInt16.toNat_or, low, high, Nat.or_comm,
    ← Nat.shiftLeft_add_eq_or_of_lt (Nat.mod_lt _ (by decide)),
    Nat.shiftLeft_eq]
  omega

end Colour

end SpritePack
