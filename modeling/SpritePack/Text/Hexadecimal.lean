namespace SpritePack

/-!
# Hexadecimal

Bytes as pairs of digits in base sixteen.
-/

namespace Hexadecimal

/-- The lower-case digit of a number below sixteen. -/
def digit (value : Nat) : Char :=
  if value < 10 then
    Char.ofNat ('0'.toNat + value)
  else
    Char.ofNat ('a'.toNat + (value - 10))

/-- The two digits of a byte. -/
def ofByte (byte : UInt8) : List Char :=
  [digit (byte.toNat / 16), digit (byte.toNat % 16)]

end Hexadecimal

end SpritePack
