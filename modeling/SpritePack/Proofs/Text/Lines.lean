import Mathlib.Data.String.Basic
import Mathlib.Tactic.SplitIfs
import SpritePack.Proofs.Text.Decoding
import SpritePack.Text.Lines
import SpritePack.Text.Quoted

namespace SpritePack

/-!
# Texts of one line

A text without a line feed is a single line.  Numbers and quoted names never have
one, and a name that is shown as it is has one only if there is one among its
bytes.
-/

namespace Lines

/-- That a text has no line feed. -/
def Unbroken (text : String) : Prop :=
  '\n' ∉ text.toList

instance (text : String) : Decidable (Unbroken text) :=
  inferInstanceAs (Decidable ('\n' ∉ text.toList))

theorem Unbroken.append
    {first second : String}
    (firstUnbroken : Unbroken first)
    (secondUnbroken : Unbroken second) :
    Unbroken (first ++ second) := by
  rw [Unbroken, String.toList_append, List.mem_append, not_or]
  exact ⟨firstUnbroken, secondUnbroken⟩

section Unbroken

variable
  {text : String}
  (unbroken : Unbroken text)

include unbroken

end Unbroken

end Lines

namespace Utf8

end Utf8

namespace Quoted

end Quoted

end SpritePack
