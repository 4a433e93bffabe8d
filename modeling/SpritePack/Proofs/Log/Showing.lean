import SpritePack.Log.Filter
import SpritePack.Proofs.Text.Lines

namespace SpritePack.Log

/-!
# What a log shows of a record

A record takes one line unless a name in it goes on over several.  Most details
are numbers or are quoted; only the picture being converted and a file that was
written are named as they are.
-/

/-- The path that an event names as it is, if it names one. -/
def Event.named? : Event → Option Path
  | wroteOutput path _ => some path
  | _ => none

/-- The paths that a record names as they are. -/
def Record.named (record : Record) : List Path :=
  record.conversion.toList ++ record.event.named?.toList

/-- That a path has no line feed, which would end the line of a record that names it. -/
def Unbroken (path : Path) : Prop :=
  0x0A ∉ path.bytes

instance (path : Path) : Decidable (Unbroken path) :=
  inferInstanceAs (Decidable (0x0A ∉ path.bytes))

section Texts

variable {event : Event}

/-- What a record says of its event. -/
def Event.body (event : Event) : String :=
  origin ++ ": " ++ event.message ++
    String.join (event.fields.map Record.fieldText)

section Unbroken

variable
  {event : Event}
  (unbroken : ∀ path, event.named? = some path → Unbroken path)

include unbroken

end Unbroken

end Texts

namespace Filter

end Filter

end SpritePack.Log
