import SpritePack.Proofs.CommandLine.Talkative
import SpritePack.Proofs.Conversion.Success
import SpritePack.Proofs.Program.ErrorLine
import SpritePack.Proofs.Program.Report
import SpritePack.Proofs.Sprite.WellFormed
import SpritePack.Proofs.Text.Utf8

namespace SpritePack

/-!
# Logging changes nothing

What the user sets for the log, and whether a more talkative one is asked for,
decides which records are shown and nothing else.  One thing only is seen
differently: the first line that does not start a record, if a record goes on
there because a name in it has a line feed.
-/

namespace Program

section Reports

variable
  {setting : Option String}
  {line : List Bytes}
  {disk : Disk}

end Reports

section Work

variable
  {setting : Option String}
  {line : List Bytes}
  {disk : Disk}
  {arguments : Arguments}

end Work

section Levels

variable
  {setting : Option String}
  {line : List Bytes}
  {records : List Log.Record}

end Levels

section Configuring

/--
That a log has the configuration in use first and never again, or nothing at all
if there is none.
-/
structure Announces
    (settling : Except Error Config)
    (log : List Log.Record) : Prop where
  announced :
    ∀ config, settling = .ok config →
      ∃ later,
        log = ⟨none, .usingConfiguration config⟩ :: later ∧
          ∀ record ∈ later, record.event.level ≠ .debug
  unannounced :
    ∀ error, settling = .error error → log = []

variable
  {disk : Disk}
  {arguments : Arguments}

end Configuring

section Asking

variable
  {line : List Bytes}
  {disk : Disk}
  {arguments : Arguments}
  (accepted : CommandLine.read line = .ok (.run arguments))
  (silent : arguments.verbose = false)

include accepted silent

end Asking

end Program

end SpritePack
