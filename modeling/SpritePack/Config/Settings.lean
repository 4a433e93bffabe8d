import SpritePack.Config
import SpritePack.Toml.Document

namespace SpritePack

/-!
# Configurations from settings files

A settings file must give its version, and may give the input and each output.
What it does not give is what it would be for the input alone. The whole file is
judged before its version is.
-/

/-- Why a text is no configuration. -/
inductive ConfigFault where
  | malformed
  | unsupportedVersion (version : String)
  deriving Repr, DecidableEq

namespace Config

/-- The version of the settings that are understood. -/
def supportedVersion : String := "1.0"

/-- The keys that a settings file may have. -/
def settingKeys : List String :=
  ["version", "input", "bitmap_output", "palette_output"]

/-- The text that settings give to a key. -/
def setting?
    (settings : List Toml.Setting)
    (key : String) :
    Option String :=
  (settings.find? (·.key == key)).map Toml.Setting.text

/-- The configuration that settings describe, whatever their version. -/
def describedBy (settings : List Toml.Setting) : Config :=
  let given := fun key => (setting? settings key).map Path.ofString
  let derived := withInput ((given "input").getD defaultInput)
  {
    input := derived.input
    bitmapOutput := (given "bitmap_output").getD derived.bitmapOutput
    paletteOutput := (given "palette_output").getD derived.paletteOutput
  }

/-- The configuration in a settings file. -/
def parse (text : String) : Except ConfigFault Config :=
  match Toml.settings? text with
  | none => .error .malformed
  | some settings =>
      if settings.all fun setting => settingKeys.contains setting.key then
        match setting? settings "version" with
        | none => .error .malformed
        | some version =>
            if version = supportedVersion then
              .ok (describedBy settings)
            else
              .error (.unsupportedVersion version)
      else
        .error .malformed

end Config

end SpritePack
