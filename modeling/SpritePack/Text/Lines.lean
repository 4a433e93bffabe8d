import SpritePack.Text.Blank

namespace SpritePack

/-!
# Lines

A line ends with a line feed. A carriage return directly before it belongs to
the end of the line, not to the line.
-/

namespace Lines

/-- A line without the carriage return at its end. -/
def withoutReturn (line : String) : String :=
  match line.toList.reverse with
  | '\r' :: rest => String.ofList rest.reverse
  | _ => line

/-- The lines of a text that is followed by a line feed. -/
def ofText (text : String) : List String :=
  (text.splitOn "\n").map withoutReturn

/-- The first line of a text that is followed by a line feed. -/
def first (text : String) : String :=
  (ofText text).headD ""

/-- A line without the blanks that it starts with. -/
def unindented (line : String) : String :=
  String.ofList (Blank.trimStart line.toList)

end Lines

end SpritePack
