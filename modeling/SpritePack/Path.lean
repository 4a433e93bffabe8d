import SpritePack.Text.UpperCase
import SpritePack.Text.Utf8

namespace SpritePack

/-!
# Paths

A path is any string of bytes. Slashes separate its names; empty names and
single dots say nothing. Paths are never rewritten, so two spellings of one
place are two paths.
-/

/-- The name of a place in a file system. -/
structure Path where
  bytes : Bytes
  deriving Repr, DecidableEq

namespace Path

/-- The byte that separates names. -/
def slash : UInt8 := 0x2F

/-- The byte that separates a name from its extension. -/
def dot : UInt8 := 0x2E

/-- The path with the given text. -/
def ofString (text : String) : Path :=
  ⟨Utf8.encode text⟩

/-- The path as shown in messages. -/
def shown (path : Path) : String :=
  Utf8.lossy path.bytes

/-- The pieces between slashes, of which there is always at least one. -/
def pieces : Bytes → List Bytes
  | [] => [[]]
  | byte :: rest =>
      if byte = slash then
        [] :: pieces rest
      else
        match pieces rest with
        | piece :: others => (byte :: piece) :: others
        | [] => [[byte]]

/-- Whether a piece names something: it is not empty and not a single dot. -/
def isName (piece : Bytes) : Bool :=
  piece != [] && piece != [dot]

/-- The names along a path. Two dots stay, as a step back. -/
def names (path : Path) : List Bytes :=
  (pieces path.bytes).filter isName

/-- Two dots: a step back to the directory above. -/
def stepBack : Bytes := [dot, dot]

/-- How a path ends, which decides what it may refer to. -/
inductive Ending where
  /-- With the name of a file or directory. -/
  | plain
  /-- With a slash after a name. -/
  | slash
  /-- With dots, which stand for a directory. -/
  | dots
  deriving Repr, DecidableEq

/-- How a path ends. -/
def ending (path : Path) : Ending :=
  match ((pieces path.bytes).filter (· != [])).getLast? with
  | none => .dots
  | some piece =>
      if piece = [dot] ∨ piece = stepBack then .dots
      else if path.bytes.getLast? = some slash then .slash
      else .plain

/-- The last name, if there is one and it is not a step back. -/
def fileName? (path : Path) : Option Bytes :=
  match path.names.getLast? with
  | none => none
  | some name => if name = stepBack then none else some name

/--
A name without its extension: the part before the last dot. A dot at the very
start begins no extension.
-/
def stem (name : Bytes) : Bytes :=
  match name.reverse.dropWhile (· != dot) with
  | [] => name
  | _ :: before => if before = [] then name else before.reverse

/-- The last name without its extension. -/
def fileStem? (path : Path) : Option Bytes :=
  path.fileName?.map stem

end Path

end SpritePack
