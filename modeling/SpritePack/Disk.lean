import SpritePack.FileFault
import SpritePack.Path

namespace SpritePack

/-!
# Disks

A disk is a tree of directories and files, kept as a table from places to what
is there. A path is followed from the root or from the working directory, one
name at a time, and every name but the last must lead to a directory.
-/

/-- A place on a disk: the names on the way from the root. -/
abbrev Location := List Bytes

/-- What may be found at a place. -/
inductive Node where
  | file (content : Bytes)
  | directory
  deriving Repr, DecidableEq

/-- The places that hold something, apart from the root, and the working directory. -/
structure Disk where
  nodes : List (Location × Node)
  workingDirectory : Location
  deriving Repr, DecidableEq

namespace Disk

/-- The longest name in bytes. -/
def maxNameLength : Nat := 255

/-- The longest path in bytes. -/
def maxPathLength : Nat := 4095

/-- A disk with nothing on it but an empty working directory. -/
def empty : Disk where
  nodes := [([[0x77]], .directory)]
  workingDirectory := [[0x77]]

/-- What is at a place. The root is a directory. -/
def node?
    (disk : Disk)
    (place : Location) :
    Option Node :=
  if place = [] then
    some .directory
  else
    disk.nodes.lookup place

/-- The disk with the given node at a place, instead of what was there. -/
def put
    (disk : Disk)
    (place : Location)
    (node : Node) :
    Disk :=
  { disk with
    nodes := (place, node) :: disk.nodes.filter fun entry => entry.1 != place }

/-- Follow names from a place. What the last name leads to need not exist. -/
def follow
    (disk : Disk) :
    Location → List Bytes → Except FileFault Location
  | place, [] => .ok place
  | place, name :: rest =>
      match disk.node? place with
      | none => .error .notFound
      | some (.file _) => .error .notADirectory
      | some .directory =>
          if name = Path.stepBack then
            disk.follow place.dropLast rest
          else if maxNameLength < name.length then
            .error .nameTooLong
          else
            disk.follow (place ++ [name]) rest

/-- Why the bytes of a path cannot refer to anything. -/
def pathFault? (path : Path) : Option FileFault :=
  if 0 ∈ path.bytes then some .zeroByte
  else if path.bytes = [] then some .notFound
  else if maxPathLength < path.bytes.length then some .nameTooLong
  else none

/-- The place from which the names of a path are followed. -/
def startOf
    (disk : Disk)
    (path : Path) :
    Location :=
  if path.bytes.head? = some Path.slash then [] else disk.workingDirectory

/-- The place that a path refers to. -/
def locate
    (disk : Disk)
    (path : Path) :
    Except FileFault Location :=
  match pathFault? path with
  | some fault => .error fault
  | none => disk.follow (disk.startOf path) path.names

/-- Open a path for reading. Directories can be opened too. -/
def open?
    (disk : Disk)
    (path : Path) :
    Except FileFault Node :=
  match disk.locate path with
  | .error fault => .error fault
  | .ok place =>
      match disk.node? place with
      | none => .error .notFound
      | some .directory => .ok .directory
      | some (.file content) =>
          if path.ending = .plain then
            .ok (.file content)
          else
            .error .notADirectory

/-- The directory in which the last name of a path is looked up. -/
def locateParent
    (disk : Disk)
    (path : Path) :
    Except FileFault Location :=
  match pathFault? path with
  | some fault => .error fault
  | none =>
      match disk.follow (disk.startOf path) path.names.dropLast with
      | .error fault => .error fault
      | .ok place =>
          match disk.node? place with
          | none => .error .notFound
          | some (.file _) => .error .notADirectory
          | some .directory => .ok place

/--
The place of the file that may be written at a path. A slash at the end asks for
a directory, whatever the name before it.
-/
def target
    (disk : Disk)
    (path : Path) :
    Except FileFault Location :=
  if path.ending = .slash then
    match disk.locateParent path with
    | .error fault => .error fault
    | .ok _ => .error .isADirectory
  else
    match disk.locate path with
    | .error fault => .error fault
    | .ok place =>
        match disk.node? place, path.ending with
        | some .directory, _ => .error .isADirectory
        | some (.file _), .dots => .error .notADirectory
        | none, .dots => .error .notFound
        | _, _ => .ok place

/-- Write a file, whatever it held before. -/
def write
    (disk : Disk)
    (path : Path)
    (content : Bytes) :
    Except FileFault Disk :=
  match disk.target path with
  | .error fault => .error fault
  | .ok place => .ok (disk.put place (.file content))

/-- Follow names from a place, creating the directories that are missing. -/
def createAlong :
    Disk → Location → List Bytes → Except FileFault Disk
  | disk, _, [] => .ok disk
  | disk, place, name :: rest =>
      if name = Path.stepBack then
        createAlong disk place.dropLast rest
      else if maxNameLength < name.length then
        .error .nameTooLong
      else
        let next := place ++ [name]
        match disk.node? next with
        | none => createAlong (disk.put next .directory) next rest
        | some .directory => createAlong disk next rest
        | some (.file _) =>
            .error (if rest.isEmpty then .alreadyExists else .notADirectory)

/-- Create a directory and those above it. -/
def createDirectory
    (disk : Disk)
    (path : Path) :
    Except FileFault Disk :=
  match pathFault? path with
  | some fault => if path.bytes = [] then .ok disk else .error fault
  | none => createAlong disk (disk.startOf path) path.names

/-- Remove a file, or a directory with everything in it. -/
def remove
    (disk : Disk)
    (path : Path) :
    Except FileFault Disk :=
  match disk.locate path with
  | .error fault => .error fault
  | .ok place =>
      match disk.node? place, path.ending with
      | none, _ => .error .notFound
      | some (.file _), .slash | some (.file _), .dots => .error .notADirectory
      | some _, _ =>
          .ok { disk with
            nodes := disk.nodes.filter fun entry => !place.isPrefixOf entry.1 }

/-- What is found below the working directory, in the order of the names on the way to it. -/
def listing (disk : Disk) : List (Location × Node) :=
  let root := disk.workingDirectory
  let below := disk.nodes.filter fun entry =>
    root.isPrefixOf entry.1 && root.length < entry.1.length
  let relative := below.map fun entry => (entry.1.drop root.length, entry.2)
  relative.mergeSort fun left right => decide (left.1 ≤ right.1)

end Disk

/-- The path that follows the names of a place from the working directory. -/
def Path.ofNames (names : List Bytes) : Path :=
  ⟨[Path.slash].intercalate names⟩

end SpritePack
