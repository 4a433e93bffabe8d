import SpritePack.Disk
import SpritePack.Log.Record

namespace SpritePack

/-!
# Hosts

A conversion reads files, writes files and leaves log records. A host is any
setting in which these can be done. The world, a disk with the records made so
far, is one in which the whole effect of a run can be seen.
-/

/-- What a program can do where it runs. -/
class Host (m : Type → Type) where
  /-- Open a path for reading. Directories can be opened too. -/
  openPath : Path → m (Except FileFault Node)
  /-- Write a file, whatever it held before. -/
  writeFile : Path → Bytes → m (Except FileFault Unit)
  /-- Leave a record in the log. -/
  record : Log.Record → m Unit

/-- A disk and the records made so far. -/
structure World where
  disk : Disk
  log : List Log.Record
  deriving Repr, DecidableEq

namespace World

/-- A world with nothing in it yet. -/
def empty : World where
  disk := Disk.empty
  log := []

/-- Open a path in a world, which stays as it is. -/
def openPath
    (path : Path)
    (world : World) :
    Except FileFault Node × World :=
  (world.disk.open? path, world)

/-- Write a file in a world. A write that fails changes nothing. -/
def writeFile
    (path : Path)
    (content : Bytes)
    (world : World) :
    Except FileFault Unit × World :=
  match world.disk.write path content with
  | .error fault => (.error fault, world)
  | .ok disk => (.ok (), { world with disk := disk })

/-- Add a record to a world's log. -/
def record
    (entry : Log.Record)
    (world : World) :
    Unit × World :=
  ((), { world with log := world.log ++ [entry] })

end World

instance : Host (StateM World) where
  openPath := World.openPath
  writeFile := World.writeFile
  record := World.record

end SpritePack
