import SpritePack.Host

namespace SpritePack

/-!
# Journals

A log says what has happened, but not what the disk was like at that time.  A
journal is a world that keeps this too: with every record that is left goes the
disk as it is at that moment.
-/

/-- A disk, and the records left so far with the disk that each was left at. -/
structure Journal where
  disk : Disk
  entries : List (Log.Record × Disk)
  deriving Repr, DecidableEq

namespace Journal

/-- The world of a journal, with the records alone. -/
def world (journal : Journal) : World where
  disk := journal.disk
  log := journal.entries.map Prod.fst

/-- Open a path, which leaves no trace in the journal. -/
def openPath
    (path : Path)
    (journal : Journal) :
    Except FileFault Node × Journal :=
  (journal.disk.open? path, journal)

/-- Write a file. A write that fails changes nothing. -/
def writeFile
    (path : Path)
    (content : Bytes)
    (journal : Journal) :
    Except FileFault Unit × Journal :=
  match journal.disk.write path content with
  | .error fault => (.error fault, journal)
  | .ok disk => (.ok (), { journal with disk := disk })

/-- Enter a record at this moment. -/
def record
    (entry : Log.Record)
    (journal : Journal) :
    Unit × Journal :=
  ((), { journal with entries := journal.entries ++ [(entry, journal.disk)] })

end Journal

instance : Host (StateM Journal) where
  openPath := Journal.openPath
  writeFile := Journal.writeFile
  record := Journal.record

end SpritePack
