import SpritePack.Journal
import SpritePack.Proofs.Conversion.Run

namespace SpritePack

/-!
# Conversions in a journal

A conversion does in a journal what it does in a world.  In addition, a journal
shows at which moment each record is left, so all ways in which a conversion can
end are listed here once more, with what has been entered by then and with the
disk as it was at each entry.
-/

namespace Journal

variable {α β : Type}

/-- What an action that may fail does in a journal: its result, and the journal after it. -/
def perform
    (journal : Journal)
    (action : ExceptT Error (StateM Journal) α) :
    Except Error α × Journal :=
  action.run.run journal

section Sequence

variable
  {journal middle : Journal}
  {action : ExceptT Error (StateM Journal) α}

theorem perform_bind_ok
    {value : α}
    (ran : journal.perform action = (.ok value, middle))
    (next : α → ExceptT Error (StateM Journal) β) :
    journal.perform (action >>= next) = middle.perform (next value) :=
  run_bind_of_ok ran next

theorem perform_bind_error
    {error : Error}
    (ran : journal.perform action = (.error error, middle))
    (next : α → ExceptT Error (StateM Journal) β) :
    journal.perform (action >>= next) = (.error error, middle) :=
  run_bind_of_error ran next

end Sequence

/-!
## Journals and worlds

A journal keeps more than a world, but actions do the same in both.
-/

/-- That an action in journals does what another does in their worlds. -/
def Mirrors
    (kept : ExceptT Error (StateM Journal) α)
    (seen : ExceptT Error (StateM World) α) :
    Prop :=
  ∀ journal : Journal,
    journal.world.perform seen =
      ((journal.perform kept).1, (journal.perform kept).2.world)

theorem mirrors_mk_pure
    (result : Except Error α) :
    Mirrors (ExceptT.mk (pure result)) (ExceptT.mk (pure result)) :=
  fun _ => rfl

theorem mirrors_bind
    {kept : ExceptT Error (StateM Journal) α}
    {seen : ExceptT Error (StateM World) α}
    {keptNext : α → ExceptT Error (StateM Journal) β}
    {seenNext : α → ExceptT Error (StateM World) β}
    (first : Mirrors kept seen)
    (next : ∀ value, Mirrors (keptNext value) (seenNext value)) :
    Mirrors (kept >>= keptNext) (seen >>= seenNext) := by
  intro journal
  have same := first journal
  cases ran : journal.perform kept with
  | mk result middle =>
      rw [ran] at same
      cases result with
      | error error =>
          rw [World.perform_bind_error same, perform_bind_error ran]
      | ok value =>
          rw [World.perform_bind_ok same, perform_bind_ok ran]
          exact next value middle

theorem mirrors_openPath
    (path : Path) :
    Mirrors (liftM (Host.openPath path : StateM Journal _))
      (liftM (Host.openPath path : StateM World _)) :=
  fun _ => rfl

theorem mirrors_writeFile
    (path : Path)
    (content : Bytes) :
    Mirrors (liftM (Host.writeFile path content : StateM Journal _))
      (liftM (Host.writeFile path content : StateM World _)) := by
  intro journal
  change
    (Except.ok (journal.world.writeFile path content).1,
        (journal.world.writeFile path content).2) =
      (Except.ok (journal.writeFile path content).1,
        (journal.writeFile path content).2.world)
  rw [World.writeFile, Journal.writeFile, show journal.world.disk = journal.disk from rfl]
  cases journal.disk.write path content <;> rfl

theorem mirrors_record
    (entry : Log.Record) :
    Mirrors (liftM (Host.record entry : StateM Journal Unit))
      (liftM (Host.record entry : StateM World Unit)) := by
  intro journal
  change
    (Except.ok (), World.mk journal.disk (journal.world.log ++ [entry])) =
      (Except.ok (), World.mk journal.disk
        ((journal.entries ++ [(entry, journal.disk)]).map Prod.fst))
  rw [List.map_append]
  rfl

theorem mirrors_loadRaster
    (path : Path) :
    Mirrors (loadRaster path) (loadRaster path) := by
  refine mirrors_bind (mirrors_openPath path) fun opened => ?_
  cases opened with
  | error cause => exact mirrors_mk_pure _
  | ok node => exact mirrors_mk_pure _

theorem mirrors_writeOutput
    (conversion : Option Path)
    (path : Path)
    (content : Bytes) :
    Mirrors (writeOutput conversion path content)
      (writeOutput conversion path content) := by
  refine mirrors_bind (mirrors_writeFile path content) fun written => ?_
  cases written with
  | error cause => exact mirrors_mk_pure _
  | ok done => exact mirrors_record _

/-- A conversion does in a journal what it does in the journal's world. -/
theorem mirrors_convert
    (config : Config) :
    Mirrors (convert config) (convert config) := by
  refine mirrors_bind (mirrors_loadRaster config.input) fun raster => ?_
  refine mirrors_bind (mirrors_record _) fun _ => ?_
  refine mirrors_bind (mirrors_mk_pure (spriteOf raster)) fun sprite => ?_
  refine mirrors_bind ?_ fun _ => mirrors_mk_pure (.ok sprite)
  exact
    mirrors_bind (mirrors_writeOutput _ _ _) fun _ =>
      mirrors_writeOutput _ _ _

/-!
## What is entered, and when
-/

/-- The record of a picture that has been loaded. -/
def loadedRecord
    (input : Path)
    (raster : Raster) :
    Log.Record where
  conversion := some input
  event :=
    .loadedImage raster.width raster.height raster.bitDepth
      raster.palette.length

/-- The record of an output that has been written. -/
def writtenRecord
    (input path : Path)
    (content : Bytes) :
    Log.Record where
  conversion := some input
  event := .wroteOutput path content.length

/-- A journal with further entries, at another disk. -/
def goOn
    (journal : Journal)
    (entries : List (Log.Record × Disk))
    (disk : Disk) :
    Journal where
  disk := disk
  entries := journal.entries ++ entries

theorem goOn_goOn
    (journal : Journal)
    (entries later : List (Log.Record × Disk))
    (disk after : Disk) :
    (journal.goOn entries disk).goOn later after =
      journal.goOn (entries ++ later) after := by
  rw [goOn, goOn, goOn, List.append_assoc]

theorem perform_loadRaster
    (journal : Journal)
    (path : Path) :
    journal.perform (loadRaster path) =
      (journal.disk.raster? path, journal) := by
  have opened :
      journal.perform (liftM (Host.openPath path : StateM Journal _)) =
        (.ok (journal.disk.open? path), journal) :=
    rfl
  rw [loadRaster, perform_bind_ok opened, Disk.raster?]
  cases journal.disk.open? path <;> rfl

section Writing

variable
  {journal : Journal}
  {path : Path}
  {content : Bytes}
  (input : Path)

theorem perform_writeOutput_of_error
    {cause : FileFault}
    (unwritten : journal.disk.write path content = .error cause) :
    journal.perform (writeOutput (some input) path content) =
      (.error (.writeOutput path cause), journal) := by
  have written :
      journal.perform
          (liftM (Host.writeFile path content : StateM Journal _)) =
        (.ok (.error cause), journal) := by
    change (Except.ok (journal.writeFile path content).1,
      (journal.writeFile path content).2) = _
    rw [writeFile, unwritten]
  rw [writeOutput, perform_bind_ok written]
  rfl

/-- An output that is written is entered once it is there. -/
theorem perform_writeOutput_of_ok
    {after : Disk}
    (written : journal.disk.write path content = .ok after) :
    journal.perform (writeOutput (some input) path content) =
      (.ok (), journal.goOn [(writtenRecord input path content, after)] after) := by
  have written :
      journal.perform
          (liftM (Host.writeFile path content : StateM Journal _)) =
        (.ok (.ok ()), { journal with disk := after }) := by
    change (Except.ok (journal.writeFile path content).1,
      (journal.writeFile path content).2) = _
    rw [writeFile, written]
  rw [writeOutput, perform_bind_ok written]
  rfl

end Writing

/--
Every way that a conversion can end: its result, what it has entered by then
with the disk at each of these moments, and the disk that it leaves.
-/
inductive Recounted
    (disk : Disk)
    (config : Config) :
    Except Error Sprite → List (Log.Record × Disk) → Disk → Prop
  | unloaded
      {error : Error}
      (unloaded : disk.raster? config.input = .error error) :
      Recounted disk config (.error error) [] disk
  | refused
      {raster : Raster}
      {fault : SpriteFault}
      (loaded : disk.raster? config.input = .ok raster)
      (refused : raster.toSprite = .error fault) :
      Recounted disk config (.error (.sprite fault))
        [(loadedRecord config.input raster, disk)]
        disk
  | paletteUnwritten
      {raster : Raster}
      {sprite : Sprite}
      {cause : FileFault}
      (loaded : disk.raster? config.input = .ok raster)
      (accepted : raster.toSprite = .ok sprite)
      (unwritten :
        disk.write config.paletteOutput sprite.palette = .error cause) :
      Recounted disk config
        (.error (.writeOutput config.paletteOutput cause))
        [(loadedRecord config.input raster, disk)]
        disk
  | bitmapUnwritten
      {raster : Raster}
      {sprite : Sprite}
      {middle : Disk}
      {cause : FileFault}
      (loaded : disk.raster? config.input = .ok raster)
      (accepted : raster.toSprite = .ok sprite)
      (paletteWritten :
        disk.write config.paletteOutput sprite.palette = .ok middle)
      (unwritten :
        middle.write config.bitmapOutput sprite.bitmap = .error cause) :
      Recounted disk config
        (.error (.writeOutput config.bitmapOutput cause))
        [(loadedRecord config.input raster, disk),
          (writtenRecord config.input config.paletteOutput sprite.palette,
            middle)]
        middle
  | written
      {raster : Raster}
      {sprite : Sprite}
      {middle after : Disk}
      (loaded : disk.raster? config.input = .ok raster)
      (accepted : raster.toSprite = .ok sprite)
      (paletteWritten :
        disk.write config.paletteOutput sprite.palette = .ok middle)
      (bitmapWritten :
        middle.write config.bitmapOutput sprite.bitmap = .ok after) :
      Recounted disk config (.ok sprite)
        [(loadedRecord config.input raster, disk),
          (writtenRecord config.input config.paletteOutput sprite.palette,
            middle),
          (writtenRecord config.input config.bitmapOutput sprite.bitmap,
            after)]
        after

/-- The journal of a conversion that has loaded its picture. -/
def noted
    (journal : Journal)
    (input : Path)
    (raster : Raster) :
    Journal :=
  journal.goOn [(loadedRecord input raster, journal.disk)] journal.disk

/-- An accepted sprite is written as far as its outputs can be. -/
theorem recounted_write
    {journal : Journal}
    {config : Config}
    {raster : Raster}
    {sprite : Sprite}
    (loaded : journal.disk.raster? config.input = .ok raster)
    (accepted : raster.toSprite = .ok sprite) :
    ∃ result entries after,
      (journal.noted config.input raster).perform
          (sprite.write (some config.input) config >>= fun _ => pure sprite) =
        (result, journal.goOn entries after) ∧
      Recounted journal.disk config result entries after := by
  cases paletteWritten :
      journal.disk.write config.paletteOutput sprite.palette with
  | error cause =>
      have palette :
          (journal.noted config.input raster).perform
              (writeOutput (some config.input) config.paletteOutput
                sprite.palette) =
            _ :=
        perform_writeOutput_of_error config.input paletteWritten
      have written := perform_bind_error palette fun _ =>
        writeOutput (some config.input) config.bitmapOutput sprite.bitmap
      rw [Sprite.write, perform_bind_error written]
      exact ⟨_, _, _, rfl, .paletteUnwritten loaded accepted paletteWritten⟩
  | ok middle =>
      have palette :
          (journal.noted config.input raster).perform
              (writeOutput (some config.input) config.paletteOutput
                sprite.palette) =
            _ :=
        perform_writeOutput_of_ok config.input paletteWritten
      have written := perform_bind_ok palette fun _ =>
        writeOutput (some config.input) config.bitmapOutput sprite.bitmap
      cases bitmapWritten :
          middle.write config.bitmapOutput sprite.bitmap with
      | error cause =>
          rw [perform_writeOutput_of_error config.input bitmapWritten]
            at written
          rw [Sprite.write, perform_bind_error written, noted, goOn_goOn]
          exact
            ⟨_, _, _, rfl,
              .bitmapUnwritten loaded accepted paletteWritten bitmapWritten⟩
      | ok after =>
          rw [perform_writeOutput_of_ok config.input bitmapWritten] at written
          rw [Sprite.write, perform_bind_ok written, noted, goOn_goOn,
            goOn_goOn]
          exact
            ⟨_, _, _, rfl,
              .written loaded accepted paletteWritten bitmapWritten⟩

/-- A conversion ends in one of the ways listed, and takes no entry back. -/
theorem recounted_convert
    (journal : Journal)
    (config : Config) :
    ∃ result entries after,
      journal.perform (convert config) = (result, journal.goOn entries after) ∧
        Recounted journal.disk config result entries after := by
  have loading := journal.perform_loadRaster config.input
  cases loaded : journal.disk.raster? config.input with
  | error error =>
      rw [loaded] at loading
      refine ⟨.error error, [], journal.disk, ?_, .unloaded loaded⟩
      rw [convert, perform_bind_error loading, goOn, List.append_nil]
  | ok raster =>
      rw [loaded] at loading
      have entered :
          journal.perform
              (liftM (Host.record (loadedRecord config.input raster) :
                StateM Journal Unit)) =
            (.ok (), journal.noted config.input raster) :=
        rfl
      have judging :
          (journal.noted config.input raster).perform
              (ExceptT.mk (pure (spriteOf raster))) =
            (spriteOf raster, journal.noted config.input raster) :=
        rfl
      rw [convert, perform_bind_ok loading, ← loadedRecord,
        perform_bind_ok entered]
      cases accepted : raster.toSprite with
      | error fault =>
          rw [spriteOf, accepted] at judging
          refine ⟨_, _, _, ?_, .refused loaded accepted⟩
          rw [spriteOf, accepted, perform_bind_error judging, noted]
      | ok sprite =>
          rw [spriteOf, accepted] at judging
          rw [spriteOf, accepted, perform_bind_ok judging]
          exact recounted_write loaded accepted

end Journal

end SpritePack
