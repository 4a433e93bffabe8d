import SpritePack.Proofs.Conversion.Effect
import SpritePack.Proofs.Conversion.Journal

namespace SpritePack

/-!
# The account that a conversion gives of itself

A conversion leaves a record of the picture once it is loaded, and a record of
each output once it is written.  So its log tells how far it has come, and every
record is true of the disk at the moment when it is left.
-/

/-- That the last thing done to a disk was to write a file, and that the file is there. -/
structure Disk.JustWritten
    (disk : Disk)
    (path : Path)
    (content : Bytes) : Prop where
  written : ∃ earlier : Disk, earlier.write path content = .ok disk
  opened : disk.open? path = .ok (.file content)

theorem Disk.justWritten_of_write
    {earlier disk : Disk}
    {path : Path}
    {content : Bytes}
    (written : earlier.write path content = .ok disk) :
    disk.JustWritten path content := by
  obtain ⟨place, led, rfl⟩ := Disk.write_eq_ok_iff.mp written
  obtain ⟨replaced, same⟩ := Disk.replaced_of_target led content
  refine ⟨⟨earlier, written⟩, ?_⟩
  exact
    Disk.open?_of_target (Disk.target_of_sameDirectories same led)
      replaced.holds

namespace Journal

/-- That an entry is true at its moment: of the picture found, or of a file just written. -/
inductive Tells
    (before : Disk)
    (config : Config) :
    Log.Record × Disk → Prop
  | loaded
      {raster : Raster}
      (loaded : before.raster? config.input = .ok raster) :
      Tells before config (loadedRecord config.input raster, before)
  | paletteWritten
      {raster : Raster}
      {sprite : Sprite}
      {disk : Disk}
      (loaded : before.raster? config.input = .ok raster)
      (accepted : raster.toSprite = .ok sprite)
      (written : disk.JustWritten config.paletteOutput sprite.palette) :
      Tells before config
        (writtenRecord config.input config.paletteOutput sprite.palette, disk)
  | bitmapWritten
      {raster : Raster}
      {sprite : Sprite}
      {disk : Disk}
      (loaded : before.raster? config.input = .ok raster)
      (accepted : raster.toSprite = .ok sprite)
      (written : disk.JustWritten config.bitmapOutput sprite.bitmap) :
      Tells before config
        (writtenRecord config.input config.bitmapOutput sprite.bitmap, disk)

/-- What the entries of a conversion with a given outcome say of it. -/
structure Account
    (before : Disk)
    (config : Config)
    (outcome : Except Error Sprite)
    (entries : List (Log.Record × Disk)) : Prop where
  inOrder :
    ∃ width height bitDepth colours paletteBytes bitmapBytes,
      entries.map Prod.fst <+: [
        ⟨some config.input, .loadedImage width height bitDepth colours⟩,
        ⟨some config.input, .wroteOutput config.paletteOutput paletteBytes⟩,
        ⟨some config.input, .wroteOutput config.bitmapOutput bitmapBytes⟩]
  truthful :
    ∀ entry ∈ entries, Tells before config entry
  nothing :
    entries.length = 0 ↔
      ∃ error, before.raster? config.input = .error error
  loadedOnly :
    entries.length = 1 ↔
      ∃ raster, before.raster? config.input = .ok raster ∧
        ((∃ fault, raster.toSprite = .error fault) ∨
          ∃ sprite cause, raster.toSprite = .ok sprite ∧
            before.write config.paletteOutput sprite.palette = .error cause)
  paletteOnly :
    entries.length = 2 ↔
      ∃ raster sprite middle cause,
        before.raster? config.input = .ok raster ∧
          raster.toSprite = .ok sprite ∧
          before.write config.paletteOutput sprite.palette = .ok middle ∧
          middle.write config.bitmapOutput sprite.bitmap = .error cause
  everything :
    entries.length = 3 ↔ ∃ sprite, outcome = .ok sprite

/-- However a conversion ends, its entries give an account of it. -/
theorem Recounted.account
    {before after : Disk}
    {config : Config}
    {outcome : Except Error Sprite}
    {entries : List (Log.Record × Disk)}
    (recounted : Recounted before config outcome entries after) :
    Account before config outcome entries := by
  cases recounted with
  | unloaded unloaded =>
      refine ⟨⟨0, 0, 0, 0, 0, 0, List.nil_prefix⟩, ?_, ?_, ?_, ?_, ?_⟩
      · exact fun _ member => absurd member List.not_mem_nil
      all_goals simp [unloaded]
  | refused loaded refused =>
      refine ⟨⟨_, _, _, _, 0, 0, ⟨_, rfl⟩⟩, ?_, ?_, ?_, ?_, ?_⟩
      · exact List.forall_mem_singleton.mpr (.loaded loaded)
      all_goals simp [loaded, refused]
  | paletteUnwritten loaded accepted unwritten =>
      refine ⟨⟨_, _, _, _, 0, 0, ⟨_, rfl⟩⟩, ?_, ?_, ?_, ?_, ?_⟩
      · exact List.forall_mem_singleton.mpr (.loaded loaded)
      all_goals simp [loaded, accepted, unwritten]
  | bitmapUnwritten loaded accepted paletteWritten unwritten =>
      have palette := Disk.justWritten_of_write paletteWritten
      refine ⟨⟨_, _, _, _, _, 0, ⟨_, rfl⟩⟩, ?_, ?_, ?_, ?_, ?_⟩
      · simp only [List.forall_mem_cons]
        exact
          ⟨.loaded loaded, .paletteWritten loaded accepted palette,
            fun _ member => absurd member List.not_mem_nil⟩
      all_goals simp [loaded, accepted, paletteWritten, unwritten]
  | written loaded accepted paletteWritten bitmapWritten =>
      have palette := Disk.justWritten_of_write paletteWritten
      have bitmap := Disk.justWritten_of_write bitmapWritten
      refine ⟨⟨_, _, _, _, _, _, ⟨[], rfl⟩⟩, ?_, ?_, ?_, ?_, ?_⟩
      · simp only [List.forall_mem_cons]
        exact
          ⟨.loaded loaded, .paletteWritten loaded accepted palette,
            .bitmapWritten loaded accepted bitmap,
            fun _ member => absurd member List.not_mem_nil⟩
      all_goals simp [loaded, accepted, paletteWritten, bitmapWritten]

end Journal

/--
Whatever the disk and the three paths are, the records of a conversion say how
far it has come and are true when they are left.  A journal sees the conversion
that its world sees, and keeps all that it held before.
-/
theorem convert_account
    (journal : Journal)
    (config : Config) :
    (∃ entries,
      (journal.perform (convert config)).2.entries =
        journal.entries ++ entries ∧
      Journal.Account journal.disk config
        (journal.perform (convert config)).1 entries) ∧
    journal.world.perform (convert config) =
      ((journal.perform (convert config)).1,
        (journal.perform (convert config)).2.world) := by
  obtain ⟨result, entries, after, ran, recounted⟩ :=
    journal.recounted_convert config
  refine ⟨⟨entries, ?_, ?_⟩, Journal.mirrors_convert config journal⟩
  · rw [ran, Journal.goOn]
  · rw [ran]
    exact recounted.account

end SpritePack
