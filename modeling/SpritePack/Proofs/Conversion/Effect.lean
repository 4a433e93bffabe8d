import SpritePack.Proofs.Conversion.Run
import SpritePack.Proofs.Disk.Writing

namespace SpritePack

/-!
# The effect of a conversion on the disk

A conversion that fails before it writes leaves the disk alone.  If it cannot
write the palette it has written nothing, and if it cannot write the bitmap it
has written the palette and no more.  A conversion that succeeds has replaced
the files that its two output paths lead to, which may be one and the same, and
no other file.
-/

namespace Disk

/-- That the two files of a sprite, and they alone, have been put in their places. -/
structure SpriteWritten
    (before after : Disk)
    (config : Config)
    (sprite : Sprite)
    (palettePlace bitmapPlace : Location) : Prop where
  paletteLed :
    before.target config.paletteOutput = .ok palettePlace
  bitmapLed :
    before.target config.bitmapOutput = .ok bitmapPlace
  bitmapOpened :
    after.open? config.bitmapOutput = .ok (.file sprite.bitmap)
  paletteOpened :
    palettePlace ≠ bitmapPlace →
    after.open? config.paletteOutput = .ok (.file sprite.palette)
  sharedOpened :
    palettePlace = bitmapPlace →
    after.open? config.paletteOutput = .ok (.file sprite.bitmap)
  others :
    ∀ place, place ≠ palettePlace → place ≠ bitmapPlace →
      after.node? place = before.node? place
  othersOpened :
    ∀ path place, before.locate path = .ok place →
      place ≠ palettePlace → place ≠ bitmapPlace →
      after.open? path = before.open? path
  workingDirectory_eq :
    after.workingDirectory = before.workingDirectory

/-- That only the palette of a sprite has been put in its place, and is found there. -/
structure PaletteWritten
    (before after : Disk)
    (config : Config)
    (sprite : Sprite) : Prop where
  replaced :
    ∃ place,
      before.target config.paletteOutput = .ok place ∧
        before.Replaced after place sprite.palette
  opened :
    after.open? config.paletteOutput = .ok (.file sprite.palette)

/-- What a conversion with a given outcome has done to the disk. -/
structure ConversionEffect
    (config : Config)
    (before after : Disk)
    (outcome : Except Error Sprite) : Prop where
  failedEarly :
    ∀ error, outcome = .error error →
      (∀ path cause, error ≠ .writeOutput path cause) →
      after = before
  unwritten :
    ∀ path cause, outcome = .error (.writeOutput path cause) →
      path = config.paletteOutput ∧
          before.target config.paletteOutput = .error cause ∧
          after = before ∨
        path = config.bitmapOutput ∧
          after.target config.bitmapOutput = .error cause ∧
          ∃ raster sprite,
            before.raster? config.input = .ok raster ∧
              raster.toSprite = .ok sprite ∧
              before.PaletteWritten after config sprite
  written :
    ∀ sprite, outcome = .ok sprite →
      ∃ raster palettePlace bitmapPlace,
        before.raster? config.input = .ok raster ∧
          raster.toSprite = .ok sprite ∧
          before.SpriteWritten after config sprite palettePlace bitmapPlace

/-- Putting a file where a path leads replaces that file, and keeps all directories. -/
theorem replaced_of_target
    {disk : Disk}
    {path : Path}
    {place : Location}
    (led : disk.target path = .ok place)
    (content : Bytes) :
    disk.Replaced (disk.put place (.file content)) place content ∧
      disk.SameDirectories (disk.put place (.file content)) := by
  obtain ⟨_, _, notDirectory⟩ := target_eq_ok_iff.mp led
  have replaced : disk.Replaced (disk.put place (.file content)) place content :=
    replaced_put notDirectory
  exact ⟨replaced, replaced.sameDirectories notDirectory⟩

theorem paletteWritten_of_target
    {disk : Disk}
    {config : Config}
    {sprite : Sprite}
    {place : Location}
    (led : disk.target config.paletteOutput = .ok place) :
    disk.PaletteWritten (disk.put place (.file sprite.palette)) config
      sprite := by
  obtain ⟨replaced, same⟩ := replaced_of_target led sprite.palette
  refine ⟨⟨place, led, replaced⟩, ?_⟩
  exact open?_of_target (target_of_sameDirectories same led) replaced.holds

/--
The bitmap's path leads to the same place before and after the palette is
written, so the two writes replace the two files that the paths name.
-/
theorem spriteWritten_of_targets
    {disk : Disk}
    {config : Config}
    {sprite : Sprite}
    {palettePlace bitmapPlace : Location}
    (paletteLed : disk.target config.paletteOutput = .ok palettePlace)
    (bitmapLed :
      (disk.put palettePlace (.file sprite.palette)).target
          config.bitmapOutput =
        .ok bitmapPlace) :
    disk.SpriteWritten
      ((disk.put palettePlace (.file sprite.palette)).put bitmapPlace
        (.file sprite.bitmap))
      config sprite palettePlace bitmapPlace := by
  obtain ⟨paletteReplaced, samePalette⟩ :=
    replaced_of_target paletteLed sprite.palette
  obtain ⟨bitmapReplaced, sameBitmap⟩ :=
    replaced_of_target bitmapLed sprite.bitmap
  have same := samePalette.trans sameBitmap
  have paletteLedAfter := target_of_sameDirectories same paletteLed
  have bitmapLedAfter := target_of_sameDirectories sameBitmap bitmapLed
  have unchanged :
      ∀ place, place ≠ palettePlace → place ≠ bitmapPlace →
        ((disk.put palettePlace (.file sprite.palette)).put bitmapPlace
            (.file sprite.bitmap)).node? place =
          disk.node? place := by
    intro place notPalette notBitmap
    rw [bitmapReplaced.others place notBitmap,
      paletteReplaced.others place notPalette]
  refine {
    paletteLed := paletteLed
    bitmapLed := target_of_sameDirectories samePalette.symm bitmapLed
    bitmapOpened := open?_of_target bitmapLedAfter bitmapReplaced.holds
    paletteOpened := ?_
    sharedOpened := ?_
    others := unchanged
    othersOpened := ?_
    workingDirectory_eq := same.workingDirectory_eq
  }
  · intro apart
    apply open?_of_target paletteLedAfter
    rw [bitmapReplaced.others palettePlace apart]
    exact paletteReplaced.holds
  · rintro rfl
    exact open?_of_target paletteLedAfter bitmapReplaced.holds
  · intro path place located notPalette notBitmap
    exact open?_eq_of_sameDirectories same located
      (unchanged place notPalette notBitmap)

section Outcomes

variable
  {config : Config}
  {disk : Disk}

theorem conversionEffect_of_unchanged
    {error : Error}
    (early : ∀ path cause, error ≠ .writeOutput path cause) :
    ConversionEffect config disk disk (.error error) where
  failedEarly _ _ _ :=
    rfl
  unwritten path cause failed := by
    cases failed
    exact (early path cause rfl).elim
  written _ succeeded := by
    cases succeeded

theorem conversionEffect_of_paletteUnwritten
    {cause : FileFault}
    (unwritten : disk.target config.paletteOutput = .error cause) :
    ConversionEffect config disk disk
      (.error (.writeOutput config.paletteOutput cause)) where
  failedEarly _ _ _ :=
    rfl
  unwritten _ _ failed := by
    cases failed
    exact .inl ⟨rfl, unwritten, rfl⟩
  written _ succeeded := by
    cases succeeded

variable
  {raster : Raster}
  {sprite : Sprite}
  {palettePlace : Location}
  (loaded : disk.raster? config.input = .ok raster)
  (accepted : raster.toSprite = .ok sprite)
  (paletteLed : disk.target config.paletteOutput = .ok palettePlace)

include loaded accepted paletteLed

theorem conversionEffect_of_bitmapUnwritten
    {cause : FileFault}
    (unwritten :
      (disk.put palettePlace (.file sprite.palette)).target
          config.bitmapOutput =
        .error cause) :
    ConversionEffect config disk
      (disk.put palettePlace (.file sprite.palette))
      (.error (.writeOutput config.bitmapOutput cause)) where
  failedEarly error failed early := by
    cases failed
    exact (early _ _ rfl).elim
  unwritten _ _ failed := by
    cases failed
    exact .inr ⟨rfl, unwritten, raster, sprite, loaded, accepted,
      paletteWritten_of_target paletteLed⟩
  written _ succeeded := by
    cases succeeded

theorem conversionEffect_of_written
    {bitmapPlace : Location}
    (bitmapLed :
      (disk.put palettePlace (.file sprite.palette)).target
          config.bitmapOutput =
        .ok bitmapPlace) :
    ConversionEffect config disk
      ((disk.put palettePlace (.file sprite.palette)).put bitmapPlace
        (.file sprite.bitmap))
      (.ok sprite) where
  failedEarly _ failed := by
    cases failed
  unwritten _ _ failed := by
    cases failed
  written _ succeeded := by
    cases succeeded
    exact ⟨raster, palettePlace, bitmapPlace, loaded, accepted,
      spriteWritten_of_targets paletteLed bitmapLed⟩

end Outcomes

end Disk

/--
Whatever the disk and the three paths are, a conversion does to the disk what
its outcome says, and nothing else.
-/
theorem convert_effect
    (world : World)
    (config : Config) :
    Disk.ConversionEffect config world.disk
      (world.perform (convert config)).2.disk
      (world.perform (convert config)).1 := by
  have converted := world.converted_convert config
  generalize (world.perform (convert config)).1 = outcome at converted ⊢
  generalize (world.perform (convert config)).2 = after at converted ⊢
  cases converted with
  | @unloaded error unloaded =>
      apply Disk.conversionEffect_of_unchanged
      rintro path cause rfl
      exact world.disk.raster?_ne_writeOutput _ _ _ unloaded
  | refused =>
      apply Disk.conversionEffect_of_unchanged
      intro path cause written
      cases written
  | unwritten loaded accepted failed =>
      cases failed with
      | paletteUnwritten unwritten =>
          exact Disk.conversionEffect_of_paletteUnwritten unwritten
      | bitmapUnwritten paletteLed unwritten =>
          exact
            Disk.conversionEffect_of_bitmapUnwritten loaded accepted
              paletteLed unwritten
  | written loaded accepted stored =>
      cases stored with
      | written paletteLed bitmapLed =>
          exact
            Disk.conversionEffect_of_written loaded accepted paletteLed
              bitmapLed

end SpritePack
