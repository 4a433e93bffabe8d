import SpritePack.Proofs.Conversion.Success
import SpritePack.Proofs.Sprite.Picture
import SpritePack.Proofs.Sprite.WellFormed

namespace SpritePack

/-!
# Conversions are repeatable

A conversion that does not write over its picture leaves a disk on which it can
be done again: the picture is where it was, and both outputs lead where they led,
to files that hold what is about to be written.  So every later conversion gives
the same sprite and leaves the disk alone, and so does writing the sprite again.
-/

namespace Disk

/-- That neither output of a configuration leads to the place of its picture. -/
structure SparesInput
    (disk : Disk)
    (config : Config) : Prop where
  palette :
    ∀ place, disk.locate config.input = .ok place →
      disk.locate config.paletteOutput ≠ .ok place
  bitmap :
    ∀ place, disk.locate config.input = .ok place →
      disk.locate config.bitmapOutput ≠ .ok place

/-- That a sprite can be written on a disk, which already holds all of it. -/
structure Keeps
    (disk : Disk)
    (config : Config)
    (sprite : Sprite)
    (palettePlace bitmapPlace : Location) : Prop where
  paletteLed :
    disk.target config.paletteOutput = .ok palettePlace
  bitmapLed :
    (disk.put palettePlace (.file sprite.palette)).target
        config.bitmapOutput =
      .ok bitmapPlace
  rewritten :
    (disk.put palettePlace (.file sprite.palette)).put bitmapPlace
        (.file sprite.bitmap) =
      disk

/-- That a conversion can be done on a disk, where it has been done before. -/
structure Repeats
    (disk : Disk)
    (config : Config)
    (sprite : Sprite) : Prop where
  loaded :
    ∃ raster,
      disk.raster? config.input = .ok raster ∧ raster.toSprite = .ok sprite
  kept :
    ∃ palettePlace bitmapPlace,
      disk.Keeps config sprite palettePlace bitmapPlace

/-- What is put in a place takes the place of what was put there before. -/
theorem put_put_same
    (disk : Disk)
    (place : Location)
    (first second : Node) :
    (disk.put place first).put place second = disk.put place second := by
  simp [put, List.filter_filter]

/-- Putting the same two nodes again, in the same order, changes nothing. -/
theorem put_put_again
    (disk : Disk)
    (firstPlace secondPlace : Location)
    (first second : Node) :
    (((disk.put firstPlace first).put secondPlace second).put firstPlace
        first).put secondPlace second =
      (disk.put firstPlace first).put secondPlace second := by
  by_cases shared : firstPlace = secondPlace
  · subst shared
    simp only [put_put_same]
  · have apart : secondPlace ≠ firstPlace := Ne.symm shared
    simp only [put, List.filter_cons, List.filter_filter, bne_self_eq_false,
      bne_iff_ne, ne_eq, shared, apart, not_false_eq_true, if_true,
      Bool.false_eq_true, if_false]
    congr 3
    apply List.filter_congr
    intro entry _
    cases entry.1 != firstPlace <;> cases entry.1 != secondPlace <;> rfl

/-- A picture is found where it was as long as its own place is not written. -/
theorem raster?_eq_of_sameDirectories
    {before after : Disk}
    (same : before.SameDirectories after)
    {path : Path}
    (unchanged :
      ∀ place, before.locate path = .ok place →
        after.node? place = before.node? place)
    {raster : Raster}
    (loaded : before.raster? path = .ok raster) :
    after.raster? path = .ok raster := by
  cases located : before.locate path with
  | error cause =>
      rw [raster?, open?, located] at loaded
      cases loaded
  | ok place =>
      have opened :=
        open?_eq_of_sameDirectories same located (unchanged place located)
      rw [raster?, opened]
      exact loaded

/-- Once both files of a sprite have been written, its conversion repeats. -/
theorem repeats_of_written
    {disk : Disk}
    {config : Config}
    {raster : Raster}
    {sprite : Sprite}
    {palettePlace bitmapPlace : Location}
    (spares : disk.SparesInput config)
    (loaded : disk.raster? config.input = .ok raster)
    (accepted : raster.toSprite = .ok sprite)
    (paletteLed : disk.target config.paletteOutput = .ok palettePlace)
    (bitmapLed :
      (disk.put palettePlace (.file sprite.palette)).target
          config.bitmapOutput =
        .ok bitmapPlace) :
    ((disk.put palettePlace (.file sprite.palette)).put bitmapPlace
      (.file sprite.bitmap)).Repeats config sprite := by
  obtain ⟨paletteReplaced, samePalette⟩ :=
    replaced_of_target paletteLed sprite.palette
  obtain ⟨bitmapReplaced, sameBitmap⟩ :=
    replaced_of_target bitmapLed sprite.bitmap
  have same := samePalette.trans sameBitmap
  have paletteLedAgain := target_of_sameDirectories same paletteLed
  obtain ⟨_, samePaletteAgain⟩ :=
    replaced_of_target paletteLedAgain sprite.palette
  have bitmapLedAgain :=
    target_of_sameDirectories (sameBitmap.trans samePaletteAgain) bitmapLed
  have paletteLocated := (target_eq_ok_iff.mp paletteLed).2.1
  have bitmapLocated :=
    locate_of_sameDirectories samePalette.symm
      (target_eq_ok_iff.mp bitmapLed).2.1
  refine ⟨⟨raster, ?_, accepted⟩, palettePlace, bitmapPlace, ?_⟩
  · apply raster?_eq_of_sameDirectories same ?_ loaded
    intro place located
    have notPalette : place ≠ palettePlace := by
      rintro rfl
      exact spares.palette place located paletteLocated
    have notBitmap : place ≠ bitmapPlace := by
      rintro rfl
      exact spares.bitmap place located bitmapLocated
    rw [bitmapReplaced.others place notBitmap,
      paletteReplaced.others place notPalette]
  · exact ⟨paletteLedAgain, bitmapLedAgain, put_put_again ..⟩

end Disk

namespace World

variable
  {world : World}
  {config : Config}
  {sprite : Sprite}

/-- Writing a sprite where it is kept ends well, and leaves the disk alone. -/
theorem Stored.eq_of_keeps
    {conversion : Option Path}
    {palettePlace bitmapPlace : Location}
    {result : Except Error Unit}
    {after : World}
    (stored : world.Stored conversion config sprite result after)
    (keeps : world.disk.Keeps config sprite palettePlace bitmapPlace) :
    result = .ok () ∧ after.disk = world.disk := by
  cases stored with
  | paletteUnwritten unwritten =>
      rw [keeps.paletteLed] at unwritten
      cases unwritten
  | bitmapUnwritten paletteLed unwritten =>
      rw [keeps.paletteLed] at paletteLed
      cases paletteLed
      rw [keeps.bitmapLed] at unwritten
      cases unwritten
  | written paletteLed bitmapLed =>
      rw [keeps.paletteLed] at paletteLed
      cases paletteLed
      rw [keeps.bitmapLed] at bitmapLed
      cases bitmapLed
      exact ⟨rfl, keeps.rewritten⟩

/-- Where a conversion repeats, it gives the same sprite and leaves the disk alone. -/
theorem Converted.eq_of_repeats
    {outcome : Except Error Sprite}
    {after : World}
    (converted : world.Converted config outcome after)
    (repeats : world.disk.Repeats config sprite) :
    outcome = .ok sprite ∧ after.disk = world.disk := by
  obtain ⟨⟨raster, loaded, accepted⟩, palettePlace, bitmapPlace, keeps⟩ :=
    repeats
  have notedKeeps :
      (world.noted config.input raster).disk.Keeps config sprite palettePlace
        bitmapPlace :=
    keeps
  cases converted with
  | unloaded unloaded =>
      rw [loaded] at unloaded
      cases unloaded
  | refused found refused =>
      rw [loaded] at found
      cases found
      rw [accepted] at refused
      cases refused
  | unwritten found accepted' failed =>
      rw [loaded] at found
      cases found
      rw [accepted] at accepted'
      cases accepted'
      cases (failed.eq_of_keeps notedKeeps).1
  | written found accepted' stored =>
      rw [loaded] at found
      cases found
      rw [accepted] at accepted'
      cases accepted'
      exact ⟨rfl, (stored.eq_of_keeps notedKeeps).2⟩

/-- A conversion that spares its picture leaves a disk on which it repeats. -/
theorem Converted.repeats
    {after : World}
    (converted : world.Converted config (.ok sprite) after)
    (spares : world.disk.SparesInput config) :
    after.disk.Repeats config sprite := by
  cases converted with
  | written loaded accepted stored =>
      cases stored with
      | written paletteLed bitmapLed =>
          exact
            Disk.repeats_of_written spares loaded accepted paletteLed bitmapLed

/-- The world after a conversion has been done a number of times. -/
def afterConversions
    (config : Config) :
    Nat → World → World
  | 0, world => world
  | times + 1, world =>
      afterConversions config times (world.perform (convert config)).2

/-- Where a conversion repeats, it leaves the disk alone any number of times. -/
theorem disk_afterConversions
    (repeats : world.disk.Repeats config sprite)
    (times : Nat) :
    (world.afterConversions config times).disk = world.disk := by
  induction times generalizing world with
  | zero =>
      rfl
  | succ times inductionHypothesis =>
      have kept := (world.converted_convert config).eq_of_repeats repeats
      rw [← kept.2] at repeats
      rw [afterConversions, inductionHypothesis repeats, kept.2]

end World

/--
A conversion that succeeds without writing over its picture can be done again any
number of times.  Each time it gives the same sprite, and each time the disk is as
the first conversion has left it, as it is if the sprite alone is written again.
-/
theorem convert_repeatable
    {world : World}
    {config : Config}
    {sprite : Sprite}
    (spares : world.disk.SparesInput config)
    (converted : (world.perform (convert config)).1 = .ok sprite) :
    ∀ times,
      let first := (world.perform (convert config)).2
      let later := first.afterConversions config times
      later.disk = first.disk ∧
        (later.perform (convert config)).1 = .ok sprite ∧
        (later.perform (convert config)).2.disk = first.disk ∧
        ∀ conversion,
          (later.perform (sprite.write conversion config)).1 = .ok () ∧
            (later.perform (sprite.write conversion config)).2.disk =
              first.disk := by
  intro times first later
  have ends := world.converted_convert config
  rw [converted] at ends
  have repeats : first.disk.Repeats config sprite := ends.repeats spares
  have sameDisk : later.disk = first.disk :=
    World.disk_afterConversions repeats times
  rw [← sameDisk] at repeats
  obtain ⟨again, unchanged⟩ :=
    (later.converted_convert config).eq_of_repeats repeats
  obtain ⟨_, _, _, keeps⟩ := repeats
  refine ⟨sameDisk, again, unchanged.trans sameDisk, ?_⟩
  intro conversion
  obtain ⟨written, unwritten⟩ :=
    (later.stored_write conversion config sprite).eq_of_keeps keeps
  exact ⟨written, unwritten.trans sameDisk⟩

/-- The configuration that reads the file of one letter, and has one file for both outputs. -/
def Config.sharing : Config where
  input := ⟨[0x61]⟩
  bitmapOutput := ⟨[0x62]⟩
  paletteOutput := ⟨[0x2E, 0x2F, 0x62]⟩

/-- Both outputs may go to one file, which then is the bitmap's after every conversion. -/
theorem convert_repeatable_of_sharing :
    ∃ (world : World) (sprite : Sprite),
      world.disk.SparesInput .sharing ∧
        (world.perform (convert .sharing)).1 = .ok sprite ∧
        (((world.perform (convert .sharing)).2.afterConversions .sharing
            2).perform (convert .sharing)).1 =
          .ok sprite := by
  have accepted :=
    Raster.toSprite_stripes ⟨0, 0, 0⟩ ⟨0xFF, 0x10, 0⟩ ⟨0x12, 0x34, 0x56⟩
  have storable := Sprite.storable_of_toSprite accepted rfl
  let encoding := Png.Encoding.inSmallPieces storable
  let world : World := ⟨.holding encoding.file, []⟩
  have spares : world.disk.SparesInput .sharing := by
    have located :
        world.disk.locate Config.sharing.input = .ok [[0x77], [0x61]] :=
      rfl
    have outputLocated :
        world.disk.locate Config.sharing.bitmapOutput =
          .ok [[0x77], [0x62]] :=
      rfl
    have sameLocated :
        world.disk.locate Config.sharing.paletteOutput =
          .ok [[0x77], [0x62]] :=
      rfl
    constructor
    · intro place led
      rw [located] at led
      cases led
      rw [sameLocated]
      decide
    · intro place led
      rw [located] at led
      cases led
      rw [outputLocated]
      decide
  have converted :
      (world.perform (convert .sharing)).1 = .ok _ :=
    perform_convert_encoding accepted
      (show world.disk.target _ = .ok [[0x77], [0x62]] from rfl)
      (show world.disk.target _ = .ok [[0x77], [0x62]] from rfl)
      storable encoding rfl
  exact
    ⟨world, _, spares, converted, (convert_repeatable spares converted 2).2.1⟩

end SpritePack
