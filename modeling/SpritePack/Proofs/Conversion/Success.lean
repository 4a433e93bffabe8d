import SpritePack.Proofs.Conversion.Effect
import SpritePack.Proofs.Png.RoundTrip

namespace SpritePack

/-!
# Conversions that succeed

Nothing stands in the way of a conversion but what its errors report: a picture
that is found and fits is converted wherever both outputs can be written.
-/

/-- Any file of a raster will do, whatever choices were made in writing it. -/
theorem Disk.raster?_eq_of_encoding
    {disk : Disk}
    {path : Path}
    {raster : Raster}
    (storable : raster.Storable)
    (encoding : Png.Encoding raster)
    (opened : disk.open? path = .ok (.file encoding.file)) :
    disk.raster? path = .ok raster := by
  rw [raster?, opened]
  dsimp only
  rw [Raster.ofNode, contentOf]
  dsimp only
  rw [encoding.load_file storable]

section Success

variable
  {world : World}
  {config : Config}
  {raster : Raster}
  {sprite : Sprite}
  {palettePlace bitmapPlace : Location}
  (accepted : raster.toSprite = .ok sprite)
  (paletteLed : world.disk.target config.paletteOutput = .ok palettePlace)
  (bitmapLed : world.disk.target config.bitmapOutput = .ok bitmapPlace)

include accepted paletteLed bitmapLed

/-- A picture that fits is converted when both outputs lead to a place for a file. -/
theorem perform_convert_eq_ok
    (loaded : world.disk.raster? config.input = .ok raster) :
    (world.perform (convert config)).1 = .ok sprite := by
  have converted := world.converted_convert config
  generalize (world.perform (convert config)).1 = outcome at converted ⊢
  generalize (world.perform (convert config)).2 = after at converted
  cases converted with
  | unloaded unloaded =>
      rw [loaded] at unloaded
      cases unloaded
  | refused found refused =>
      rw [loaded] at found
      cases found
      rw [accepted] at refused
      cases refused
  | unwritten found accepted' failed =>
      rw [loaded] at found
      cases found
      rw [accepted] at accepted'
      cases accepted'
      cases failed with
      | paletteUnwritten unwritten =>
          exact absurd (paletteLed.symm.trans unwritten) (by simp)
      | bitmapUnwritten paletteLed' unwritten =>
          obtain ⟨_, same⟩ :=
            Disk.replaced_of_target paletteLed' sprite.palette
          have led := Disk.target_of_sameDirectories same bitmapLed
          exact absurd (led.symm.trans unwritten) (by simp)
  | written found accepted' _ =>
      rw [loaded] at found
      cases found
      rw [accepted] at accepted'
      cases accepted'
      rfl

theorem perform_convert_encoding
    (storable : raster.Storable)
    (encoding : Png.Encoding raster)
    (opened :
      world.disk.open? config.input = .ok (.file encoding.file)) :
    (world.perform (convert config)).1 = .ok sprite :=
  perform_convert_eq_ok accepted paletteLed bitmapLed
    (Disk.raster?_eq_of_encoding storable encoding opened)

end Success

end SpritePack
