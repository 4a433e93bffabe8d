import SpritePack.Convert

namespace SpritePack

/-!
# Runs of a conversion

A conversion reads, judges, records and writes, and may end after each of these.
Every part of it is described here by what it gives in a world and what the
world is after it; together they list all the ways in which a conversion ends.
-/

section Sequence

variable
  {σ α β : Type}
  {before middle : σ}
  {action : ExceptT Error (StateM σ) α}

/-- Of two actions, the second starts where the first has ended well. -/
theorem run_bind_of_ok
    {value : α}
    (ran : action.run.run before = (.ok value, middle))
    (next : α → ExceptT Error (StateM σ) β) :
    (action >>= next).run.run before = (next value).run.run middle := by
  change
    (ExceptT.bindCont next (action.run.run before).1).run
      (action.run.run before).2 = _
  rw [ran]
  rfl

/-- Of two actions, the second is not begun when the first has failed. -/
theorem run_bind_of_error
    {error : Error}
    (ran : action.run.run before = (.error error, middle))
    (next : α → ExceptT Error (StateM σ) β) :
    (action >>= next).run.run before = (.error error, middle) := by
  change
    (ExceptT.bindCont next (action.run.run before).1).run
      (action.run.run before).2 = _
  rw [ran]
  rfl

end Sequence

/-- What an action that may fail does in a world: its result, and the world after it. -/
def World.perform
    {α : Type}
    (world : World)
    (action : ExceptT Error (StateM World) α) :
    Except Error α × World :=
  action.run.run world

namespace World

variable {α β : Type}

theorem perform_pure
    (world : World)
    (value : α) :
    world.perform (pure value) = (.ok value, world) :=
  rfl

/-- The second of two actions starts where the first has ended well. -/
theorem perform_bind_ok
    {world middle : World}
    {value : α}
    {action : ExceptT Error (StateM World) α}
    (ran : world.perform action = (.ok value, middle))
    (next : α → ExceptT Error (StateM World) β) :
    world.perform (action >>= next) = middle.perform (next value) :=
  run_bind_of_ok ran next

/-- The second of two actions is not begun when the first has failed. -/
theorem perform_bind_error
    {world middle : World}
    {error : Error}
    {action : ExceptT Error (StateM World) α}
    (ran : world.perform action = (.error error, middle))
    (next : α → ExceptT Error (StateM World) β) :
    world.perform (action >>= next) = (.error error, middle) :=
  run_bind_of_error ran next

/-- Leaving a record lengthens the log and nothing else. -/
theorem perform_record
    (world : World)
    (entry : Log.Record) :
    world.perform (liftM (Host.record entry : StateM World Unit)) =
      (.ok (), { world with log := world.log ++ [entry] }) :=
  rfl

/-- A judgement without effects leaves the world as it is. -/
theorem perform_mk_pure
    (world : World)
    (result : Except Error α) :
    world.perform (ExceptT.mk (pure result)) = (result, world) :=
  rfl

end World

/-- The raster that a disk holds at a path. -/
def Disk.raster?
    (disk : Disk)
    (path : Path) :
    Except Error Raster :=
  match disk.open? path with
  | .error cause => .error (.openImage path cause)
  | .ok node => Raster.ofNode path node

/-- A picture that is not found cannot be opened, or its file gives no raster. -/
theorem Disk.eq_of_raster?_eq_error
    {disk : Disk}
    {path : Path}
    {error : Error}
    (unloaded : disk.raster? path = .error error) :
    (∃ cause, error = .openImage path cause) ∨
      ∃ fault, error = .load path fault := by
  rw [raster?] at unloaded
  split at unloaded
  next cause _ =>
    cases unloaded
    exact .inl ⟨cause, rfl⟩
  next node _ =>
    rw [Raster.ofNode] at unloaded
    split at unloaded
    next =>
      cases unloaded
      exact .inr ⟨.undecodable, rfl⟩
    next content _ =>
      split at unloaded
      next fault _ =>
        cases unloaded
        exact .inr ⟨fault, rfl⟩
      next =>
        cases unloaded

/-- That something is wrong with a picture is no fault of a file to be written. -/
theorem Disk.raster?_ne_writeOutput
    (disk : Disk)
    (path written : Path)
    (cause : FileFault) :
    disk.raster? path ≠ .error (.writeOutput written cause) := by
  intro unloaded
  rcases Disk.eq_of_raster?_eq_error unloaded with ⟨_, same⟩ | ⟨_, same⟩
  · cases same
  · cases same

namespace World

/-- Loading a raster finds what the disk holds, and changes nothing. -/
theorem perform_loadRaster
    (world : World)
    (path : Path) :
    world.perform (loadRaster path) = (world.disk.raster? path, world) := by
  have opened :
      world.perform (liftM (Host.openPath path : StateM World _)) =
        (.ok (world.disk.open? path), world) :=
    rfl
  rw [loadRaster, perform_bind_ok opened, Disk.raster?]
  cases world.disk.open? path <;> rfl

/-- A world in which a file has been written and a record of it left. -/
def wrote
    (world : World)
    (conversion : Option Path)
    (path : Path)
    (place : Location)
    (content : Bytes) :
    World where
  disk :=
    world.disk.put place (.file content)
  log :=
    world.log ++ [⟨conversion, .wroteOutput path content.length⟩]

/-- A world in which a record of a loaded picture has been left. -/
def noted
    (world : World)
    (input : Path)
    (raster : Raster) :
    World where
  disk :=
    world.disk
  log :=
    world.log ++ [{
      conversion := some input
      event :=
        .loadedImage raster.width raster.height raster.bitDepth
          raster.palette.length
    }]

theorem perform_writeOutput_error
    {world : World}
    {path : Path}
    {cause : FileFault}
    (refused : world.disk.target path = .error cause)
    (conversion : Option Path)
    (content : Bytes) :
    world.perform (writeOutput conversion path content) =
      (.error (.writeOutput path cause), world) := by
  have written :
      world.perform (liftM (Host.writeFile path content : StateM World _)) =
        (.ok (.error cause), world) := by
    change (Except.ok (world.writeFile path content).1,
      (world.writeFile path content).2) = _
    rw [writeFile, Disk.write, refused]
  rw [writeOutput, perform_bind_ok written]
  rfl

theorem perform_writeOutput_ok
    {world : World}
    {path : Path}
    {place : Location}
    (led : world.disk.target path = .ok place)
    (conversion : Option Path)
    (content : Bytes) :
    world.perform (writeOutput conversion path content) =
      (.ok (), world.wrote conversion path place content) := by
  have written :
      world.perform (liftM (Host.writeFile path content : StateM World _)) =
        (.ok (.ok ()),
          { world with disk := world.disk.put place (.file content) }) := by
    change (Except.ok (world.writeFile path content).1,
      (world.writeFile path content).2) = _
    rw [writeFile, Disk.write, led]
  rw [writeOutput, perform_bind_ok written]
  rfl

/-- Every way that writing the two files of a sprite can end. -/
inductive Stored
    (world : World)
    (conversion : Option Path)
    (config : Config)
    (sprite : Sprite) :
    Except Error Unit → World → Prop where
  | paletteUnwritten
      {cause : FileFault}
      (unwritten : world.disk.target config.paletteOutput = .error cause) :
      Stored world conversion config sprite
        (.error (.writeOutput config.paletteOutput cause)) world
  | bitmapUnwritten
      {palettePlace : Location}
      {cause : FileFault}
      (paletteLed : world.disk.target config.paletteOutput = .ok palettePlace)
      (unwritten :
        (world.disk.put palettePlace (.file sprite.palette)).target
            config.bitmapOutput =
          .error cause) :
      Stored world conversion config sprite
        (.error (.writeOutput config.bitmapOutput cause))
        (world.wrote conversion config.paletteOutput palettePlace
          sprite.palette)
  | written
      {palettePlace bitmapPlace : Location}
      (paletteLed : world.disk.target config.paletteOutput = .ok palettePlace)
      (bitmapLed :
        (world.disk.put palettePlace (.file sprite.palette)).target
            config.bitmapOutput =
          .ok bitmapPlace) :
      Stored world conversion config sprite (.ok ())
        ((world.wrote conversion config.paletteOutput palettePlace
            sprite.palette).wrote
          conversion config.bitmapOutput bitmapPlace sprite.bitmap)

/-- Writing a sprite ends in one of the ways listed. -/
theorem stored_write
    (world : World)
    (conversion : Option Path)
    (config : Config)
    (sprite : Sprite) :
    world.Stored conversion config sprite
      (world.perform (sprite.write conversion config)).1
      (world.perform (sprite.write conversion config)).2 := by
  rw [Sprite.write]
  cases paletteLed : world.disk.target config.paletteOutput with
  | error cause =>
      rw [perform_bind_error (perform_writeOutput_error paletteLed ..)]
      exact .paletteUnwritten paletteLed
  | ok palettePlace =>
      rw [perform_bind_ok (perform_writeOutput_ok paletteLed ..)]
      cases bitmapLed :
          (world.disk.put palettePlace (.file sprite.palette)).target
            config.bitmapOutput with
      | error cause =>
          rw [perform_writeOutput_error bitmapLed]
          exact .bitmapUnwritten paletteLed bitmapLed
      | ok bitmapPlace =>
          rw [perform_writeOutput_ok bitmapLed]
          exact .written paletteLed bitmapLed

/-- Every way that a conversion can end: its result, and the world that it leaves. -/
inductive Converted
    (world : World)
    (config : Config) :
    Except Error Sprite → World → Prop where
  | unloaded
      {error : Error}
      (unloaded : world.disk.raster? config.input = .error error) :
      Converted world config (.error error) world
  | refused
      {raster : Raster}
      {fault : SpriteFault}
      (loaded : world.disk.raster? config.input = .ok raster)
      (refused : raster.toSprite = .error fault) :
      Converted world config (.error (.sprite fault))
        (world.noted config.input raster)
  | unwritten
      {raster : Raster}
      {sprite : Sprite}
      {error : Error}
      {after : World}
      (loaded : world.disk.raster? config.input = .ok raster)
      (accepted : raster.toSprite = .ok sprite)
      (failed :
        (world.noted config.input raster).Stored (some config.input) config
          sprite (.error error) after) :
      Converted world config (.error error) after
  | written
      {raster : Raster}
      {sprite : Sprite}
      {after : World}
      (loaded : world.disk.raster? config.input = .ok raster)
      (accepted : raster.toSprite = .ok sprite)
      (stored :
        (world.noted config.input raster).Stored (some config.input) config
          sprite (.ok ()) after) :
      Converted world config (.ok sprite) after

/-- A conversion ends in one of the ways listed. -/
theorem converted_convert
    (world : World)
    (config : Config) :
    world.Converted config
      (world.perform (convert config)).1
      (world.perform (convert config)).2 := by
  have loading := world.perform_loadRaster config.input
  rw [convert]
  cases loaded : world.disk.raster? config.input with
  | error error =>
      rw [loaded] at loading
      rw [perform_bind_error loading]
      exact .unloaded loaded
  | ok raster =>
      rw [loaded] at loading
      rw [perform_bind_ok loading, perform_bind_ok (perform_record world _)]
      change
        world.Converted config
          ((world.noted config.input raster).perform _).1
          ((world.noted config.input raster).perform _).2
      cases accepted : raster.toSprite with
      | error fault =>
          have judged :
              (world.noted config.input raster).perform
                  (ExceptT.mk (pure (spriteOf raster))) =
                (.error (.sprite fault), world.noted config.input raster) := by
            rw [perform_mk_pure, spriteOf, accepted]
          rw [perform_bind_error judged]
          exact .refused loaded accepted
      | ok sprite =>
          have judged :
              (world.noted config.input raster).perform
                  (ExceptT.mk (pure (spriteOf raster))) =
                (.ok sprite, world.noted config.input raster) := by
            rw [perform_mk_pure, spriteOf, accepted]
          rw [perform_bind_ok judged]
          have stored :=
            (world.noted config.input raster).stored_write
              (some config.input) config sprite
          cases writing :
              (world.noted config.input raster).perform
                (sprite.write (some config.input) config) with
          | mk result after =>
              rw [writing] at stored
              cases result with
              | error error =>
                  rw [perform_bind_error writing]
                  exact .unwritten loaded accepted stored
              | ok done =>
                  rw [perform_bind_ok writing, perform_pure]
                  exact .written loaded accepted stored

end World

end SpritePack
