import SpritePack.Program
import SpritePack.Proofs.Conversion.Run
import SpritePack.Proofs.Log.Showing
import SpritePack.Proofs.Program.Configuration

namespace SpritePack

/-!
# What is seen of a run

A run settles its configuration, leaves a record of it, converts, and leaves a
last record if that went well.  What can be seen afterwards is how it ended, what
is on the disk, and what the log shows of the records.
-/

namespace World

/-- A world in which a record of the configuration in use has been left. -/
def configured
    (world : World)
    (config : Config) :
    World where
  disk :=
    world.disk
  log :=
    world.log ++ [⟨none, .usingConfiguration config⟩]

/-- A world in which a record of a finished conversion has been left. -/
def finished
    (world : World)
    (sprite : Sprite) :
    World where
  disk :=
    world.disk
  log :=
    world.log ++
      [⟨none, .convertedSprite sprite.bitmap.length sprite.palette.length⟩]

/-- Every way that the work of a run can end: its result, and the world that it leaves. -/
inductive Worked
    (world : World)
    (arguments : Arguments) :
    Except Error Unit → World → Prop where
  | unsettled
      {error : Error}
      (settling :
        (world.perform (Program.configOf arguments)).1 = .error error) :
      Worked world arguments (.error error) world
  | failed
      {config : Config}
      {error : Error}
      {after : World}
      (settling : (world.perform (Program.configOf arguments)).1 = .ok config)
      (converted : (world.configured config).Converted config (.error error) after) :
      Worked world arguments (.error error) after
  | done
      {config : Config}
      {sprite : Sprite}
      {after : World}
      (settling : (world.perform (Program.configOf arguments)).1 = .ok config)
      (converted : (world.configured config).Converted config (.ok sprite) after) :
      Worked world arguments (.ok ()) (after.finished sprite)

end World

section Records

variable {config : Config}

/-- That a record may come of converting as a configuration says. -/
structure Log.Record.ComesOf
    (config : Config)
    (record : Log.Record) : Prop where
  level_eq : record.event.level = .info
  named_mem :
    ∀ path ∈ record.named,
      path ∈ [config.input, config.bitmapOutput, config.paletteOutput]

/-- That a log has grown only by records that come of converting as a configuration says. -/
def World.Grown
    (config : Config)
    (before after : World) :
    Prop :=
  ∃ later,
    after.log = before.log ++ later ∧ ∀ record ∈ later, record.ComesOf config

namespace World

theorem Grown.refl
    (world : World) :
    Grown config world world :=
  ⟨[], (List.append_nil _).symm, fun _ member => absurd member List.not_mem_nil⟩

theorem Grown.trans
    {before middle after : World}
    (first : Grown config before middle)
    (second : Grown config middle after) :
    Grown config before after := by
  obtain ⟨early, earlyLog, earlyCome⟩ := first
  obtain ⟨late, lateLog, lateCome⟩ := second
  refine ⟨early ++ late, ?_, ?_⟩
  · rw [lateLog, earlyLog, List.append_assoc]
  · intro record member
    rcases List.mem_append.mp member with inEarly | inLate
    · exact earlyCome record inEarly
    · exact lateCome record inLate

theorem grown_of_record
    {before after : World}
    {record : Log.Record}
    (logged : after.log = before.log ++ [record])
    (comes : record.ComesOf config) :
    Grown config before after := by
  refine ⟨[record], logged, ?_⟩
  intro other member
  rw [List.mem_singleton.mp member]
  exact comes

theorem grown_wrote
    (world : World)
    {path : Path}
    (isOutput : path = config.bitmapOutput ∨ path = config.paletteOutput)
    (place : Location)
    (content : Bytes) :
    Grown config world (world.wrote (some config.input) path place content) := by
  refine grown_of_record rfl ⟨rfl, ?_⟩
  intro named member
  simp only [Log.Record.named, Log.Event.named?, Option.toList_some,
    List.singleton_append, List.mem_cons, List.not_mem_nil, or_false] at member
  rcases member with rfl | rfl
  · exact List.mem_cons_self
  · rcases isOutput with rfl | rfl <;> simp

theorem grown_noted
    (world : World)
    (raster : Raster) :
    Grown config world (world.noted config.input raster) := by
  refine grown_of_record rfl ⟨rfl, ?_⟩
  intro named member
  rw [List.mem_singleton.mp member]
  exact List.mem_cons_self

theorem grown_finished
    (world : World)
    (sprite : Sprite) :
    Grown config world (world.finished sprite) :=
  grown_of_record rfl ⟨rfl, fun _ member => absurd member List.not_mem_nil⟩

theorem Stored.grown
    {world after : World}
    {sprite : Sprite}
    {result : Except Error Unit}
    (stored : world.Stored (some config.input) config sprite result after) :
    Grown config world after := by
  cases stored with
  | paletteUnwritten =>
      exact .refl world
  | bitmapUnwritten =>
      exact grown_wrote world (.inr rfl) _ _
  | written =>
      exact (grown_wrote world (.inr rfl) _ _).trans (grown_wrote _ (.inl rfl) _ _)

theorem Converted.grown
    {world after : World}
    {result : Except Error Sprite}
    (converted : world.Converted config result after) :
    Grown config world after := by
  cases converted with
  | unloaded =>
      exact .refl world
  | refused =>
      exact grown_noted world _
  | unwritten _ _ failed =>
      exact (grown_noted world _).trans failed.grown
  | written _ _ stored =>
      exact (grown_noted world _).trans stored.grown

/-- The work of a run leaves nothing in the log, or first of all what it is configured to do. -/
theorem Worked.grown
    {world after : World}
    {arguments : Arguments}
    {result : Except Error Unit}
    (worked : world.Worked arguments result after) :
    match (world.perform (Program.configOf arguments)).1 with
    | .error _ => after.log = world.log
    | .ok config => Grown config (world.configured config) after := by
  cases worked with
  | unsettled settling =>
      rw [settling]
  | failed settling converted =>
      rw [settling]
      exact converted.grown
  | done settling converted =>
      rw [settling]
      exact converted.grown.trans (grown_finished _ _)

end World

end Records

namespace Program

/-- What a run comes to, whatever its log may show. -/
structure Ending where
  outcome : Outcome
  failure : Option Error
  disk : Disk

end Program

end SpritePack
