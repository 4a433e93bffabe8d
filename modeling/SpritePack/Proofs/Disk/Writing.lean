import SpritePack.Disk

namespace SpritePack

/-!
# Writing to a disk

A write puts a file in one place and leaves all others as they are.  Paths are
followed through directories alone, and a write neither makes nor removes one,
so every path that leads to a place before a write leads there after it,
whatever dots and steps back it has.
-/

namespace Disk

/-- That one disk differs from another by the file in one place alone. -/
structure Replaced
    (before after : Disk)
    (place : Location)
    (content : Bytes) : Prop where
  holds :
    after.node? place = some (.file content)
  others :
    ∀ other, other ≠ place → after.node? other = before.node? other
  workingDirectory_eq :
    after.workingDirectory = before.workingDirectory

theorem node?_put_self
    {disk : Disk}
    {place : Location}
    {node : Node}
    (notRoot : place ≠ []) :
    (disk.put place node).node? place = some node := by
  rw [node?, if_neg notRoot, put, List.lookup_cons_self]

theorem lookup_filter_ne
    {place other : Location}
    (different : other ≠ place)
    (nodes : List (Location × Node)) :
    (nodes.filter fun entry => entry.1 != place).lookup other =
      nodes.lookup other := by
  induction nodes with
  | nil =>
      rfl
  | cons entry rest inductionHypothesis =>
      obtain ⟨key, node⟩ := entry
      by_cases atPlace : key = place
      · subst key
        have otherKey : (other == place) = false :=
          beq_false_of_ne different
        rw [List.filter_cons_of_neg (by simp), List.lookup_cons, otherKey,
          inductionHypothesis]
      · rw [List.filter_cons_of_pos (by simp [atPlace]), List.lookup_cons,
          List.lookup_cons, inductionHypothesis]

theorem node?_put_other
    {disk : Disk}
    {place other : Location}
    {node : Node}
    (different : other ≠ place) :
    (disk.put place node).node? other = disk.node? other := by
  have otherKey : (other == place) = false :=
    beq_false_of_ne different
  simp only [node?, put, List.lookup_cons, otherKey,
    lookup_filter_ne different]

/-- A place that holds no directory is not the root. -/
theorem ne_root_of_not_directory
    {disk : Disk}
    {place : Location}
    (notDirectory : disk.node? place ≠ some .directory) :
    place ≠ [] := by
  rintro rfl
  exact notDirectory rfl

theorem replaced_put
    {disk : Disk}
    {place : Location}
    {content : Bytes}
    (notDirectory : disk.node? place ≠ some .directory) :
    disk.Replaced (disk.put place (.file content)) place content where
  holds :=
    node?_put_self (ne_root_of_not_directory notDirectory)
  others _ different :=
    node?_put_other different
  workingDirectory_eq :=
    rfl

/-- That two disks have the same directories, so that paths lead the same ways. -/
structure SameDirectories
    (before after : Disk) : Prop where
  directory_iff :
    ∀ place,
      before.node? place = some .directory ↔
        after.node? place = some .directory
  workingDirectory_eq :
    after.workingDirectory = before.workingDirectory

namespace SameDirectories

variable {before middle after : Disk}

theorem symm
    (same : before.SameDirectories after) :
    after.SameDirectories before where
  directory_iff place :=
    (same.directory_iff place).symm
  workingDirectory_eq :=
    same.workingDirectory_eq.symm

theorem trans
    (first : before.SameDirectories middle)
    (second : middle.SameDirectories after) :
    before.SameDirectories after where
  directory_iff place :=
    (first.directory_iff place).trans (second.directory_iff place)
  workingDirectory_eq :=
    second.workingDirectory_eq.trans first.workingDirectory_eq

end SameDirectories

/-- Replacing a file keeps the directories. -/
theorem Replaced.sameDirectories
    {before after : Disk}
    {place : Location}
    {content : Bytes}
    (replaced : before.Replaced after place content)
    (notDirectory : before.node? place ≠ some .directory) :
    before.SameDirectories after where
  directory_iff other := by
    by_cases atPlace : other = place
    · subst other
      rw [replaced.holds]
      constructor
      · intro isDirectory
        exact (notDirectory isDirectory).elim
      · intro isFile
        cases isFile
    · rw [replaced.others other atPlace]
  workingDirectory_eq :=
    replaced.workingDirectory_eq

section SamePaths

variable {before after : Disk}

/--
Following names ends in the same place on disks with the same directories, by
induction on the names: each step needs a directory and nothing else of the disk.
-/
theorem follow_of_sameDirectories
    (same : before.SameDirectories after)
    {start place : Location}
    {names : List Bytes}
    (led : before.follow start names = .ok place) :
    after.follow start names = .ok place := by
  induction names generalizing start with
  | nil =>
      exact led
  | cons name rest inductionHypothesis =>
      rw [follow] at led ⊢
      cases here : before.node? start with
      | none =>
          rw [here] at led
          cases led
      | some node =>
          cases node with
          | file content =>
              rw [here] at led
              cases led
          | directory =>
              rw [here] at led
              rw [(same.directory_iff start).mp here]
              dsimp only at led ⊢
              split at led
              next stepsBack =>
                rw [if_pos stepsBack]
                exact inductionHypothesis led
              next stepsOn =>
                rw [if_neg stepsOn]
                split at led
                next tooLong =>
                  cases led
                next short =>
                  rw [if_neg short]
                  exact inductionHypothesis led

theorem locate_of_sameDirectories
    (same : before.SameDirectories after)
    {path : Path}
    {place : Location}
    (led : before.locate path = .ok place) :
    after.locate path = .ok place := by
  rw [locate] at led ⊢
  cases fault : pathFault? path with
  | some cause =>
      rw [fault] at led
      cases led
  | none =>
      rw [fault] at led
      have sameStart : after.startOf path = before.startOf path := by
        rw [startOf, startOf, same.workingDirectory_eq]
      rw [sameStart]
      exact follow_of_sameDirectories same led

end SamePaths

/-- A file may be written where a path ends plainly and leads to no directory. -/
theorem target_eq_ok_iff
    {disk : Disk}
    {path : Path}
    {place : Location} :
    disk.target path = .ok place ↔
      path.ending = .plain ∧
        disk.locate path = .ok place ∧
        disk.node? place ≠ some .directory := by
  rw [target]
  cases pathEnding : path.ending with
  | slash =>
      rw [if_pos rfl]
      cases disk.locateParent path with
      | error cause =>
          simp
      | ok parent =>
          simp
  | plain =>
      rw [if_neg (by decide)]
      cases disk.locate path with
      | error cause =>
          simp
      | ok found =>
          dsimp only
          cases there : disk.node? found with
          | none =>
              simp only [Except.ok.injEq, true_and]
              constructor
              · rintro rfl
                exact ⟨rfl, by rw [there]; simp⟩
              · exact And.left
          | some node =>
              cases node with
              | file content =>
                  simp only [Except.ok.injEq, true_and]
                  constructor
                  · rintro rfl
                    exact ⟨rfl, by rw [there]; simp⟩
                  · exact And.left
              | directory =>
                  simp only [reduceCtorEq, Except.ok.injEq, true_and,
                    false_iff, not_and]
                  rintro rfl
                  exact not_not_intro there
  | dots =>
      rw [if_neg (by decide)]
      cases disk.locate path with
      | error cause =>
          simp
      | ok found =>
          dsimp only
          cases disk.node? found with
          | none =>
              simp
          | some node =>
              cases node <;> simp

/-- A path leads to the same file to be written on disks with the same directories. -/
theorem target_of_sameDirectories
    {before after : Disk}
    (same : before.SameDirectories after)
    {path : Path}
    {place : Location}
    (led : before.target path = .ok place) :
    after.target path = .ok place := by
  obtain ⟨plain, located, notDirectory⟩ := target_eq_ok_iff.mp led
  apply target_eq_ok_iff.mpr
  refine ⟨plain, locate_of_sameDirectories same located, ?_⟩
  intro isDirectory
  exact notDirectory ((same.directory_iff place).mpr isDirectory)

/-- The file in the place that a written path leads to is what the path opens. -/
theorem open?_of_target
    {disk : Disk}
    {path : Path}
    {place : Location}
    {content : Bytes}
    (led : disk.target path = .ok place)
    (holds : disk.node? place = some (.file content)) :
    disk.open? path = .ok (.file content) := by
  obtain ⟨plain, located, _⟩ := target_eq_ok_iff.mp led
  simp only [open?, located, holds, plain, if_true]

/-- A path that leads to a place with the same node on both disks opens the same. -/
theorem open?_eq_of_sameDirectories
    {before after : Disk}
    (same : before.SameDirectories after)
    {path : Path}
    {place : Location}
    (led : before.locate path = .ok place)
    (unchanged : after.node? place = before.node? place) :
    after.open? path = before.open? path := by
  rw [open?, open?, led, locate_of_sameDirectories same led]
  dsimp only
  rw [unchanged]

/-- A successful write replaces the file that its path leads to. -/
theorem write_eq_ok_iff
    {disk after : Disk}
    {path : Path}
    {content : Bytes} :
    disk.write path content = .ok after ↔
      ∃ place,
        disk.target path = .ok place ∧
          after = disk.put place (.file content) := by
  rw [write]
  cases disk.target path with
  | error cause =>
      simp
  | ok place =>
      simp only [Except.ok.injEq, exists_eq_left', eq_comm]

end Disk

end SpritePack
