import Mathlib.Data.List.Nodup
import SpritePack.Proofs.CommandLine.Reading

namespace SpritePack

/-!
# What a command line means

The order and the forms of what a command line gives say nothing, but for one
thing: when a picture and a settings file are given together, the complaint
names the first one first.
-/

namespace CommandLine

section Values

variable
  {arguments : Arguments}
  {given : List Given}
  (listed : arguments.Listed given)

include listed

/-- Looking a parameter up finds its value, wherever it stands. -/
theorem lookup_eq_value?
    (parameter : Parameter) :
    given.lookup parameter = arguments.value? parameter := by
  cases found : given.lookup parameter with
  | some value =>
      rcases List.lookup_eq_some_iff.mp found with ⟨before, behind, rfl, _⟩
      have member :
          (parameter, value) ∈ before ++ (parameter, value) :: behind :=
        List.mem_append_right _ List.mem_cons_self
      exact ((listed.mem_iff parameter value).mp member).symm
  | none =>
      cases valued : arguments.value? parameter with
      | none =>
          rfl
      | some value =>
          have member := (listed.mem_iff parameter value).mpr valued
          have different := List.lookup_eq_none_iff.mp found _ member
          rw [bne_self_eq_false] at different
          cases different

theorem mem_keys_iff
    (parameter : Parameter) :
    parameter ∈ given.map Prod.fst ↔ arguments.value? parameter ≠ none := by
  constructor
  · intro member
    rcases List.mem_map.mp member with ⟨⟨_, value⟩, entryMember, rfl⟩
    rw [(listed.mem_iff _ value).mp entryMember]
    exact Option.some_ne_none value
  · intro valued
    rcases Option.ne_none_iff_exists'.mp valued with ⟨value, valueIs⟩
    have member := (listed.mem_iff parameter value).mpr valueIs
    exact List.mem_map_of_mem member

/-- A reader that has judged all of a line has the arguments of the line. -/
theorem arguments_settled
    (progress : Progress) :
    (progress.settled given).arguments = arguments := by
  have sameValue (parameter : Parameter) :
      (progress.settled given).value? parameter =
        (arguments.value? parameter).map Path.mk :=
    congrArg (Option.map Path.mk) (lookup_eq_value? listed parameter)
  have samePath (path : Option Path) :
      (path.map Path.bytes).map Path.mk = path := by
    cases path <;> rfl
  have sameVerbose :
      (progress.settled given).has .verbose = arguments.verbose := by
    rw [Bool.eq_iff_iff, Progress.has_iff]
    apply (mem_keys_iff listed .verbose).trans
    cases spoken : arguments.verbose <;> simp [Arguments.value?, spoken]
  rw [Progress.arguments, sameValue, sameValue, sameValue, sameValue,
    sameVerbose]
  simp only [Arguments.value?, samePath]

end Values

section Conflicts

variable
  (progress : Progress)
  (distinct : (progress.given.map Prod.fst).Nodup)

include distinct

/-- There is no conflict unless both the picture and a settings file are given. -/
theorem conflict?_eq_none
    (apart :
      .input ∉ progress.given.map Prod.fst ∨
        .config ∉ progress.given.map Prod.fst) :
    progress.conflict? = none := by
  unfold Progress.conflict?
  split
  next first second others shape =>
    have exclusive :
        ∀ parameter ∈ first :: second :: others,
          parameter ∈ progress.given.map Prod.fst ∧
            (parameter = .input ∨ parameter = .config) := by
      intro parameter member
      rw [← shape, List.mem_filter, Bool.or_eq_true, beq_iff_eq,
        beq_iff_eq] at member
      exact member
    have different : first ≠ second := by
      have filtered :=
        distinct.filter fun parameter =>
          parameter == .input || parameter == .config
      rw [shape] at filtered
      rintro rfl
      exact (List.nodup_cons.mp filtered).1 List.mem_cons_self
    obtain ⟨firstMember, firstIs⟩ := exclusive first List.mem_cons_self
    obtain ⟨secondMember, secondIs⟩ :=
      exclusive second (List.mem_cons_of_mem _ List.mem_cons_self)
    rcases firstIs with rfl | rfl
    · rcases secondIs with rfl | rfl
      · exact (different rfl).elim
      · exact (apart.elim (· firstMember) (· secondMember)).elim
    · rcases secondIs with rfl | rfl
      · exact (apart.elim (· secondMember) (· firstMember)).elim
      · exact (different rfl).elim
  next =>
    rfl

/-- If both are given, the conflict names them in their order. -/
theorem exists_conflict?_eq_some
    (inputMember : .input ∈ progress.given.map Prod.fst)
    (configMember : .config ∈ progress.given.map Prod.fst) :
    ∃ first second,
      [first, second].Perm [.input, .config] ∧
        [first, second].Sublist (progress.given.map Prod.fst) ∧
          progress.conflict? = some (.conflict first second) := by
  have perm :
      ((progress.given.map Prod.fst).filter
        (fun parameter => parameter == .input || parameter == .config)).Perm
          [.input, .config] := by
    apply (List.perm_ext_iff_of_nodup (distinct.filter _) (by decide)).mpr
    intro parameter
    rw [List.mem_filter, Bool.or_eq_true, beq_iff_eq, beq_iff_eq,
      List.mem_pair]
    constructor
    · exact fun member => member.2
    · rintro (rfl | rfl)
      · exact ⟨inputMember, .inl rfl⟩
      · exact ⟨configMember, .inr rfl⟩
  obtain ⟨first, second, shape⟩ := List.length_eq_two.mp perm.length_eq
  refine ⟨first, second, shape ▸ perm, shape ▸ List.filter_sublist, ?_⟩
  rw [Progress.conflict?, shape]

end Conflicts

/-- A line is judged as a whole once all that it gives has been gathered. -/
theorem exists_read_eq
    {given : List Given}
    {line : List Bytes}
    (spells : SpellsLine given line)
    (distinct : (given.map Prod.fst).Nodup)
    (suits : ∀ entry ∈ given, Suits entry.1 entry.2) :
    ∃ progress : Progress,
      read line =
        match (progress.settled given).conflict? with
        | some fault => .error fault
        | none => .ok (.run (progress.settled given).arguments) := by
  have started : ({} : Progress).Gathered [] :=
    ⟨.judged, nofun⟩
  rcases
    Progress.exists_gathered_of_spellsLine spells started rfl distinct suits with
    ⟨progress, taken, gathered⟩
  have finished :
      progress.finish =
        match (progress.settled given).conflict? with
        | some fault => .error (.fault fault)
        | none => .ok (progress.settled given).arguments := by
    rw [Progress.finish, Progress.settle_eq_ok gathered.settles]
    rfl
  have whole :
      (do (← ({} : Progress).takeAll line).finish) = progress.finish := by
    rw [taken]
    rfl
  refine ⟨progress, ?_⟩
  rw [read, whole, finished]
  cases (progress.settled given).conflict? <;> rfl

section Lines

variable
  {arguments : Arguments}
  {given : List Given}
  {line : List Bytes}
  (listed : arguments.Listed given)
  (suits : ∀ entry ∈ given, Suits entry.1 entry.2)
  (spells : SpellsLine given line)

include listed suits spells

/-- Any form of a line, in any order, is read as its arguments. -/
theorem read_eq_ok_of_apart
    (apart : arguments.input = none ∨ arguments.config = none) :
    read line = .ok (.run arguments) := by
  rcases exists_read_eq spells listed.distinct suits with ⟨progress, result⟩
  have absent :
      .input ∉ given.map Prod.fst ∨ .config ∉ given.map Prod.fst := by
    rcases apart with noInput | noConfig
    · refine .inl fun member => (mem_keys_iff listed .input).mp member ?_
      exact congrArg (Option.map Path.bytes) noInput
    · refine .inr fun member => (mem_keys_iff listed .config).mp member ?_
      exact congrArg (Option.map Path.bytes) noConfig
  have noConflict : (progress.settled given).conflict? = none :=
    conflict?_eq_none (progress.settled given) listed.distinct absent
  rw [result, noConflict]
  exact congrArg (Except.ok ∘ Request.run) (arguments_settled listed progress)

/-- A line with a picture and a settings file is refused, the first of them named first. -/
theorem exists_read_eq_conflict
    (inputGiven : arguments.input ≠ none)
    (configGiven : arguments.config ≠ none) :
    ∃ first second,
      [first, second].Perm [.input, .config] ∧
        [first, second].Sublist (given.map Prod.fst) ∧
          read line = .error (.conflict first second) := by
  rcases exists_read_eq spells listed.distinct suits with ⟨progress, result⟩
  have inputMember : .input ∈ given.map Prod.fst :=
    (mem_keys_iff listed .input).mpr fun missing =>
      inputGiven (Option.map_eq_none_iff.mp missing)
  have configMember : .config ∈ given.map Prod.fst :=
    (mem_keys_iff listed .config).mpr fun missing =>
      configGiven (Option.map_eq_none_iff.mp missing)
  have exclusive :=
    exists_conflict?_eq_some (progress.settled given) listed.distinct
      inputMember configMember
  rcases exclusive with ⟨first, second, perm, order, conflict⟩
  refine ⟨first, second, perm, order, ?_⟩
  rw [result, conflict]

end Lines

end CommandLine

end SpritePack
