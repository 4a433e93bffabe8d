import SpritePack.Path.Name

namespace SpritePack.Path

/-!
# The last name of a path

The names along a path are those along its parts, wherever it is cut at a slash.
So what is written behind a path changes its last name only if it names
something, and what is written before it never does.
-/

theorem pieces_ne_nil
    (bytes : Bytes) :
    pieces bytes ≠ [] := by
  cases bytes with
  | nil =>
      exact List.cons_ne_nil _ _
  | cons byte rest =>
      rw [pieces]
      split
      next => exact List.cons_ne_nil _ _
      next => split <;> exact List.cons_ne_nil _ _

/-- A path is cut into pieces on both sides of any slash. -/
theorem pieces_append_slash
    (before after : Bytes) :
    pieces (before ++ slash :: after) = pieces before ++ pieces after := by
  induction before with
  | nil =>
      rw [List.nil_append, pieces.eq_2, if_pos rfl, pieces.eq_1]
      rfl
  | cons byte before inductionHypothesis =>
      rw [List.cons_append, pieces, pieces, inductionHypothesis]
      by_cases isSlash : byte = slash
      · rw [if_pos isSlash, if_pos isSlash, List.cons_append]
      · rw [if_neg isSlash, if_neg isSlash]
        cases shape : pieces before with
        | nil =>
            exact absurd shape (pieces_ne_nil before)
        | cons piece others =>
            rfl

theorem pieces_of_slash_notMem
    {bytes : Bytes}
    (absent : slash ∉ bytes) :
    pieces bytes = [bytes] := by
  induction bytes with
  | nil =>
      rfl
  | cons byte rest inductionHypothesis =>
      rw [List.mem_cons, not_or] at absent
      rw [pieces, if_neg (Ne.symm absent.1), inductionHypothesis absent.2]

theorem slash_notMem_of_mem_pieces
    {bytes piece : Bytes}
    (member : piece ∈ pieces bytes) :
    slash ∉ piece := by
  induction bytes generalizing piece with
  | nil =>
      rw [pieces, List.mem_singleton] at member
      rw [member]
      exact List.not_mem_nil
  | cons byte rest inductionHypothesis =>
      rw [pieces] at member
      split at member
      next =>
        rcases List.mem_cons.mp member with rfl | later
        · exact List.not_mem_nil
        · exact inductionHypothesis later
      next notSlash =>
        have distinct : slash ≠ byte := Ne.symm notSlash
        split at member
        next first others shape =>
          rw [shape] at inductionHypothesis
          rcases List.mem_cons.mp member with rfl | later
          · rw [List.mem_cons, not_or]
            exact ⟨distinct, inductionHypothesis List.mem_cons_self⟩
          · exact inductionHypothesis (List.mem_cons_of_mem _ later)
        next shape =>
          exact absurd shape (pieces_ne_nil rest)

theorem names_append_slash
    (path : Path)
    (more : Bytes) :
    (path.extend (slash :: more)).names = path.names ++ names ⟨more⟩ := by
  rw [names, extend, pieces_append_slash, List.filter_append]
  rfl

theorem names_of_isFileName
    {name : Bytes}
    (isFileName : IsFileName name) :
    names ⟨name⟩ = [name] := by
  have named : isName name = true := by
    rw [isName, bne_iff_ne.mpr isFileName.ne_nil,
      bne_iff_ne.mpr isFileName.ne_dot]
    rfl
  rw [names, pieces_of_slash_notMem isFileName.slash_notMem,
    List.filter_cons_of_pos named, List.filter_nil]

section LastName

variable
  {path : Path}
  {name : Bytes}

/-- The file name of a path is the last of its names, unless that is a step back. -/
theorem fileName?_eq_some_iff :
    path.fileName? = some name ↔
      path.names.getLast? = some name ∧ name ≠ stepBack := by
  rw [fileName?]
  cases path.names.getLast? with
  | none =>
      simp
  | some last =>
      by_cases back : last = stepBack
      · simp only [back, ↓reduceIte, Option.some.injEq]
        constructor
        · rintro ⟨⟩
        · rintro ⟨rfl, different⟩
          exact absurd rfl different
      · simp only [back, ↓reduceIte, Option.some.injEq]
        constructor
        · rintro rfl
          exact ⟨rfl, back⟩
        · exact And.left

/-- The file name of a path can name a file. -/
theorem isFileName_of_fileName?
    (found : path.fileName? = some name) :
    IsFileName name := by
  obtain ⟨last, different⟩ := fileName?_eq_some_iff.mp found
  obtain ⟨member, named⟩ :=
    List.mem_filter.mp (List.mem_of_getLast? last)
  rw [isName, Bool.and_eq_true, bne_iff_ne, bne_iff_ne] at named
  exact ⟨named.1, named.2, different, slash_notMem_of_mem_pieces member⟩

theorem fileName?_of_isFileName
    (isFileName : IsFileName name) :
    fileName? ⟨name⟩ = some name := by
  rw [fileName?_eq_some_iff, names_of_isFileName isFileName]
  exact ⟨rfl, isFileName.ne_stepBack⟩

theorem fileStem?_of_fileName?
    (found : path.fileName? = some name) :
    path.fileStem? = some (stem name) := by
  rw [fileStem?, found, Option.map_some]

/-- What names nothing may be written behind a path without changing its file name. -/
theorem fileName?_extend_unnamed
    {more : Bytes}
    (nothing : names ⟨more⟩ = [])
    (path : Path) :
    (path.extend (slash :: more)).fileName? = path.fileName? := by
  have same : (path.extend (slash :: more)).names = path.names := by
    rw [names_append_slash, nothing, List.append_nil]
  rw [fileName?, same, fileName?]

/-- A path that ends with a step back has no file name. -/
theorem fileName?_extend_stepBack
    (path : Path) :
    (path.extend (slash :: stepBack)).fileName? = none := by
  have last : (path.extend (slash :: stepBack)).names.getLast? = some stepBack := by
    rw [names_append_slash]
    exact List.getLast?_concat
  rw [fileName?, last]
  exact if_pos rfl

/-- A directory written before a path leaves its file name as it is. -/
theorem fileName?_extend_path
    (found : path.fileName? = some name)
    (directory : Path) :
    (directory.extend (slash :: path.bytes)).fileName? = some name := by
  obtain ⟨last, different⟩ := fileName?_eq_some_iff.mp found
  rw [fileName?_eq_some_iff, names_append_slash, List.getLast?_append, last]
  exact ⟨rfl, different⟩

end LastName

section Stem

variable {name part : Bytes}

/-- From the end of a name, all that has no dot is passed over in search of the last one. -/
theorem dropWhile_reverse_append
    (absent : dot ∉ part)
    (rest : Bytes) :
    (part.reverse ++ rest).dropWhile (· != dot) = rest.dropWhile (· != dot) := by
  apply List.dropWhile_append_of_pos
  intro byte member
  rw [List.mem_reverse] at member
  exact bne_iff_ne.mpr (ne_of_mem_of_not_mem member absent)

theorem stem_of_dot_notMem
    (absent : dot ∉ name) :
    stem name = name := by
  have undotted : name.reverse.dropWhile (· != dot) = [] := by
    rw [← List.append_nil name.reverse, dropWhile_reverse_append absent,
      List.dropWhile_nil]
  rw [stem, undotted]

/-- What comes after the last dot is no part of the stem, unless nothing comes before it. -/
theorem stem_append_dot
    {extension : Bytes}
    (absent : dot ∉ extension)
    (before : Bytes) :
    stem (before ++ dot :: extension) =
      if before = [] then dot :: extension else before := by
  have behind :
      (before ++ dot :: extension).reverse.dropWhile (· != dot) =
        dot :: before.reverse := by
    rw [List.reverse_append, List.reverse_cons, List.append_assoc,
      dropWhile_reverse_append absent]
    rfl
  rw [stem, behind]
  by_cases nothing : before = []
  · simp [nothing]
  · simp [nothing]

/-- Every name has one stem, and `stem` finds it. -/
theorem isStem_iff :
    IsStem name part ↔ part = stem name := by
  constructor
  · rintro (absent | absent | ⟨nonempty, absent⟩)
    · exact (stem_of_dot_notMem absent).symm
    · exact (stem_append_dot absent []).symm
    · rw [stem_append_dot absent, if_neg nonempty]
  · rintro rfl
    by_cases dotted : dot ∈ name
    · obtain ⟨extension, before, split, absent⟩ :=
        List.eq_append_cons_of_mem (List.mem_reverse.mpr dotted)
      have shape : name = before.reverse ++ dot :: extension.reverse := by
        rw [← List.reverse_reverse name, split]
        simp
      rw [← List.mem_reverse] at absent
      rw [shape, stem_append_dot absent]
      by_cases nothing : before.reverse = []
      · rw [if_pos nothing, nothing]
        exact .hidden absent
      · rw [if_neg nothing]
        exact .extended nothing absent
    · rw [stem_of_dot_notMem dotted]
      exact .undotted dotted

theorem stem_ne_nil
    (nonempty : name ≠ []) :
    stem name ≠ [] := by
  generalize found : stem name = part
  cases isStem_iff.mpr found.symm with
  | undotted => exact nonempty
  | hidden => exact nonempty
  | extended nonempty' => exact nonempty'

/-- The stem of a name has no slash either. -/
theorem slash_notMem_stem
    (absent : slash ∉ name) :
    slash ∉ stem name := by
  generalize found : stem name = part
  cases isStem_iff.mpr found.symm with
  | undotted => exact absent
  | hidden => exact absent
  | extended => exact fun member => absent (List.mem_append_left _ member)

section Extension

variable
  {before extension : Bytes}
  (nonempty : before ≠ [])
  (noSlash : slash ∉ before)
  (isExtension : IsExtension extension)

include nonempty noSlash isExtension

/-- With an extension, anything without a slash is a file name. -/
theorem isFileName_append :
    IsFileName (before ++ extension) := by
  obtain @⟨rest, restNonempty, restNoSlash, _⟩ := isExtension
  have long : 3 ≤ (before ++ dot :: rest).length := by
    have := List.length_pos_iff.mpr nonempty
    have := List.length_pos_iff.mpr restNonempty
    rw [List.length_append, List.length_cons]
    omega
  refine ⟨?_, ?_, ?_, ?_⟩
  · intro same
    simp [same] at long
  · intro same
    simp [same] at long
  · intro same
    simp [same, stepBack] at long
  · rw [List.mem_append, List.mem_cons, not_or, not_or]
    exact ⟨noSlash, by decide, restNoSlash⟩

theorem fileStem?_append :
    fileStem? ⟨before ++ extension⟩ = some before := by
  have isFileName := isFileName_append nonempty noSlash isExtension
  obtain ⟨_, _, noDot⟩ := isExtension
  rw [fileStem?_of_fileName? (fileName?_of_isFileName isFileName),
    stem_append_dot noDot, if_neg nonempty]

end Extension

end Stem

end SpritePack.Path
