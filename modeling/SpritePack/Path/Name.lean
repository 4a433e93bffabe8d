import SpritePack.Path

namespace SpritePack.Path

/-!
# File names and stems

A file name is one piece of a path that can name a file of its own: it holds no
slash, and is none of the pieces that stand for a directory.  Its stem is what
comes before its extension, which begins at the last dot, unless that dot is the
first byte of the name.
-/

/-- That bytes can name a file within a directory. -/
structure IsFileName (name : Bytes) : Prop where
  ne_nil : name ≠ []
  ne_dot : name ≠ [dot]
  ne_stepBack : name ≠ stepBack
  slash_notMem : slash ∉ name

instance (name : Bytes) : Decidable (IsFileName name) :=
  decidable_of_iff
    (name ≠ [] ∧ name ≠ [dot] ∧ name ≠ stepBack ∧ slash ∉ name)
    ⟨fun ⟨nonempty, noDot, noStep, noSlash⟩ =>
        ⟨nonempty, noDot, noStep, noSlash⟩,
      fun name => ⟨name.ne_nil, name.ne_dot, name.ne_stepBack, name.slash_notMem⟩⟩

/-- The stem of a name, by the dots that there are in it. -/
inductive IsStem : Bytes → Bytes → Prop
  /-- Without a dot there is no extension. -/
  | undotted
      {name : Bytes}
      (absent : dot ∉ name) :
      IsStem name name
  /-- A dot at the very start begins no extension. -/
  | hidden
      {rest : Bytes}
      (absent : dot ∉ rest) :
      IsStem (dot :: rest) (dot :: rest)
  /-- The last dot begins the extension. -/
  | extended
      {before extension : Bytes}
      (nonempty : before ≠ [])
      (absent : dot ∉ extension) :
      IsStem (before ++ dot :: extension) before

/-- That bytes are a dot and what can come after the last dot of a file name. -/
inductive IsExtension : Bytes → Prop
  | ofRest
      {rest : Bytes}
      (nonempty : rest ≠ [])
      (slash_notMem : slash ∉ rest)
      (dot_notMem : dot ∉ rest) :
      IsExtension (dot :: rest)

/-- The path with something written behind it. -/
def extend
    (path : Path)
    (more : Bytes) :
    Path :=
  ⟨path.bytes ++ more⟩

end SpritePack.Path
