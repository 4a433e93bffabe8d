import SpritePack.Config
import SpritePack.Proofs.Path.Names
import SpritePack.Proofs.Text.Decoding
import SpritePack.Proofs.Text.UpperCase

namespace SpritePack.Config

/-!
# The names of the outputs

The outputs of a conversion are named after the last name of the picture's path
and nothing else.  Their names are text in upper case, lie in the working
directory, and give themselves again as outputs when they are taken as pictures.
For this reason a picture with such a name is overwritten by its own sprite, and
no other picture is.
-/

open SpritePack.Path (slash dot stepBack)

/-- The two outputs of a configuration. -/
def outputs (config : Config) : Path × Path :=
  (config.bitmapOutput, config.paletteOutput)

/-- The outputs with a given name before their extensions. -/
def outputsNamed (stem : String) : Path × Path :=
  (Path.ofString (stem ++ ".BIN"), Path.ofString (stem ++ ".PAL"))

theorem outputs_withInput
    (input : Path) :
    (withInput input).outputs = outputsNamed (outputStem input) :=
  rfl

/-- Paths with one file name, or none, have the same outputs. -/
theorem outputs_eq_of_fileName?
    {first second : Path}
    (same : first.fileName? = second.fileName?) :
    (withInput first).outputs = (withInput second).outputs := by
  rw [outputs_withInput, outputs_withInput, outputStem, outputStem,
    Path.fileStem?, Path.fileStem?, same]

theorem outputStem_of_fileStem?
    {input : Path}
    {stem : Bytes}
    (found : input.fileStem? = some stem) :
    outputStem input = UpperCase.ofString (Utf8.lossy stem) := by
  rw [outputStem, found]

theorem outputStem_of_fileName?_eq_none
    {input : Path}
    (unnamed : input.fileName? = none) :
    outputStem input = "SPRITE" := by
  rw [outputStem, Path.fileStem?, unnamed]
  rfl

/-- That a text may stand before the extension of an output. -/
structure IsOutputStem (stem : String) : Prop where
  nonempty : stem ≠ ""
  slash_notMem : '/' ∉ stem.toList
  upper : UpperCase.ofString stem = stem

theorem isOutputStem_default :
    IsOutputStem "SPRITE" where
  nonempty := by decide
  slash_notMem := by decide
  upper := by decide +kernel

/-- What is not text becomes a replacement character, so a stem never vanishes. -/
theorem isOutputStem_of_name
    {stem : Bytes}
    (nonempty : stem ≠ [])
    (noSlash : slash ∉ stem) :
    IsOutputStem (UpperCase.ofString (Utf8.lossy stem)) where
  nonempty := by
    rw [Ne, UpperCase.ofString_eq_empty_iff, Utf8.lossy_eq_empty_iff]
    exact nonempty
  slash_notMem := by
    intro member
    have shown := UpperCase.mem_of_mem_ofString (by decide) member
    have encoded : String.utf8EncodeChar '/' <:+: stem :=
      Utf8.utf8EncodeChar_infix_of_mem_lossy (by decide) shown
    exact noSlash (encoded.subset (by decide))
  upper :=
    UpperCase.ofString_ofString _

/-- Every path gives its outputs a proper name. -/
theorem isOutputStem_outputStem
    (input : Path) :
    IsOutputStem (outputStem input) := by
  cases found : input.fileName? with
  | none =>
      rw [outputStem_of_fileName?_eq_none found]
      exact isOutputStem_default
  | some name =>
      have isFileName := Path.isFileName_of_fileName? found
      rw [outputStem_of_fileStem? (Path.fileStem?_of_fileName? found)]
      exact
        isOutputStem_of_name (Path.stem_ne_nil isFileName.ne_nil)
          (Path.slash_notMem_stem isFileName.slash_notMem)

section Named

variable
  {stem extension : String}
  (isOutputStem : IsOutputStem stem)

include isOutputStem

theorem IsOutputStem.encode_ne_nil :
    Utf8.encode stem ≠ [] :=
  mt Utf8.encode_eq_nil_iff.mp isOutputStem.nonempty

theorem IsOutputStem.slash_notMem_encode :
    slash ∉ Utf8.encode stem := by
  intro member
  obtain ⟨character, inStem, inCharacter⟩ := List.mem_flatMap.mp member
  have code := Utf8.toNat_eq_of_mem_utf8EncodeChar (by decide) inCharacter
  obtain rfl : character = '/' := Char.toNat_inj.mp code
  exact isOutputStem.slash_notMem inStem

section Extension

variable (isExtension : Path.IsExtension (Utf8.encode extension))

include isExtension

/-- An output gives its own stem back. -/
theorem IsOutputStem.outputStem_eq :
    outputStem (Path.ofString (stem ++ extension)) = stem := by
  have found :
      Path.fileStem? (Path.ofString (stem ++ extension)) =
        some (Utf8.encode stem) := by
    rw [Path.ofString, Utf8.encode_append]
    exact
      Path.fileStem?_append isOutputStem.encode_ne_nil
        isOutputStem.slash_notMem_encode isExtension
  rw [outputStem_of_fileStem? found, Utf8.lossy_encode, isOutputStem.upper]

theorem IsOutputStem.isFileName :
    Path.IsFileName (Path.ofString (stem ++ extension)).bytes := by
  rw [Path.ofString, Utf8.encode_append]
  exact
    Path.isFileName_append isOutputStem.encode_ne_nil
      isOutputStem.slash_notMem_encode isExtension

end Extension

end Named

theorem isExtension_bitmap :
    Path.IsExtension (Utf8.encode ".BIN") := by
  have split : Utf8.encode ".BIN" = dot :: Utf8.encode "BIN" := by
    decide
  rw [split]
  exact .ofRest (by decide) (by decide) (by decide)

theorem isExtension_palette :
    Path.IsExtension (Utf8.encode ".PAL") := by
  have split : Utf8.encode ".PAL" = dot :: Utf8.encode "PAL" := by
    decide
  rw [split]
  exact .ofRest (by decide) (by decide) (by decide)

/--
An output of a picture: text, one name in the working directory, and as a
picture the source of the same outputs.
-/
structure NamesSettledOutput (input output : Path) : Prop where
  text : ∃ text, Utf8.decode? output.bytes = some text
  isFileName : Path.IsFileName output.bytes
  alone : output.names = [output.bytes]
  stable : (withInput output).outputs = (withInput input).outputs

theorem namesSettledOutput_of_stem
    {extension : String}
    (isExtension : Path.IsExtension (Utf8.encode extension))
    (input : Path) :
    NamesSettledOutput input
      (Path.ofString (outputStem input ++ extension)) where
  text :=
    ⟨_, Utf8.decode?_encode _⟩
  isFileName :=
    (isOutputStem_outputStem input).isFileName isExtension
  alone :=
    Path.names_of_isFileName
      ((isOutputStem_outputStem input).isFileName isExtension)
  stable := by
    rw [outputs_withInput, outputs_withInput,
      (isOutputStem_outputStem input).outputStem_eq isExtension]

theorem bitmapOutput_ne_paletteOutput
    (input : Path) :
    (withInput input).bitmapOutput ≠ (withInput input).paletteOutput := by
  intro same
  have bytes := congrArg Path.bytes same
  simp only [withInput, Path.ofString, Utf8.encode_append,
    List.append_cancel_left_eq] at bytes
  exact absurd bytes (by decide)

/--
Whatever the path of a picture is, its outputs are two different names in the
working directory with one stem, and are their own outputs.
-/
theorem outputs_settled
    (input : Path) :
    (∃ stem, stem ≠ "" ∧
      (withInput input).bitmapOutput = Path.ofString (stem ++ ".BIN") ∧
      (withInput input).paletteOutput = Path.ofString (stem ++ ".PAL")) ∧
    (withInput input).bitmapOutput ≠ (withInput input).paletteOutput ∧
    NamesSettledOutput input (withInput input).bitmapOutput ∧
    NamesSettledOutput input (withInput input).paletteOutput := by
  have isOutputStem := isOutputStem_outputStem input
  exact
    ⟨⟨outputStem input, isOutputStem.nonempty, rfl, rfl⟩,
      bitmapOutput_ne_paletteOutput input,
      namesSettledOutput_of_stem isExtension_bitmap input,
      namesSettledOutput_of_stem isExtension_palette input⟩

section LastName

variable (path : Path)

/-- A path with nothing to name behind a slash has the outputs of the path alone. -/
theorem outputs_extend_unnamed
    {more : Bytes}
    (nothing : Path.names ⟨more⟩ = []) :
    (withInput (path.extend (slash :: more))).outputs =
      (withInput path).outputs :=
  outputs_eq_of_fileName? (Path.fileName?_extend_unnamed nothing path)

theorem outputs_of_fileName?_eq_none
    (unnamed : path.fileName? = none) :
    (withInput path).outputs =
      (Path.ofString "SPRITE.BIN", Path.ofString "SPRITE.PAL") := by
  rw [outputs_withInput, outputStem_of_fileName?_eq_none unnamed]
  rfl

theorem outputs_of_isStem
    {stem : Bytes}
    (isFileName : Path.IsFileName path.bytes)
    (isStem : Path.IsStem path.bytes stem) :
    (withInput path).outputs =
      outputsNamed (UpperCase.ofString (Utf8.lossy stem)) := by
  obtain rfl := Path.isStem_iff.mp isStem
  have named : path.fileName? = some path.bytes :=
    Path.fileName?_of_isFileName isFileName
  rw [outputs_withInput,
    outputStem_of_fileStem? (Path.fileStem?_of_fileName? named)]

end LastName

/--
The outputs of a path are those of its last name: slashes and single dots after
it and directories before it change nothing, and without such a name the outputs
have a name of their own.  Of the name, the outputs keep the stem.
-/
theorem outputs_by_last_name
    (path directory : Path) :
    (withInput path).input = path ∧
    (withInput (path.extend [slash])).outputs = (withInput path).outputs ∧
    (withInput (path.extend [slash, dot])).outputs = (withInput path).outputs ∧
    (withInput (path.extend (slash :: stepBack))).outputs =
      (Path.ofString "SPRITE.BIN", Path.ofString "SPRITE.PAL") ∧
    (path.fileName? ≠ none →
      (withInput (directory.extend (slash :: path.bytes))).outputs =
        (withInput path).outputs) ∧
    (Path.IsFileName path.bytes →
      ∃ stem, (∀ other, Path.IsStem path.bytes other ↔ other = stem) ∧
        path.fileStem? = some stem ∧
        (withInput path).outputs =
          outputsNamed (UpperCase.ofString (Utf8.lossy stem))) := by
  refine
    ⟨rfl, outputs_extend_unnamed path rfl, outputs_extend_unnamed path rfl,
      outputs_of_fileName?_eq_none _ (Path.fileName?_extend_stepBack path),
      ?_, ?_⟩
  · intro named
    obtain ⟨name, found⟩ := Option.ne_none_iff_exists'.mp named
    apply outputs_eq_of_fileName?
    rw [found, Path.fileName?_extend_path found]
  · intro isFileName
    have found : path.fileName? = some path.bytes :=
      Path.fileName?_of_isFileName isFileName
    exact
      ⟨Path.stem path.bytes, fun _ => Path.isStem_iff,
        Path.fileStem?_of_fileName? found,
        outputs_of_isStem path isFileName (Path.isStem_iff.mpr rfl)⟩

/-- A hidden name with several dots, of which the last one begins the extension. -/
theorem outputs_by_last_name_of_hidden :
    (Path.ofString ".ship.v2.png").fileName? ≠ none ∧
    Path.IsFileName (Path.ofString ".ship.v2.png").bytes ∧
    (withInput (Path.ofString "art/.ship.v2.png")).outputs =
      (Path.ofString ".SHIP.V2.BIN", Path.ofString ".SHIP.V2.PAL") := by
  have named : (Path.ofString ".ship.v2.png").fileName? ≠ none := by
    decide
  have isFileName : Path.IsFileName (Path.ofString ".ship.v2.png").bytes := by
    decide
  have isStem :
      Path.IsStem (Path.ofString ".ship.v2.png").bytes
        (Utf8.encode ".ship.v2") := by
    have split :
        (Path.ofString ".ship.v2.png").bytes =
          Utf8.encode ".ship.v2" ++ dot :: Utf8.encode "png" := by
      decide
    rw [split]
    exact .extended (by decide) (by decide)
  obtain ⟨_, _, _, _, below, ofName⟩ :=
    outputs_by_last_name (Path.ofString ".ship.v2.png") (Path.ofString "art")
  obtain ⟨stem, unique, _, outputs⟩ := ofName isFileName
  obtain rfl := (unique _).mp isStem
  have upper : UpperCase.ofString ".ship.v2" = ".SHIP.V2" := by
    decide +kernel
  rw [Utf8.lossy_encode, upper] at outputs
  have joined :
      Path.ofString "art/.ship.v2.png" =
        (Path.ofString "art").extend
          (slash :: (Path.ofString ".ship.v2.png").bytes) := by
    decide
  refine ⟨named, isFileName, ?_⟩
  rw [joined, below named, outputs]
  decide

section Itself

theorem isOutputStem_of_decode?
    {stem : Bytes}
    {text : String}
    (nonempty : stem ≠ [])
    (noSlash : slash ∉ stem)
    (decoded : Utf8.decode? stem = some text)
    (upper : UpperCase.ofString text = text) :
    IsOutputStem text := by
  obtain rfl := Utf8.decode?_eq_some_iff.mp decoded
  refine ⟨mt Utf8.encode_eq_nil_iff.mpr nonempty, ?_, upper⟩
  intro member
  have encoded : slash ∈ String.utf8EncodeChar '/' := by
    decide
  exact noSlash (List.mem_flatMap_of_mem member encoded)

/-- The name of an output, with a proper stem, is made from itself again. -/
theorem IsOutputStem.ofString_outputStem
    {stem extension : String}
    {input : Path}
    (isOutputStem : IsOutputStem stem)
    (isExtension : Path.IsExtension (Utf8.encode extension))
    (written : input.bytes = Utf8.encode stem ++ Utf8.encode extension) :
    Path.ofString (outputStem input ++ extension) = input := by
  have inputIs : input = Path.ofString (stem ++ extension) := by
    rw [← Utf8.encode_append] at written
    exact congrArg Path.mk written
  rw [inputIs, isOutputStem.outputStem_eq isExtension]

/-- A path that ends in one way does not end in another of the same length. -/
theorem bytes_ne_append_of_suffix
    {input : Path}
    {ending extension : Bytes}
    (ends : ending <:+ input.bytes)
    (sameLength : ending.length = extension.length)
    (different : ending ≠ extension)
    (stem : Bytes) :
    input.bytes ≠ stem ++ extension := by
  intro written
  obtain ⟨before, split⟩ := ends
  rw [written] at split
  exact different (List.append_inj_right' split sameLength)

end Itself

/--
A picture is one of its own outputs exactly when its path is a proper stem with
one of their extensions.  So no picture with the usual extension is overwritten.
-/
theorem output_eq_input_iff
    (input : Path) :
    ((withInput input).bitmapOutput = input ∨
        (withInput input).paletteOutput = input ↔
      ∃ stem text, stem ≠ [] ∧ slash ∉ stem ∧
        Utf8.decode? stem = some text ∧ UpperCase.ofString text = text ∧
        (input.bytes = stem ++ Utf8.encode ".BIN" ∨
          input.bytes = stem ++ Utf8.encode ".PAL")) ∧
    (Utf8.encode ".png" <:+ input.bytes →
      (withInput input).bitmapOutput ≠ input ∧
        (withInput input).paletteOutput ≠ input) := by
  have isOutputStem := isOutputStem_outputStem input
  have bitmap :
      (withInput input).bitmapOutput.bytes =
        Utf8.encode (outputStem input) ++ Utf8.encode ".BIN" :=
    Utf8.encode_append _ _
  have palette :
      (withInput input).paletteOutput.bytes =
        Utf8.encode (outputStem input) ++ Utf8.encode ".PAL" :=
    Utf8.encode_append _ _
  refine ⟨⟨?_, ?_⟩, ?_⟩
  · intro itself
    refine
      ⟨Utf8.encode (outputStem input), outputStem input,
        isOutputStem.encode_ne_nil, isOutputStem.slash_notMem_encode,
        Utf8.decode?_encode _, isOutputStem.upper, ?_⟩
    rcases itself with same | same
    · rw [same] at bitmap
      exact .inl bitmap
    · rw [same] at palette
      exact .inr palette
  · rintro ⟨stem, text, nonempty, noSlash, decoded, upper, written⟩
    have proper := isOutputStem_of_decode? nonempty noSlash decoded upper
    obtain rfl := Utf8.decode?_eq_some_iff.mp decoded
    exact
      written.imp (proper.ofString_outputStem isExtension_bitmap)
        (proper.ofString_outputStem isExtension_palette)
  · intro ends
    constructor
    · intro same
      rw [same] at bitmap
      exact bytes_ne_append_of_suffix ends (by decide) (by decide) _ bitmap
    · intro same
      rw [same] at palette
      exact bytes_ne_append_of_suffix ends (by decide) (by decide) _ palette

/-- A name in upper case with dots of its own, behind each of two extensions. -/
theorem output_eq_input_iff_of_upper :
    ((withInput (Path.ofString "Ä.V2.PAL")).bitmapOutput =
        Path.ofString "Ä.V2.PAL" ∨
      (withInput (Path.ofString "Ä.V2.PAL")).paletteOutput =
        Path.ofString "Ä.V2.PAL") ∧
    Utf8.encode ".png" <:+ (Path.ofString "Ä.V2.png").bytes ∧
    (withInput (Path.ofString "Ä.V2.png")).bitmapOutput ≠
      Path.ofString "Ä.V2.png" ∧
    (withInput (Path.ofString "Ä.V2.png")).paletteOutput ≠
      Path.ofString "Ä.V2.png" := by
  have ends : Utf8.encode ".png" <:+ (Path.ofString "Ä.V2.png").bytes := by
    decide
  refine
    ⟨(output_eq_input_iff _).1.mpr
        ⟨Utf8.encode "Ä.V2", "Ä.V2", by decide, by decide,
          Utf8.decode?_encode _, by decide +kernel, .inr (by decide)⟩,
      ends, (output_eq_input_iff _).2 ends⟩

end SpritePack.Config
