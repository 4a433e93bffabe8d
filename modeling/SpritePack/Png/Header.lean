import SpritePack.Scanline

namespace SpritePack.Png

/-!
# Picture headers

The header gives a picture's size, how its pixels are stored, and whether they
come in passes.
-/

/-- How the samples of a pixel are to be understood. -/
inductive ColourType where
  | greyscale
  | rgb
  | indexed
  | greyscaleAlpha
  | rgba
  deriving Repr, DecidableEq

namespace ColourType

/-- The colour type that a header's number stands for. -/
def ofCode? : Nat → Option ColourType
  | 0 => some greyscale
  | 2 => some rgb
  | 3 => some indexed
  | 4 => some greyscaleAlpha
  | 6 => some rgba
  | _ => none

/-- The number of samples in a pixel. -/
def samples : ColourType → Nat
  | greyscale => 1
  | rgb => 3
  | indexed => 1
  | greyscaleAlpha => 2
  | rgba => 4

/-- The number of samples in a colour, which for an indexed one is that in its palette. -/
def channels : ColourType → Nat
  | greyscale => 1
  | rgb => 3
  | indexed => 3
  | greyscaleAlpha => 2
  | rgba => 4

/-- The numbers of bits that a sample may have. -/
def depths : ColourType → List Nat
  | greyscale => [1, 2, 4, 8, 16]
  | indexed => [1, 2, 4, 8]
  | rgb | greyscaleAlpha | rgba => [8, 16]

/-- The name of a colour type in messages. -/
def name : ColourType → String
  | greyscale => "Grayscale"
  | rgb => "Rgb"
  | indexed => "Indexed"
  | greyscaleAlpha => "GrayscaleAlpha"
  | rgba => "Rgba"

end ColourType

/-- The width and height of a picture. -/
structure Size where
  width : Nat
  height : Nat
  deriving Repr, DecidableEq

/-- The header of a picture. -/
structure Header where
  canvas : Size
  /-- The number of bits in a sample. -/
  depth : Nat
  colourType : ColourType
  interlaced : Bool
  deriving Repr, DecidableEq

namespace Header

/-- The number of bits in a sample of a colour, which is eight in a palette. -/
def channelDepth (header : Header) : Nat :=
  if header.colourType = .indexed then 8 else header.depth

/-- The bytes that a row of the given width takes. -/
def lineSize (header : Header) (width : Nat) : Nat :=
  Scanline.size (header.depth * header.colourType.samples) width

/-- An index is a single sample. -/
theorem lineSize_of_indexed
    {header : Header}
    (indexed : header.colourType = .indexed)
    (width : Nat) :
    header.lineSize width = Scanline.size header.depth width := by
  rw [lineSize, indexed]
  exact congrArg (Scanline.size · width) (Nat.mul_one _)

/-- The bytes that a picture of the size of the canvas takes. -/
def bufferSize (header : Header) : Nat :=
  header.lineSize header.canvas.width * header.canvas.height

/-- The header that the content of its chunk describes; surplus bytes are ignored. -/
def parse? (content : Bytes) : Option Header := do
  let (width, content) ← Bytes.splitExactly? 4 content
  let (height, content) ← Bytes.splitExactly? 4 content
  let canvas : Size := ⟨Bytes.bigEndian width, Bytes.bigEndian height⟩
  if canvas.width = 0 ∨ canvas.height = 0 then
    none
  match content with
  | depth :: colourCode :: compression :: filtering :: interlacing :: _ =>
      let colourType ← ColourType.ofCode? colourCode.toNat
      if depth.toNat ∈ colourType.depths ∧ compression = 0 ∧ filtering = 0 ∧
          interlacing.toNat ≤ 1 then
        some {
          canvas := canvas
          depth := depth.toNat
          colourType := colourType
          interlaced := interlacing = 1
        }
      else
        none
  | _ => none

end Header

end SpritePack.Png
