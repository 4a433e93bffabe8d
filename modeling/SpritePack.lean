import SpritePack.Bytes
import SpritePack.Checksum
import SpritePack.Colour
import SpritePack.CommandLine.Arguments
import SpritePack.CommandLine.Grammar
import SpritePack.CommandLine.Reader
import SpritePack.Config
import SpritePack.Config.Settings
import SpritePack.Convert
import SpritePack.Deflate.Alphabet
import SpritePack.Deflate.BitSource
import SpritePack.Deflate.CodeLengths
import SpritePack.Deflate.Inflate
import SpritePack.Deflate.PrefixCode
import SpritePack.Deflate.Stored
import SpritePack.Disk
import SpritePack.Error
import SpritePack.FileFault
import SpritePack.Host
import SpritePack.Interlace
import SpritePack.Journal
import SpritePack.Log.Condition
import SpritePack.Log.Directive
import SpritePack.Log.Filter
import SpritePack.Log.Record
import SpritePack.Main
import SpritePack.Palette
import SpritePack.Path
import SpritePack.Path.Name
import SpritePack.Pattern
import SpritePack.Pattern.Atom
import SpritePack.Pattern.Automaton
import SpritePack.Pattern.CharacterSet
import SpritePack.Pattern.Class
import SpritePack.Pattern.Expression
import SpritePack.Pattern.Flags
import SpritePack.Pattern.Group
import SpritePack.Pattern.Parser
import SpritePack.Pattern.Reader
import SpritePack.Pattern.Run
import SpritePack.Png.Announcement
import SpritePack.Png.Chunk
import SpritePack.Png.ColourProfile
import SpritePack.Png.Frame
import SpritePack.Png.Header
import SpritePack.Png.ImageData
import SpritePack.Png.Lead
import SpritePack.Png.Load
import SpritePack.Png.Memory
import SpritePack.Png.Prelude
import SpritePack.Png.Scanlines
import SpritePack.Png.TextChunk
import SpritePack.Png.Writer
import SpritePack.Program
import SpritePack.Proofs.Colour
import SpritePack.Proofs.CommandLine.Meaning
import SpritePack.Proofs.CommandLine.Reading
import SpritePack.Proofs.CommandLine.Talkative
import SpritePack.Proofs.Config.Naming
import SpritePack.Proofs.Config.Outcome
import SpritePack.Proofs.Conversion.Account
import SpritePack.Proofs.Conversion.Effect
import SpritePack.Proofs.Conversion.Journal
import SpritePack.Proofs.Conversion.Repetition
import SpritePack.Proofs.Conversion.Run
import SpritePack.Proofs.Conversion.Success
import SpritePack.Proofs.Disk.Writing
import SpritePack.Proofs.Interlace.Assembly
import SpritePack.Proofs.Interlace.Passes
import SpritePack.Proofs.Interlace.Streams
import SpritePack.Proofs.Log.Showing
import SpritePack.Proofs.Path.Names
import SpritePack.Proofs.Png.Encoding
import SpritePack.Proofs.Png.FirstFrame
import SpritePack.Proofs.Png.Framing
import SpritePack.Proofs.Png.Interlaced
import SpritePack.Proofs.Png.Lead
import SpritePack.Proofs.Png.Loading
import SpritePack.Proofs.Png.Opening
import SpritePack.Proofs.Png.Order
import SpritePack.Proofs.Png.Prelude
import SpritePack.Proofs.Png.Reading
import SpritePack.Proofs.Png.RoundTrip
import SpritePack.Proofs.Png.Safety
import SpritePack.Proofs.Png.Scanlines
import SpritePack.Proofs.Program.Agreement
import SpritePack.Proofs.Program.Configuration
import SpritePack.Proofs.Program.ErrorLine
import SpritePack.Proofs.Program.Logging
import SpritePack.Proofs.Program.Report
import SpritePack.Proofs.Raster.Access
import SpritePack.Proofs.Raster.Pixels
import SpritePack.Proofs.Raster.Stride
import SpritePack.Proofs.Scanline.Access
import SpritePack.Proofs.Scanline.Bits
import SpritePack.Proofs.Scanline.Filtering
import SpritePack.Proofs.Scanline.Packing
import SpritePack.Proofs.Scanline.Spacing
import SpritePack.Proofs.Scanline.Unpacking
import SpritePack.Proofs.Sprite.AnySize
import SpritePack.Proofs.Sprite.Bitmap
import SpritePack.Proofs.Sprite.Picture
import SpritePack.Proofs.Sprite.Repacking
import SpritePack.Proofs.Sprite.Scanlines
import SpritePack.Proofs.Sprite.Validation
import SpritePack.Proofs.Sprite.WellFormed
import SpritePack.Proofs.Text.Decoding
import SpritePack.Proofs.Text.Lines
import SpritePack.Proofs.Text.UpperCase
import SpritePack.Proofs.Text.Utf8
import SpritePack.Proofs.Toml.Reading
import SpritePack.Proofs.Toml.Writing
import SpritePack.Proofs.Traversal.Pieces
import SpritePack.Raster
import SpritePack.Raster.Access
import SpritePack.Scanline
import SpritePack.Scanline.Access
import SpritePack.Scanline.Bits
import SpritePack.Scanline.Filter
import SpritePack.Sprite
import SpritePack.Sprite.Display
import SpritePack.Text.Alphanumeric
import SpritePack.Text.Blank
import SpritePack.Text.CodePointSet
import SpritePack.Text.ControlSequence
import SpritePack.Text.Hexadecimal
import SpritePack.Text.Invisible
import SpritePack.Text.Lines
import SpritePack.Text.Quoted
import SpritePack.Text.UpperCase
import SpritePack.Text.Utf8
import SpritePack.Toml.Document
import SpritePack.Toml.Grammar
import SpritePack.Toml.Lexeme
import SpritePack.Toml.Text
import SpritePack.Toml.Writer
import SpritePack.Traversal
import SpritePack.Zlib
import SpritePack.Zlib.Stored
