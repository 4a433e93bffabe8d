import SpritePack.Program

namespace SpritePack

/-!
# The command

The program on a real machine: paths are opened by the operating system, and
records are kept until the run is over.
-/

/-- A run on a real machine, with the records made so far. -/
abbrev Machine := StateT (List Log.Record) IO

namespace Machine

/-- What an operating system's error means for a path. -/
def faultOf : IO.Error → FileFault
  | .noFileOrDirectory .. => .notFound
  | .alreadyExists .. => .alreadyExists
  | .inappropriateType _ code _ => if code = 21 then .isADirectory else .notADirectory
  | .invalidArgument .. => .nameTooLong
  | _ => .other

/-- The path as the operating system takes it. -/
def nameOf (path : Path) : Except FileFault String :=
  if 0 ∈ path.bytes then
    .error .zeroByte
  else
    match Utf8.decode? path.bytes with
    | some name => .ok name
    | none => .error .other

/-- Open a path for reading. -/
def openPath (path : Path) : Machine (Except FileFault Node) := do
  match nameOf path with
  | .error fault => return .error fault
  | .ok name =>
      try
        let content ← IO.FS.readBinFile name
        return .ok (.file content.toList)
      catch error =>
        match faultOf error with
        | .isADirectory => return .ok .directory
        | fault => return .error fault

/-- Write a file. -/
def writeFile
    (path : Path)
    (content : Bytes) :
    Machine (Except FileFault Unit) := do
  match nameOf path with
  | .error fault => return .error fault
  | .ok name =>
      try
        IO.FS.writeBinFile name (ByteArray.mk content.toArray)
        return .ok ()
      catch error =>
        return .error (faultOf error)

instance : Host Machine where
  openPath := openPath
  writeFile := writeFile
  record entry := modify fun records => records ++ [entry]

end Machine

end SpritePack

open SpritePack in
/-- Convert as the command line says. -/
def main (arguments : List String) : IO UInt32 := do
  let setting ← IO.getEnv "RUST_LOG"
  let words := arguments.map Utf8.encode
  let run : Machine Program.Outcome := Program.run words
  let (outcome, records) ← run.run []
  IO.print outcome.output
  for line in Program.errorLines setting words records outcome do
    match line with
    | .log text => IO.eprintln text
    | .plain text => IO.eprintln text
  return outcome.exitCode.toUInt32
