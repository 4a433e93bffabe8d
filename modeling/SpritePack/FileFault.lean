namespace SpritePack

/-!
# File faults

Why a place in the file system cannot be read or written.
-/

/-- The cause of a failed file operation. -/
inductive FileFault where
  | notFound
  | isADirectory
  | notADirectory
  | alreadyExists
  | nameTooLong
  /-- The path holds a zero byte, which no name may. -/
  | zeroByte
  /-- The content is not text. -/
  | notText
  /-- Anything else that the system may report. -/
  | other
  deriving Repr, DecidableEq

end SpritePack
