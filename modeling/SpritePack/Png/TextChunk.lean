import SpritePack.Text.Utf8

namespace SpritePack.Png

/-!
# Text chunks

A picture may carry texts under keywords. They are not kept, but a chunk whose
parts are not in order makes the whole picture unreadable.
-/

namespace TextChunk

/-- The bytes before the first zero byte, and those after it. -/
def splitAtZero? (content : Bytes) : Option (Bytes × Bytes) :=
  match content.dropWhile (· != 0) with
  | [] => none
  | _ :: rest => some (content.takeWhile (· != 0), rest)

/-- What follows the keyword, which has at least one byte and at most seventy-nine. -/
def afterKeyword? (content : Bytes) : Option Bytes := do
  let (keyword, rest) ← splitAtZero? content
  if keyword.length = 0 ∨ 79 < keyword.length then
    none
  else
    some rest

/-- Whether the content is a keyword and a text. -/
def isPlain (content : Bytes) : Bool :=
  (afterKeyword? content).isSome

/-- Whether the content is a keyword, the one known compression method, and data. -/
def isCompressed (content : Bytes) : Bool :=
  match afterKeyword? content with
  | some (method :: _) => method == 0
  | _ => false

/--
Whether the content is a keyword, a compression flag and method, a language tag
in ASCII, a translated keyword in UTF-8, and a text, which is in UTF-8 unless it
is compressed.
-/
def isInternational (content : Bytes) : Bool :=
  match afterKeyword? content with
  | some (flag :: method :: rest) =>
      match splitAtZero? rest with
      | none => false
      | some (language, rest) =>
          match splitAtZero? rest with
          | none => false
          | some (translated, text) =>
              (flag == 0 || (flag == 1 && method == 0)) &&
                language.all (fun byte => byte.toNat < 128) &&
                (Utf8.decode? translated).isSome &&
                (flag == 1 || (Utf8.decode? text).isSome)
  | _ => false

end TextChunk

end SpritePack.Png
