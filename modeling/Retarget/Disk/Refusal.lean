import Retarget.Path
import Retarget.Text.Quoted

/-!
# Refusals of a disk

Why an operation on files is refused, and the words for it.
-/

namespace Retarget

/-- The cause of a refusal. -/
inductive Cause
  | notFound
  | denied
  | busy
  | alreadyExists
  | notDirectory
  | isDirectory
  | nameTooLong
  | tooManyLinks
  /-- A path holds a NUL byte. -/
  | nulInPath
  /-- A file that has to be text is none. -/
  | notText
  /-- A copy is asked for of something that is no file. -/
  | notRegular
deriving Repr, BEq, DecidableEq

namespace Cause

def message : Cause → String
  | notFound => "No such file or directory (os error 2)"
  | denied => "Permission denied (os error 13)"
  | busy => "Device or resource busy (os error 16)"
  | alreadyExists => "File exists (os error 17)"
  | notDirectory => "Not a directory (os error 20)"
  | isDirectory => "Is a directory (os error 21)"
  | nameTooLong => "File name too long (os error 36)"
  | tooManyLinks => "Too many levels of symbolic links (os error 40)"
  | nulInPath => "file name contained an unexpected NUL byte"
  | notText => "stream did not contain valid UTF-8"
  | notRegular => "the source path is neither a regular file nor a symlink to a regular file"

end Cause

namespace Path

/-- A path in double quotes: a character as in a quoted text, a single quote escaped as well, and a byte that is no
text by its hexadecimal digits. -/
def quote (p : Path) : String :=
  let escape (c : Char) : String := if c == '\'' then "\\'" else Text.escape c
  let hex (b : UInt8) : String :=
    let digits := (Nat.toDigits 16 b.toNat).map Char.toUpper
    "\\x" ++ String.ofList (List.replicate (2 - digits.length) '0' ++ digits)
  let rec go : Nat → Bytes → List String
    | _, [] => []
    | 0, _ => []
    | fuel + 1, b :: rest =>
      match Text.readChunk b rest with
      | .char c width => escape c :: go fuel (rest.drop (width - 1))
      | .bad width => (b :: rest.take (width - 1)).map hex ++ go fuel (rest.drop (width - 1))
      | .cut => (b :: rest).map hex
  "\"" ++ String.join (go p.bytes.length p.bytes) ++ "\""

end Path

/-- A refusal: its cause, and the path that it concerns if that is not the one asked for. -/
structure Refusal where
  cause : Cause
  place : Option Path := none
deriving Repr, BEq, DecidableEq

namespace Refusal

def message (f : Refusal) : String :=
  match f.place with
  | none => f.cause.message
  | some p => f.cause.message ++ " at path " ++ p.quote

end Refusal

end Retarget
