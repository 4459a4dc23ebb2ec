import Retarget.Path

/-!
# Kinds of files

A file is code, and goes through the rules, exactly when its name ends in one of a few extensions.
-/

namespace Retarget

/-- How a file is treated. -/
inductive FileKind
  | transformable
  | opaqueData
deriving Repr, BEq, DecidableEq

namespace FileKind

/-- The extensions of code, in lower case. -/
def codeExtensions : List String := ["java", "js", "ts", "txt", "py", "html", "xml", "json", "cs", "kt"]

/-- An ASCII letter in lower case; other bytes stay. -/
def lowerByte (b : UInt8) : UInt8 := if 65 ≤ b.toNat && b.toNat ≤ 90 then b + 32 else b

/-- The kind of a file by its path. -/
def ofPath (p : Path) : FileKind :=
  match p.extension? with
  | none => opaqueData
  | some ext =>
    if (codeExtensions.map Text.encode).contains (ext.map lowerByte) then transformable else opaqueData

end FileKind

end Retarget
