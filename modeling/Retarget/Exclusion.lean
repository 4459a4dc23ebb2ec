import Retarget.Glob
import Retarget.Path

/-!
# Excluded files

Files that match an exclusion are copied, not converted. An exclusion is a glob that is tried on the path and on the
file name; one that ends in a slash also excludes all that lies in a directory of that name.
-/

namespace Retarget

/-- An exclusion as written, and its glob if it is one. -/
structure Exclusion where
  text : String
  glob : Except GlobError Glob

/-- Some exclusions. -/
structure ExclusionSet where
  exclusions : List Exclusion

namespace Exclusion

def ofText (text : String) : Exclusion := ⟨text, Glob.parse text⟩

/-- Does the glob match the path or the file name? An invalid glob matches nothing. -/
def matchesGlob (e : Exclusion) (path : String) (fileName : Option String) : Bool :=
  match e.glob with
  | .error _ => false
  | .ok g => g.isMatch path || fileName.any g.isMatch

/-- Is `part` found in `cs`? -/
def occurs (part : List Char) : List Char → Bool
  | [] => part.isEmpty
  | c :: cs => part.isPrefixOf (c :: cs) || occurs part cs

/-- The directory that an exclusion with a trailing slash names. -/
def directory? (e : Exclusion) : Option (List Char) :=
  let rev := e.text.toList.reverse
  if rev.head? == some '/' then some (rev.dropWhile (· == '/')).reverse else none

/-- Does the path lie in the directory that the exclusion names? -/
def matchesDirectory (e : Exclusion) (path : List Char) : Bool :=
  e.directory?.any fun dir => (dir ++ ['/']).isPrefixOf path || occurs ('/' :: dir ++ ['/']) path

end Exclusion

namespace ExclusionSet

def ofTexts (texts : List String) : ExclusionSet := ⟨texts.map Exclusion.ofText⟩

def isEmpty (s : ExclusionSet) : Bool := s.exclusions.isEmpty

/-- Is a path relative to the root of a tree excluded? -/
def isMatch (s : ExclusionSet) (relative : Path) : Bool :=
  let path := relative.display.toList.map fun c => if c == '\\' then '/' else c
  let fileName := relative.fileName?.map Text.decodeLossy
  s.exclusions.any fun e => e.matchesGlob (String.ofList path) fileName || e.matchesDirectory path

/-- The exclusions that are no globs, with what is wrong with them. -/
def invalid (s : ExclusionSet) : List (String × GlobError) :=
  s.exclusions.filterMap fun e => match e.glob with
    | .error err => some (e.text, err)
    | .ok _ => none

end ExclusionSet

end Retarget
