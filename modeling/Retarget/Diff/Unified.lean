import Retarget.Diff.Script
import Retarget.Path
import Retarget.Text.Line

/-!
# Unified diffs

The changes of a text are shown in hunks: each has the changed lines with three kept lines around them, and a header
that says where it stands in the old and the new text.

* `Hunk.ofChanges`: the hunks of a script,
* `unifiedDiff`: the diff of two texts.
-/

namespace Retarget

/-- Some changes and where they stand: so many lines of the old and of the new text come before. -/
structure Hunk where
  oldStart : Nat
  newStart : Nat
  changes : List Change
deriving Repr, BEq, DecidableEq

namespace Hunk

/-- The number of kept lines around the changes. -/
def context : Nat := 3

def oldCount (h : Hunk) : Nat := (Script.old h.changes).length

def newCount (h : Hunk) : Nat := (Script.new h.changes).length

/-- The hunk that begins with the last lines of context out of `kept`, which stand before some line of the old and of
the new text. Both lists have their last element first. -/
def opening (kept : List String) (oldAt newAt : Nat) : List Change × Nat × Nat :=
  let lead := kept.take context
  (lead.map .keep, oldAt - lead.length, newAt - lead.length)

/-- Read a script outside of hunks and inside of them. Outside, `kept` has the kept lines since the last hunk. Inside,
`body` has the changes of the hunk and `kept` the kept lines after them. All have the last line first. -/
def gather (oldAt newAt : Nat) (kept : List String) (body : Option Hunk) : List Change → List Hunk
  | [] =>
    match body with
    | none => []
    | some h =>
      let tail := (kept.reverse.take context).map Change.keep
      [⟨h.oldStart, h.newStart, h.changes.reverse ++ tail⟩]
  | .keep l :: rest => gather (oldAt + 1) (newAt + 1) (l :: kept) body rest
  | c :: rest =>
    let oldNext := match c with | .insert _ => oldAt | _ => oldAt + 1
    let newNext := match c with | .delete _ => newAt | _ => newAt + 1
    let (lead, oldLead, newLead) := opening kept oldAt newAt
    match body with
    | none => gather oldNext newNext [] (some ⟨oldLead, newLead, c :: lead⟩) rest
    | some h =>
      if kept.length ≤ 2 * context then
        gather oldNext newNext [] (some ⟨h.oldStart, h.newStart, c :: kept.map .keep ++ h.changes⟩) rest
      else
        let tail := (kept.reverse.take context).map Change.keep
        ⟨h.oldStart, h.newStart, h.changes.reverse ++ tail⟩ ::
          gather oldNext newNext [] (some ⟨oldLead, newLead, c :: lead⟩) rest

/-- The hunks of a script. -/
def ofChanges (changes : List Change) : List Hunk := gather 0 0 [] none changes

/-- A range of lines in a header: the number of the first line, and how many there are if not one. An empty range
stands at the line before it. -/
def range (start count : Nat) : String :=
  if count == 1 then toString (start + 1)
  else if count == 0 then s!"{start},0"
  else s!"{start + 1},{count}"

def header (h : Hunk) : String :=
  s!"@@ -{range h.oldStart h.oldCount} +{range h.newStart h.newCount} @@\n"

/-- A line of a hunk after its sign. A line without an end is followed by an empty line. -/
def signed (sign : String) (line : String) : String := sign ++ line ++ if Text.isEnded line then "" else "\n\n"

def renderChange : Change → String
  | .keep l => signed " " l
  | .delete l => signed "-" l
  | .insert l => signed "+" l

def render (h : Hunk) : String := h.header ++ String.join (h.changes.map renderChange)

end Hunk

/-- The changes of a text at a path, as a unified diff. -/
def unifiedDiff (path : Path) (old new : String) : String :=
  let name := path.display
  let hunks := Hunk.ofChanges (Script.between (Text.lines old) (Text.lines new))
  s!"--- a/{name}\n+++ b/{name}\n" ++ String.join (hunks.map Hunk.render)

end Retarget
