import Retarget.Journal
import Retarget.RuleFile

/-!
# Rule files on a disk

Rules come from a file, or from all rule files of a directory and the directories in it, in the order of their names.
A file of a directory that cannot be used is left out with a notice; a directory that cannot be listed fails.
-/

namespace Retarget

namespace RuleFile

/-- The rules of a file on a disk. -/
def load? (d : Disk) (p : Path) : Except LoadError (List LoadedRule) :=
  match d.readText p with
  | .error c => .error (.unreadable c.message)
  | .ok text => RuleFile.parse text

/-- Is a path that of a rule file? -/
def isRuleFile (p : Path) : Bool :=
  p.extension? == some (Text.encode "yaml") || p.extension? == some (Text.encode "yml")

end RuleFile

namespace RuleFolder

/-- The rules of a file of a directory; none if it cannot be used. -/
def loadFile (p : Path) : Job (List LoadedRule) := do
  if RuleFile.isRuleFile p then
    match ← Job.ask fun d => RuleFile.load? d p with
    | .ok rules => return rules
    | .error e =>
      Job.notice .warn "skipping rule file" [("path", p.display), ("error", e.message)]
      return []
  else return []

/-- The rules of the members of a directory, one after another. -/
def loadMembers (loadFolder : Path → ExceptT LoadError Job (List LoadedRule)) (folder : Path) :
    List Name → ExceptT LoadError Job (List LoadedRule)
  | [] => return []
  | n :: rest => do
    let p := folder.join ⟨n⟩
    let rules ← if ← Job.look fun d => d.isDirectory p then loadFolder p else loadFile p
    return rules ++ (← loadMembers loadFolder folder rest)

/-- The rules of a directory and the directories in it, down to a depth. -/
def loadFrom : Nat → Path → ExceptT LoadError Job (List LoadedRule)
  | 0, _ => return []
  | depth + 1, folder => do
    let names ← Job.orFail (Job.ask fun d => d.sortedList folder) fun c => .unreadable c.message
    loadMembers (loadFrom depth) folder names

/-- The rules of a directory and the directories in it. A directory has a longer path than the one that it is in, so
none is too deep. -/
def load (folder : Path) : ExceptT LoadError Job (List LoadedRule) := do
  if ← Job.look fun d => d.isDirectory folder then loadFrom Path.lengthLimit folder
  else throw (.unreadable ("Directory not found: " ++ folder.display))

end RuleFolder

end Retarget
