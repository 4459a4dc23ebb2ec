import Retarget.Disk.Read
import Retarget.Settings

/-!
# Settings on a disk

The settings of a project stand in its directory, or in one above it.
-/

namespace Retarget

/-- Why settings cannot be used. -/
inductive SettingsError
  | unreadable (p : Path) (c : Cause)
  | malformed (p : Path)
deriving Repr, BEq, DecidableEq

namespace SettingsError

def message : SettingsError → String
  | unreadable p _ => "Failed to read " ++ p.display
  | malformed p => "Failed to parse " ++ p.display

/-- The message, and the messages of what is behind it. -/
def chain : SettingsError → List String
  | unreadable p c => [(unreadable p c).message, c.message]
  | malformed p => [(malformed p).message, "TOML parse error: not the settings of a project"]

end SettingsError

namespace Settings

/-- The settings of a file. -/
def load? (d : Disk) (p : Path) : Except SettingsError Settings :=
  match d.readText p with
  | .error c => .error (.unreadable p c)
  | .ok text =>
    match parse? text with
    | none => .error (.malformed p)
    | some s => .ok s

/-- Look for settings in a directory and those above it. -/
def searchFrom (d : Disk) : Nat → Path → Except SettingsError (Option (Settings × Path))
  | 0, _ => .ok none
  | fuel + 1, folder => do
    let p := folder.join (Path.ofString fileName)
    if d.exists p then return some (← load? d p, p)
    else
      match folder.parent? with
      | none => return none
      | some parent => searchFrom d fuel parent

/-- The settings of a directory or of the nearest one above it that has some, with the path of their file. -/
def search (d : Disk) (folder : Path) : Except SettingsError (Option (Settings × Path)) :=
  searchFrom d (folder.bytes.length + 1) folder

end Settings

end Retarget
