import Retarget.Disk.Write

/-!
# Jobs and their journals

A job works on a disk and keeps a journal: notices about what it does, and what it prints. Nothing of it depends on
the outside, so the journal and the disk at the end are all that a job leaves behind.

* `Workbench`: the disk and the journal,
* `Job`: a computation at a workbench,
* `Journal.stdout`, `Journal.stderr`: what is printed.
-/

namespace Retarget

/-- How important a notice is. -/
inductive Level
  | error
  | warn
  | info
  | debug
deriving Repr, BEq, DecidableEq

namespace Level

def name : Level → String
  | error => "ERROR"
  | warn => "WARN"
  | info => "INFO"
  | debug => "DEBUG"

/-- The level of a name in lower case. -/
def ofName? : String → Option Level
  | "error" => some error
  | "warn" => some warn
  | "info" => some info
  | "debug" => some debug
  | _ => none

/-- The larger the number, the less important the notice. -/
def rank : Level → Nat
  | error => 0
  | warn => 1
  | info => 2
  | debug => 3

end Level

/-- A notice: a message, and names with values. -/
structure Notice where
  level : Level
  message : String
  fields : List (String × String)
deriving Repr, BEq, DecidableEq

/-- A notice on one line, after the time. The level takes five characters. -/
def Notice.render (time : String) (n : Notice) : String :=
  let level := n.level.name
  let padding := String.ofList (List.replicate (5 - level.length) ' ')
  let fields := n.fields.map fun (k, v) => s!" {k}={v}"
  s!"{time} {padding}{level} {n.message}" ++ String.join fields ++ "\n"

/-- Something that a job says. -/
inductive Utterance
  | notice (n : Notice)
  | out (text : String)
  | err (text : String)
deriving Repr, BEq, DecidableEq

namespace Journal

/-- All that is printed as a result. -/
def stdout (journal : List Utterance) : String :=
  String.join (journal.filterMap fun
    | .out text => some text
    | _ => none)

/-- All that is printed as a message, with notices up to a level. -/
def stderr (level : Option Level) (time : String) (journal : List Utterance) : String :=
  String.join (journal.filterMap fun
    | .out _ => none
    | .err text => some text
    | .notice n => if level.any (n.level.rank ≤ ·.rank) then some (n.render time) else none)

end Journal

/-- A disk and what has been said so far, last things first. -/
structure Workbench where
  disk : Disk
  said : List Utterance := []

namespace Workbench

/-- What has been said, in order. -/
def journal (w : Workbench) : List Utterance := w.said.reverse

end Workbench

/-- A computation at a workbench. -/
abbrev Job := StateM Workbench

namespace Job

/-- Look at the disk. -/
def ask {α : Type} (f : Disk → α) : Job α := fun w => (f w.disk, w)

/-- Change the disk. -/
def act {α : Type} (f : Disk → α × Disk) : Job α := fun w =>
  let r := f w.disk
  (r.1, { w with disk := r.2 })

/-- Change the disk in one step, or leave it as it is. -/
def change (f : Disk → Except Cause Disk) : Job (Except Cause Unit) :=
  act fun d => match f d with
    | .ok d => (.ok (), d)
    | .error c => (.error c, d)

def say (u : Utterance) : Job Unit := fun w => ((), { w with said := u :: w.said })

def notice (level : Level) (message : String) (fields : List (String × String)) : Job Unit :=
  say (.notice ⟨level, message, fields⟩)

/-- Print a line as a result. -/
def print (line : String) : Job Unit := say (.out (line ++ "\n"))

/-- Print a line as a message. -/
def printErr (line : String) : Job Unit := say (.err (line ++ "\n"))

/-- Look at the disk in a job that may fail. -/
def look {α ε : Type} (f : Disk → α) : ExceptT ε Job α := ExceptT.lift (ask f)

/-- A job that may fail, from one that gives a result or a cause. -/
def orFail {α ε ε' : Type} (job : Job (Except ε α)) (f : ε → ε') : ExceptT ε' Job α := do
  match ← job with
  | .ok a => return a
  | .error e => throw (f e)

end Job

end Retarget
