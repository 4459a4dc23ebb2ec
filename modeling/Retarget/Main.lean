import Retarget.Command.Run
import Retarget.Disk.Difference
import Retarget.Timestamp

/-!
# The program

The part of the real disk that a command line can touch is read, the command is run on it, and the changes are carried
out. Links to files are read as the files, and links to directories are left alone.
-/

namespace Retarget.Outside

/-! ## What a command line can touch -/

/-- The location of a path, by its text alone. -/
def locationOf (current : Location) (p : Path) : Location :=
  p.components.foldl (fun l c => match c with
    | .root => []
    | .current => l
    | .up => l.dropLast
    | .name n => l ++ [n]) current

/-- The paths in a command line: its words, and the values of its options. -/
def wordPaths (words : List String) : List Path :=
  words.flatMap fun w =>
    let value := String.ofList ((w.toList.dropWhile (· != '=')).drop 1)
    if value.isEmpty then [Path.ofString w] else [Path.ofString w, Path.ofString value]

/-- The locations that a command touches when it works on a path: the path itself, its output and the backups. -/
def touched (current : Location) (p : Path) : List Location :=
  let l := locationOf current p
  match l.reverse with
  | [] => [l]
  | n :: above =>
    [l, above.reverse ++ [Path.outputMarker ++ n], above.reverse ++ [Text.encode Backup.folderName]]

/-- The locations of settings, from a directory upward. -/
def settingsPlaces (current : Location) : List Location :=
  (List.range (current.length + 1)).map fun n => current.take n ++ [Text.encode Settings.fileName]

/-- The locations of rule files that some settings name. -/
def rulePlaces (d : Disk) (p : Path) : List Location :=
  match Settings.load? d p with
  | .error _ => []
  | .ok s => (s.ruleFiles p.parent?).map (locationOf d.current)

/-! ## Reading and writing -/

/-- Put the directories above a location on a disk. -/
def withAncestors (d : Disk) (l : Location) : Disk :=
  (List.range l.length).foldl (fun d n =>
    let above := l.take n
    if above.isEmpty || (d.get? above).isSome then d else d.put above (.directory Mode.newDirectory)) d

/-- Read what stands at a location and below it. -/
partial def readBelow (d : Disk) (l : Location) : IO Disk := do
  try
    let real ← IO.FS.realPath l.toPath.display
    match (← real.metadata).type with
    | .dir =>
      let mut d := if l.isEmpty then d else d.put l (.directory Mode.newDirectory)
      for e in ← real.readDir do
        let linked := (← e.path.symlinkMetadata).type == .symlink
        let isDirectory ← e.path.isDir
        if !(linked && isDirectory) then
          d ← readBelow d (l ++ [Text.encode e.fileName])
      return d
    | .file => return d.put l (.file (← IO.FS.readBinFile real).toList 0o644)
    | _ => return d
  catch _ => return d

/-- Read what stands at some locations and below them. -/
def readAll (d : Disk) (places : List Location) : IO Disk :=
  places.eraseDups.foldlM (fun d l => do
    let found ← readBelow d l
    return if (found.get? l).isSome then withAncestors found l else d) d

/-- Read the part of the disk that a command line can touch. -/
def snapshot (words : List String) : IO Disk := do
  let current := locationOf [] (Path.ofString (← IO.currentDir).toString)
  let start := withAncestors { current := current } (current ++ [[]])
  let paths := wordPaths words
  let d ← readAll start (settingsPlaces current)
  let d ← readAll d (paths.flatMap (touched current))
  let settings := (settingsPlaces current).map Location.toPath ++ paths
  readAll d (settings.flatMap (rulePlaces d))

/-- Carry out a change. A file is written under another name first. -/
def carryOut : Alteration → IO Unit
  | .removeFile l => IO.FS.removeFile l.toPath.display
  | .removeDirectory l => IO.FS.removeDir l.toPath.display
  | .makeDirectory l => IO.FS.createDir l.toPath.display
  | .writeFile l bytes => do
    let dest := l.toPath.display
    let temp := (Location.toPath (l.dropLast ++ [Disk.temporaryName 0])).display
    IO.FS.writeBinFile temp ⟨bytes.toArray⟩
    IO.FS.rename temp dest

/-- The time, in seconds since the start of the year 1970: that of a file just made. -/
def now : IO Nat := do
  let (_, temp) ← IO.FS.createTempFile
  let seconds := (← temp.metadata).modified.sec
  IO.FS.removeFile temp
  return seconds.toNat

/-- Run a command line on the real disk. -/
def run (words : List String) : IO UInt32 := do
  let moment := Timestamp.ofSeconds (← now)
  let colour := (← (← IO.getStdout).isTty) && (← IO.getEnv "NO_COLOR").isNone
  let before ← snapshot words
  let (result, after) := Program.run ⟨colour, moment.render "-"⟩ (words.map Text.encode) before
  (Disk.alterations before after).forM carryOut
  let level : Level := if result.verbose then .debug else .warn
  (← IO.getStdout).putStr (Journal.stdout result.journal)
  (← IO.getStderr).putStr (Journal.stderr (some level) (moment.render ":" ++ "Z") result.journal)
  return UInt32.ofNat result.exit

end Retarget.Outside

/-- Runs the command line. -/
def main (words : List String) : IO UInt32 := Retarget.Outside.run words
