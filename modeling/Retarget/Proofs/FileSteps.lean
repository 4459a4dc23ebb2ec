import Retarget.Proofs.TreeFiles
import Retarget.Proofs.Trails

/-!
# The steps of a file

What is done for a file of a tree, step by step: it is read, its permission bits are found out, a temporary file is
made and filled and gets its permission bits, and at last it is moved to its place. Any step may be refused, and then
another way is taken. What comes of all the steps depends on what the disk answers, and the temporary file has no part
in it.

* `Script`: what is still to be done for a file, by what the disk answers,
* `Script.result`: the outcome, and the file that is put at its place if there is one,
* `Disk.replaceFile_eq`: a file is written exactly if no step is refused, and otherwise the first refusal counts,
* `processFile_eq`: the job of a file gives the result of its script,
* `Disk.Alike`, `Script.result_congr`: disks with the same answers give the same result.
-/

namespace Retarget

/-! ## Answers of a disk -/

/-- The steps of writing a file after a temporary file has been made. -/
inductive Phase
  | fill
  | sync
  | setMode
  | rename
deriving Repr, DecidableEq

namespace Disk

variable {d d' : Disk}

/-- The directory that a temporary file is made in, or why there can be none. -/
@[irreducible] def createPlace (d : Disk) (folder : Path) : Except Refusal Location :=
  let folder := d.currentPath.join folder
  let found : Except Cause Location := do
    checkPath (folder.join ⟨temporaryName 0⟩)
    let l ← d.locate folder
    let m ← d.enter l
    if !d.mayChange m then .error .denied
    d.allows (.create l)
    return l
  found.mapError fun c => ⟨c, some (folder.join ⟨temporaryName 0⟩)⟩

/-- A temporary file gets a fresh name in that directory. -/
theorem createTemporary_eq (d : Disk) (folder : Path) :
    d.createTemporary folder = (d.createPlace folder).map fun l =>
      (l ++ [d.freshName l], d.put (l ++ [d.freshName l]) (.file [] Mode.temporary)) := by
  unfold createTemporary createPlace
  simp only [bind, Except.bind]
  cases checkPath ((d.currentPath.join folder).join ⟨temporaryName 0⟩) with
  | error c => rfl
  | ok u =>
    cases d.locate (d.currentPath.join folder) with
    | error c => rfl
    | ok l =>
      simp only
      cases d.enter l with
      | error c => rfl
      | ok m =>
        simp only
        by_cases hmay : d.mayChange m = true
        · simp only [hmay, Bool.not_true, Bool.false_eq_true, if_false]
          cases d.allows (.create l) <;> rfl
        · simp only [hmay, Bool.not_false, if_true]
          rfl

/-- The place that a file is moved to, or why it cannot be moved. -/
def target (d : Disk) (dest : Path) : Except Cause Location := do
  let a ← d.approach dest
  match a.name with
  | none => .error .busy
  | some n =>
    let l := a.directory ++ [n]
    if a.slash then .error .notDirectory
    if !d.mayChange a.mode then .error .denied
    if d.isDirectoryAt l then .error .isDirectory
    d.allows (.rename l)
    return l

theorem rename_eq (d : Disk) (temp : Location) (dest : Path) :
    d.rename temp dest = (do
      let l ← d.target dest
      let e ← d.entryAt temp
      return (d.erase temp).put l e) := by
  unfold rename target
  cases d.approach dest with
  | error c => rfl
  | ok a =>
    simp only [bind, Except.bind]
    cases a.name with
    | none => rfl
    | some n =>
      simp only
      by_cases hslash : a.slash = true
      · simp [hslash]
      · by_cases hmay : d.mayChange a.mode = true
        · simp only [hslash, hmay, Bool.not_true, Bool.false_eq_true, if_false]
          split
          · next m hm => rw [if_pos (isDirectoryAt_iff.2 ⟨m, hm⟩)]
          · next hother =>
            rw [if_neg fun hdir => (isDirectoryAt_iff.1 hdir).elim hother]
            cases d.allows (.rename (a.directory ++ [n])) <;> rfl
        · simp [hslash, hmay]

/-- Does the device go along with permission bits, if they are known? -/
def allowsMode (d : Disk) : Option Mode → Except Cause Unit
  | none => .ok ()
  | some m => d.allows (.setMode m)

/-- What comes of writing a file from a phase on: the place that it is moved to, or the first refusal. -/
def remaining (d : Disk) (dest : Path) (bytes : Bytes) (m : Option Mode) : Phase → Except Cause Location
  | .rename => d.target dest
  | .setMode => do d.allowsMode m; d.target dest
  | .sync => do d.allows .sync; d.allowsMode m; d.target dest
  | .fill => do d.allows (.fill bytes); d.allows .sync; d.allowsMode m; d.target dest

theorem remaining_fill (d : Disk) (dest : Path) (bytes : Bytes) (m : Option Mode) :
    d.remaining dest bytes m .fill = d.allows (.fill bytes) >>= fun _ => d.remaining dest bytes m .sync := rfl

theorem remaining_sync (d : Disk) (dest : Path) (bytes : Bytes) (m : Option Mode) :
    d.remaining dest bytes m .sync = d.allows .sync >>= fun _ => d.remaining dest bytes m .setMode := rfl

theorem remaining_setMode (d : Disk) (dest : Path) (bytes : Bytes) (m : Option Mode) :
    d.remaining dest bytes m .setMode = d.allowsMode m >>= fun _ => d.remaining dest bytes m .rename := rfl

/-- What comes of writing a file: it depends on the answers to all the steps, and nobody has to look into them here. -/
@[irreducible] def mayWrite (d : Disk) (dest : Path) (bytes : Bytes) (m : Option Mode) : Except Refusal Location := do
  discard (d.createPlace (folderOf dest))
  (d.remaining dest bytes m .fill).mapError fun c => ⟨c, none⟩

theorem allows_congr (h : d'.refuses = d.refuses) : d'.allows = d.allows := by
  funext s
  rw [allows, allows, h]

theorem allowsMode_congr (h : d'.refuses = d.refuses) (m : Option Mode) : d'.allowsMode m = d.allowsMode m := by
  cases m with
  | none => rfl
  | some m => rw [allowsMode, allowsMode, allows_congr h]

/-- A file is moved to a proper name in a directory, and not in the place of a directory. -/
theorem target_spec {dest : Path} {l : Location} (h : d.target dest = .ok l) :
    (∃ k n m, l = k ++ [n] ∧ Path.IsName n ∧ d.get? k = some (.directory m)) ∧ ∀ m, d.get? l ≠ some (.directory m) := by
  obtain ⟨a, ha, h⟩ := bind_eq_ok.1 h
  obtain ⟨hdir, hname⟩ := approach_spec ha
  split at h
  · cases h
  · next n hn =>
    simp only at h
    split at h
    · cases h
    · split at h
      · cases h
      · split at h
        · cases h
        · next hfree =>
          obtain ⟨_, _, h⟩ := bind_eq_ok.1 h
          cases h
          exact ⟨⟨a.directory, n, a.mode, rfl, hname n hn, hdir⟩, fun m hm => hfree (isDirectoryAt_iff.2 ⟨m, hm⟩)⟩

/-- The place that a file is moved to under a name in a directory. -/
theorem target_join {output : Path} {n : Name} {place : Location} (hn : Path.IsName n) (h : d.Leads output place) :
    d.target (output.join ⟨n⟩) = (do
      checkPath (output.join ⟨n⟩)
      let m ← d.enter place
      if Path.nameLimit < n.length then .error .nameTooLong
      else if !d.mayChange m then .error .denied
      else if d.isDirectoryAt (place ++ [n]) then .error .isDirectory
      else do
        d.allows (.rename (place ++ [n]))
        return place ++ [n]) := by
  rw [target, approach_join d output hn, show d.walk .whole linkLimit (d.start output) output.steps = .ok place from h]
  cases checkPath (output.join ⟨n⟩) with
  | error c => rfl
  | ok u =>
    simp only [bind, Except.bind]
    cases d.enter place with
    | error c => rfl
    | ok m =>
      by_cases hlen : Path.nameLimit < n.length
      · simp [hlen]
      · simp only [hlen, if_false, pure, Except.pure, Bool.false_eq_true]

theorem target_join_place {output : Path} {n : Name} {place l : Location} (hn : Path.IsName n)
    (h : d.Leads output place) (ht : d.target (output.join ⟨n⟩) = .ok l) : l = place ++ [n] := by
  rw [target_join hn h] at ht
  obtain ⟨_, _, ht⟩ := bind_eq_ok.1 ht
  obtain ⟨m, _, ht⟩ := bind_eq_ok.1 ht
  split at ht
  · cases ht
  · split at ht
    · cases ht
    · split at ht
      · cases ht
      · obtain ⟨_, _, ht⟩ := bind_eq_ok.1 ht
        exact (Except.ok.inj ht).symm

/-- A file is moved to the same place while the way to its directory stays, and its place is no directory or stays
one. -/
theorem target_congr {output : Path} {n : Name} {place : Location} (hn : Path.IsName n) (h : d.Leads output place)
    (hway : AgreesAt d d' (d.trail .whole linkLimit (d.start output) output.steps))
    (hplace : d'.get? place = d.get? place)
    (hend : d'.isDirectoryAt (place ++ [n]) = d.isDirectoryAt (place ++ [n])) (hc : d'.current = d.current)
    (hp : d'.privileged = d.privileged) (hr : d'.refuses = d.refuses) :
    d'.target (output.join ⟨n⟩) = d.target (output.join ⟨n⟩) := by
  have h' : d'.Leads output place := by
    have hstart : d'.start output = d.start output := by rw [start, start, hc]
    rw [Leads, hstart, walk_congr hway hp]
    exact h
  rw [target_join hn h, target_join hn h', enter_congr hplace hp, mayChange_congr hp, hend, allows_congr hr]

/-- A temporary file makes no difference to where a file is moved to. -/
theorem target_put {output : Path} {n : Name} {place temp : Location} {m : Mode} (hn : Path.IsName n)
    (h : d.Leads output place) (hdir : d.get? place = some (.directory m)) (htemp : temp ≠ [])
    (hvacant : d.get? temp = none) (bytes : Bytes) (mode : Mode) :
    (d.put temp (.file bytes mode)).target (output.join ⟨n⟩) = d.target (output.join ⟨n⟩) := by
  have hother : ∀ k, (∃ e, d.get? k = some e) → (d.put temp (.file bytes mode)).get? k = d.get? k := by
    rintro k ⟨e, he⟩
    rw [get?_put d htemp, if_neg]
    rintro rfl
    rw [hvacant] at he
    cases he
  refine target_congr hn h (fun k hk => hother k ?_) (hother place ⟨_, hdir⟩) ?_ (put_current ..) (put_privileged ..)
    (put_refuses ..)
  · refine trail_occupied ?_ k hk
    rw [show d.walk .whole linkLimit (d.start output) output.steps = .ok place from h]
    simp
  · by_cases he : place ++ [n] = temp
    · rw [isDirectoryAt, isDirectoryAt, he, hvacant, get?_put d htemp, if_pos rfl]
    · rw [isDirectoryAt, isDirectoryAt, get?_put d htemp, if_neg he]

theorem createPlace_congr {folder : Path} (h : AgreesAt d d' (d.pathTrail (d.currentPath.join folder)))
    (hc : d'.current = d.current) (hp : d'.privileged = d.privileged) (hr : d'.refuses = d.refuses) :
    d'.createPlace folder = d.createPlace folder := by
  have hpath : d'.currentPath = d.currentPath := by rw [currentPath, currentPath, hc]
  unfold createPlace
  simp only [hpath, locate_congr h hc hp, mayChange_congr hp, allows_congr hr]
  cases hl : d.locate (d.currentPath.join folder) with
  | error c => rfl
  | ok l => simp only [bind, Except.bind, enter_congr (h l (mem_pathTrail hl)) hp]

theorem modeOf?_congr {p : Path} (h : AgreesAt d d' (d.pathTrail p)) (hc : d'.current = d.current)
    (hp : d'.privileged = d.privileged) : d'.modeOf? p = d.modeOf? p := by
  rw [modeOf?, modeOf?, metadata_congr h hc hp]

/-! ## Writing -/

/-- A temporary file is moved exactly if a file can be moved there at all. -/
theorem finishFile_eq {temp : Location} {dest : Path} (htemp : temp ≠ []) (hvacant : d.get? temp = none)
    (htarget : ∀ bytes m, (d.put temp (.file bytes m)).target dest = d.target dest) (e : Entry) (bytes : Bytes)
    (m : Option Mode) :
    match d.remaining dest bytes m .fill with
    | .ok place => (d.put temp e).finishFile temp dest bytes m = (.ok (), d.put place (.file bytes (writtenMode m)))
    | .error c => ∃ e', (d.put temp e).finishFile temp dest bytes m = (.error c, d.put temp e') := by
  have hallows : ∀ e, (d.put temp e).allows = d.allows := fun e => allows_congr (put_refuses ..)
  unfold remaining finishFile fill
  rw [hallows]
  cases hfill : d.allows (.fill bytes) with
  | error c => exact ⟨e, rfl⟩
  | ok u =>
    -- The device is asked the same on the disk with the temporary file.
    simp only [bind, Except.bind, pure, Except.pure, put_put, hallows]
    cases hsync : d.allows .sync with
    | error c => exact ⟨_, rfl⟩
    | ok u =>
      simp only
      cases hmode : d.allowsMode m with
      | error c =>
        cases m with
        | none => cases hmode
        | some m =>
          rw [allowsMode] at hmode
          simp only [setMode, hallows, hmode, bind, Except.bind]
          exact ⟨_, rfl⟩
      | ok u =>
        have hset : (d.put temp (.file bytes Mode.temporary)).setMode temp bytes m =
            .ok (d.put temp (.file bytes (writtenMode m))) := by
          cases m with
          | none => rfl
          | some m =>
            rw [allowsMode] at hmode
            rw [setMode, hallows, hmode]
            exact congrArg Except.ok (put_put ..)
        have hentry : (d.put temp (.file bytes (writtenMode m))).entryAt temp = .ok (.file bytes (writtenMode m)) := by
          rw [entryAt_eq_ok, get?_put d htemp, if_pos rfl]
        simp only [hset, rename_eq, htarget, hentry, erase_put htemp hvacant]
        cases d.target dest with
        | error c => exact ⟨_, rfl⟩
        | ok place => rfl

/-- A file is written exactly if no step is refused. Otherwise the first refusal is given and nothing happens. -/
theorem replaceFile_eq {dest : Path} (htarget : ∀ temp bytes m, temp ≠ [] → d.get? temp = none →
      (d.put temp (.file bytes m)).target dest = d.target dest) (bytes : Bytes) (m : Option Mode) :
    d.replaceFile dest bytes m = match d.mayWrite dest bytes m with
      | .ok place => (.ok (), d.put place (.file bytes (writtenMode m)))
      | .error r => (.error r, d) := by
  unfold replaceFile mayWrite
  simp only [createTemporary_eq]
  cases d.createPlace (folderOf dest) with
  | error r => rfl
  | ok l =>
    have htemp : l ++ [d.freshName l] ≠ [] := by simp
    have hvacant := d.get?_freshName l
    have hfinish :=
      finishFile_eq htemp hvacant (fun b m => htarget _ b m htemp hvacant) (.file [] Mode.temporary) bytes m
    simp only [Except.map, bind, Except.bind, discard, Functor.mapConst, Function.comp]
    cases hremaining : d.remaining dest bytes m .fill with
    | ok place =>
      simp only [hremaining] at hfinish
      simp only [hfinish, Except.mapError]
    | error c =>
      simp only [hremaining] at hfinish
      obtain ⟨e', he'⟩ := hfinish
      simp only [he', Except.mapError, erase_put htemp hvacant]

end Disk

open Disk

/-! ## Scripts -/

/-- What is still to be done for a file, by what the disk answers to each step. -/
inductive Script
  | done (outcome : FileOutcome)
  | read (next : Except Cause Bytes → Script)
  | findMode (next : Option Mode → Script)
  /-- Write a file and be done, or go on after a refusal. -/
  | write (bytes : Bytes) (mode : Option Mode) (outcome : FileOutcome) (refused : Refusal → Script)

namespace Script

/-- Copy a file for a reason. -/
def copy (reason : CopyReason) : Script :=
  read fun
    | .error c => done (.failed c.message)
    | .ok bytes => findMode fun m => write bytes m (.copied reason) fun r => done (.failed r.message)

/-- Convert a file, or copy it if anything fails. -/
def transform (rules : List Rule) : Script :=
  read fun
    | .error c => copy (.fallback ("read failed: " ++ c.message))
    | .ok bytes =>
      match convertBytes rules bytes with
      | .error reason => copy (.fallback reason)
      | .ok c => findMode fun m => write (Text.encode c.text) m c.outcome fun r =>
        copy (.fallback ("write failed: " ++ r.message))

/-- Convert or copy a file of a tree. -/
def file (rules : List Rule) (options : TreeOptions) (input relative : Path) : Script :=
  if options.exclude.isMatch relative then copy .excluded
  else
    match FileKind.ofPath input with
    | .transformable => transform rules
    | .opaqueData => copy .opaqueData

/-- What comes of a script: the outcome, and the file that is put at its place if there is one. -/
def result (d : Disk) (input dest : Path) : Script → FileOutcome × Option Entry
  | done outcome => (outcome, none)
  | read next => (next (d.read input)).result d input dest
  | findMode next => (next (d.modeOf? input)).result d input dest
  | write bytes m outcome refused =>
    match d.mayWrite dest bytes m with
    | .ok _ => (outcome, some (.file bytes (writtenMode m)))
    | .error r => (refused r).result d input dest

end Script

/-- A disk with a file at a place, if there is one to be put there. -/
def Disk.withFile (d : Disk) (place : Location) : Option Entry → Disk
  | none => d
  | some e => d.put place e

section Jobs

variable {rules : List Rule} {options : TreeOptions} {input dest relative : Path} {place : Location} {w : Workbench}

/-- A file can be moved to one place only, whatever temporary file there is. -/
structure Disk.Moves (d : Disk) (dest : Path) (place : Location) : Prop where
  only : ∀ l, d.target dest = .ok l → l = place
  put : ∀ temp bytes m, temp ≠ [] → d.get? temp = none → (d.put temp (.file bytes m)).target dest = d.target dest

/-- A file that can be written can be moved. -/
theorem Disk.target_of_mayWrite {d : Disk} {bytes : Bytes} {m : Option Mode} {l : Location}
    (h : d.mayWrite dest bytes m = .ok l) : d.target dest = .ok l := by
  unfold Disk.mayWrite at h
  obtain ⟨_, _, h⟩ := bind_eq_ok.1 h
  cases hr : d.remaining dest bytes m .fill with
  | error c => rw [hr] at h; cases h
  | ok l' =>
    rw [hr] at h
    cases h
    obtain ⟨_, _, hr⟩ := bind_eq_ok.1 hr
    obtain ⟨_, _, hr⟩ := bind_eq_ok.1 hr
    obtain ⟨_, _, hr⟩ := bind_eq_ok.1 hr
    exact hr

theorem Disk.Moves.mayWrite {d : Disk} (h : d.Moves dest place) {bytes : Bytes} {m : Option Mode} {l : Location}
    (hw : d.mayWrite dest bytes m = .ok l) : l = place :=
  h.only l (target_of_mayWrite hw)

/-- A job and a script come to the same. -/
def Agree (job : Job FileOutcome) (script : Script) (input dest : Path) (place : Location) : Prop :=
  ∀ w : Workbench, w.disk.Moves dest place →
    (job w).1 = (script.result w.disk input dest).1 ∧
      (job w).2.disk = w.disk.withFile place (script.result w.disk input dest).2

theorem copyFile_eq (reason : CopyReason) : Agree (copyFile input dest reason) (.copy reason) input dest place := by
  intro w h
  unfold copyFile copyWhole
  simp only [Job.bind_apply, Job.act_apply, Script.copy, Script.result]
  cases w.disk.read input with
  | error c => exact ⟨rfl, rfl⟩
  | ok bytes =>
    simp only [replaceFile_eq h.put, Script.result]
    cases hw : w.disk.mayWrite dest bytes (w.disk.modeOf? input) with
    | error r => exact ⟨rfl, rfl⟩
    | ok l =>
      rw [h.mayWrite hw]
      exact ⟨rfl, rfl⟩

theorem transformFile_eq : Agree (transformFile rules input dest) (.transform rules) input dest place := by
  intro w h
  unfold transformFile
  simp only [Job.bind_apply, Job.ask_apply, Script.transform, Script.result]
  cases w.disk.read input with
  | error c => exact copyFile_eq _ (Job.noteFallback input _ w).2 h
  | ok bytes =>
    simp only
    cases convertBytes rules bytes with
    | error reason => exact copyFile_eq _ (Job.noteFallback input _ w).2 h
    | ok c =>
      simp only [Job.bind_apply, Job.ask_apply, Job.write, Job.act_apply, replaceFile_eq h.put, Script.result]
      cases hw : w.disk.mayWrite dest (Text.encode c.text) (w.disk.modeOf? input) with
      | error r => exact copyFile_eq _ (Job.noteFallback input _ w).2 h
      | ok l =>
        rw [h.mayWrite hw]
        exact ⟨rfl, rfl⟩

/-- The job of a file gives the result of its script. -/
theorem processFile_eq :
    Agree (processFile rules options input dest relative) (.file rules options input relative) input dest place := by
  unfold processFile Script.file
  split
  · exact copyFile_eq _
  · cases FileKind.ofPath input with
    | transformable => exact transformFile_eq
    | opaqueData => exact copyFile_eq _

end Jobs

/-- If a script puts a file at its place, the file can be moved there. -/
theorem Script.result_some {d : Disk} {input dest : Path} {s : Script} {e : Entry}
    (h : (s.result d input dest).2 = some e) : ∃ l, d.target dest = .ok l := by
  induction s with
  | done outcome => cases h
  | read next ih => exact ih _ h
  | findMode next ih => exact ih _ h
  | write bytes m outcome refused ih =>
    rw [result] at h
    cases hw : d.mayWrite dest bytes m with
    | ok l => exact ⟨l, target_of_mayWrite hw⟩
    | error r =>
      rw [hw] at h
      exact ih r h

/-! ## Disks with the same answers -/

/-- Two disks give the same answers to the steps of a file. -/
structure Disk.Alike (input dest : Path) (d d' : Disk) : Prop where
  read : d'.read input = d.read input
  mode : d'.modeOf? input = d.modeOf? input
  create : d'.createPlace (folderOf dest) = d.createPlace (folderOf dest)
  target : d'.target dest = d.target dest
  refuses : d'.refuses = d.refuses

namespace Disk.Alike

variable {input dest : Path} {d d' : Disk} (h : Alike input dest d d')
include h

theorem remaining (bytes : Bytes) (m : Option Mode) (phase : Phase) :
    d'.remaining dest bytes m phase = d.remaining dest bytes m phase := by
  cases phase <;> simp only [Disk.remaining, h.target, allowsMode_congr h.refuses, allows_congr h.refuses]

theorem mayWrite (bytes : Bytes) (m : Option Mode) : d'.mayWrite dest bytes m = d.mayWrite dest bytes m := by
  rw [Disk.mayWrite, Disk.mayWrite, h.create, h.remaining]

end Disk.Alike

theorem Script.result_congr {input dest : Path} {d d' : Disk} (h : Disk.Alike input dest d d') (s : Script) :
    s.result d' input dest = s.result d input dest := by
  induction s with
  | done outcome => rfl
  | read next ih =>
    rw [result, result, h.read]
    exact ih _
  | findMode next ih =>
    rw [result, result, h.mode]
    exact ih _
  | write bytes m outcome refused ih =>
    rw [result, result, h.mayWrite]
    cases d.mayWrite dest bytes m with
    | ok l => rfl
    | error r => exact ih r

end Retarget
