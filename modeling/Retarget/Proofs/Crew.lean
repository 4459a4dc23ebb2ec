import Mathlib.Logic.Hydra
import Mathlib.Logic.Relation
import Retarget.Proofs.SameDisks
import Retarget.Proofs.Workers

/-!
# Files at the same time

A crew works on the files of a directory, one worker for each file. Any worker may take the next step at any time, and
all of them work on the same disk. Temporary files get names that are new.

* `Crew.Step`: one step of one worker; a run of a crew is any sequence of them,
* `Crew.ends`, `Crew.exists_step`: a crew never goes on forever, and stops only when all is done,
* `Settled`: no worker is in the way of another one,
* `Crew.Sound`: what stays true during a run, by `Crew.Sound.step`,
* `Crew.Sound.records_eq`, `Crew.Sound.same`: all runs of a crew come to the same.
-/

namespace Retarget

open Disk

/-- Somebody who works on a file: its name, all that is to be done for it, and how far the work has come. -/
structure Worker where
  name : Name
  task : Script
  stage : Stage

/-- The workers for the files of a directory, in the order of the files, and the disk that they work on. -/
structure Crew where
  workers : List Worker
  disk : Disk

namespace Crew

variable {input output relative : Path} {c c' : Crew}

def names (c : Crew) : List Name := c.workers.map Worker.name

/-- One worker takes one step. -/
inductive Step (input output : Path) : Crew → Crew → Prop
  | mk {c : Crew} {i : Nat} {w : Worker} {name : Name} (hw : c.workers[i]? = some w) (hopen : w.stage.outcome? = none)
    (hfresh : IsFresh c.disk (output.join ⟨w.name⟩) c.names name) :
    Step input output c
      ⟨c.workers.set i
          { w with stage := (w.stage.next (input.join ⟨w.name⟩) (output.join ⟨w.name⟩) name c.disk).1 },
        (w.stage.next (input.join ⟨w.name⟩) (output.join ⟨w.name⟩) name c.disk).2⟩

/-- Any sequence of steps, whoever takes them. -/
abbrev Reaches (input output : Path) : Crew → Crew → Prop := Relation.ReflTransGen (Step input output)

/-- All is done. -/
def Done (c : Crew) : Prop := ∀ w ∈ c.workers, w.stage.outcome? ≠ none

/-- The records of the files that are done, in the order of the files. -/
def records (relative : Path) (c : Crew) : List FileRecord :=
  c.workers.filterMap fun w => w.stage.outcome?.map fun outcome => ⟨relative.join ⟨w.name⟩, outcome⟩

/-! ## Crews come to an end -/

/-- A name that is longer than all those in use. -/
def newName (used : List Name) : Name := List.replicate ((used.map List.length).sum + 1) 97

theorem newName_spec (used : List Name) : Path.IsName (newName used) ∧ newName used ∉ used := by
  have hmem : ∀ b ∈ newName used, b = 97 := fun b hb => (List.mem_replicate.1 hb).2
  refine ⟨⟨by simp [newName], fun hslash => ?_, fun hhere => ?_, fun habove => ?_⟩, fun hused => ?_⟩
  · exact absurd (hmem _ hslash) (by decide)
  · exact absurd (hmem Path.dot (by rw [hhere]; exact List.mem_cons_self)) (by decide)
  · exact absurd (hmem Path.dot (by rw [habove]; exact List.mem_cons_self)) (by decide)
  · have hlen : (newName used).length ≤ (used.map List.length).sum :=
      List.le_sum_of_mem (List.mem_map_of_mem hused)
    rw [newName, List.length_replicate] at hlen
    omega

/-- A name for a temporary file. -/
def spareName (d : Disk) (dest : Path) (names : List Name) : Name :=
  match d.createPlace (folderOf dest) with
  | .ok l => newName (names ++ d.names l)
  | .error _ => newName names

/-- There is always such a name. -/
theorem isFresh_spareName (d : Disk) (dest : Path) (names : List Name) :
    IsFresh d dest names (spareName d dest names) := by
  unfold spareName
  cases hcreate : d.createPlace (folderOf dest) with
  | error r =>
    obtain ⟨hn, hnew⟩ := newName_spec names
    exact ⟨hn, hnew, by simp [hcreate]⟩
  | ok l =>
    obtain ⟨hn, hnew⟩ := newName_spec (names ++ d.names l)
    rw [List.mem_append, not_or, mem_names] at hnew
    refine ⟨hn, hnew.1, fun l' hl' => ?_⟩
    cases hcreate.symm.trans hl'
    simpa using hnew.2

/-- As long as not all is done, somebody can go on. -/
theorem exists_step {w : Worker} (hw : w ∈ c.workers) (hopen : w.stage.outcome? = none) :
    ∃ c', Step input output c c' := by
  obtain ⟨i, hi⟩ := List.mem_iff_getElem?.1 hw
  exact ⟨_, .mk hi hopen (isFresh_spareName c.disk (output.join ⟨w.name⟩) c.names)⟩

/-- A stage comes after another one, whatever the disk answers. -/
def Follows (st' st : Stage) : Prop :=
  st.outcome? = none ∧ ∃ input dest name d, st' = (st.next input dest name d).1

theorem acc_of_next {st : Stage} (h : ∀ input dest name d, Acc Follows (st.next input dest name d).1) :
    Acc Follows st := by
  refine ⟨_, ?_⟩
  rintro _ ⟨_, input, dest, name, d, rfl⟩
  exact h input dest name d

/-- Each phase of writing comes before the next one, and before what is done after a refusal. -/
theorem acc_writing {bytes : Bytes} {m : Option Mode} {outcome : FileOutcome} {refused : Refusal → Script}
    (hrefused : ∀ r, Acc Follows (.ready (refused r))) (phase : Phase) (temp : Location) :
    Acc Follows (.writing phase temp bytes m outcome refused) := by
  have hdone : Acc Follows (.ready (.done outcome)) := ⟨_, fun _ h => by cases h.1⟩
  have hdiscard : ∀ r, Acc Follows (.discarding temp (refused r)) := fun r => acc_of_next fun _ _ _ _ => hrefused r
  -- From the last phase to the first one: each needs the one after it.
  have hrename : Acc Follows (.writing .rename temp bytes m outcome refused) := by
    refine acc_of_next fun input dest name d => ?_
    rw [Stage.next]
    cases d.rename temp dest with
    | error c => exact hdiscard _
    | ok d' => exact hdone
  have hmode : Acc Follows (.writing .setMode temp bytes m outcome refused) := by
    refine acc_of_next fun input dest name d => ?_
    rw [Stage.next]
    cases d.setMode temp bytes m with
    | error c => exact hdiscard _
    | ok d' => exact hrename
  have hsync : Acc Follows (.writing .sync temp bytes m outcome refused) := by
    refine acc_of_next fun input dest name d => ?_
    rw [Stage.next]
    cases d.allows .sync with
    | error c => exact hdiscard _
    | ok u => exact hmode
  cases phase with
  | rename => exact hrename
  | setMode => exact hmode
  | sync => exact hsync
  | fill =>
    refine acc_of_next fun input dest name d => ?_
    rw [Stage.next]
    cases d.fill temp bytes with
    | error c => exact hdiscard _
    | ok d' => exact hsync

theorem acc_ready (s : Script) : Acc Follows (.ready s) := by
  induction s with
  | done outcome => exact ⟨_, fun _ h => by cases h.1⟩
  | read next ih => exact acc_of_next fun input _ _ d => ih (d.read input)
  | findMode next ih => exact acc_of_next fun input _ _ d => ih (d.modeOf? input)
  | write bytes m outcome refused ih =>
    refine acc_of_next fun input dest name d => ?_
    rw [Stage.next]
    cases d.createPlace (folderOf dest) with
    | error r => exact ih r
    | ok l => exact acc_writing ih .fill _

theorem wellFounded_follows : WellFounded Follows := by
  refine ⟨fun st => ?_⟩
  cases st with
  | ready s => exact acc_ready s
  | writing phase temp bytes m outcome refused => exact acc_writing (fun r => acc_ready _) phase temp
  | discarding temp s => exact acc_of_next fun _ _ _ _ => acc_ready s

/-- A crew never goes on forever. Each step takes one stage away and puts a later one in its place. -/
theorem ends (input output : Path) : WellFounded fun c' c : Crew => Step input output c c' := by
  let stages (c : Crew) : Multiset Stage := c.workers.map Worker.stage
  refine Subrelation.wf (r := InvImage (Relation.CutExpand Follows) stages) (fun {c' c} h => ?_)
    (InvImage.wf stages wellFounded_follows.cutExpand)
  cases h with
  | @mk i w name hw hopen hfresh =>
    let st := (w.stage.next (input.join ⟨w.name⟩) (output.join ⟨w.name⟩) name c.disk).1
    refine ⟨{st}, w.stage, fun st' hst' => ⟨hopen, _, _, _, _, Multiset.mem_singleton.1 hst'⟩, ?_⟩
    -- The stages of all the others are the same before and after.
    obtain ⟨hi, hw⟩ := List.getElem?_eq_some_iff.1 hw
    have hworkers : c.workers = c.workers.take i ++ w :: c.workers.drop (i + 1) := by
      rw [← hw, List.getElem_cons_drop, List.take_append_drop]
    show ((c.workers.set i { w with stage := st }).map Worker.stage : Multiset Stage) + {w.stage} =
      (c.workers.map Worker.stage : Multiset Stage) + {st}
    rw [List.set_eq_take_append_cons_drop, if_pos hi]
    nth_rewrite 3 [hworkers]
    simp only [List.map_append, List.map_cons, ← Multiset.coe_add, ← Multiset.cons_coe, ← Multiset.singleton_add]
    ac_rfl

end Crew

/-! ## Nobody is in the way -/

/-- There is something at a place that a file may take the place of. -/
def Disk.Replaceable (d : Disk) (k : Location) : Prop := ∃ e, d.get? k = some e ∧ ∀ m, e ≠ .directory m

/-- Files that can be worked on at the same time, each with what is to be done for it: the counterpart of the directory
is there, and where a file is to be put there is nothing that is passed by the way to the output or by the way to
another file. -/
structure Settled (start : Disk) (input output : Path) (place : Location) (team : List (Name × Script)) : Prop where
  wellFormed : start.WellFormed
  leads : start.Leads output place
  directory : ∃ m, start.get? place = some (.directory m)
  nodup : (team.map Prod.fst).Nodup
  isName : ∀ n ∈ team.map Prod.fst, Path.IsName n
  found : ∀ n s, (n, s) ∈ team → (∃ outcome, s = .done outcome) ∨ ∃ m, start.metadata (input.join ⟨n⟩) = .ok m
  outputWay : ∀ n ∈ team.map Prod.fst, start.Replaceable (place ++ [n]) →
    place ++ [n] ∉ start.trail .whole linkLimit (start.start output) output.steps
  inputWay : ∀ n ∈ team.map Prod.fst, ∀ n' ∈ team.map Prod.fst, n' ≠ n → start.Replaceable (place ++ [n']) →
    ∀ m, start.metadata (input.join ⟨n⟩) = .ok m → place ++ [n'] ∉ start.pathTrail (input.join ⟨n⟩)

namespace Worker

variable (start : Disk) (input output : Path) (place : Location)

/-- What comes of the work on a file. -/
def result (w : Worker) : FileOutcome × Option Entry := w.task.result start (input.join ⟨w.name⟩) (output.join ⟨w.name⟩)

/-- The file has not been put at its place. -/
def Pending (d : Disk) (w : Worker) : Prop :=
  w.stage.result start (input.join ⟨w.name⟩) (output.join ⟨w.name⟩) = w.result start input output ∧
    d.get? (place ++ [w.name]) = start.get? (place ++ [w.name])

/-- The file has been put at its place. -/
def Moved (d : Disk) (w : Worker) : Prop :=
  ∃ outcome e, w.stage = .ready (.done outcome) ∧ w.result start input output = (outcome, some e) ∧
    d.get? (place ++ [w.name]) = some e ∧ ∀ m, start.get? (place ++ [w.name]) ≠ some (.directory m)

end Worker

namespace Crew

/-- What stays true while a crew works: the disk is as it was, but for the temporary files and the files that have been
put at their places. -/
structure Sound (start : Disk) (input output : Path) (place : Location) (team : List (Name × Script)) (c : Crew) :
    Prop where
  tasks : (c.workers.map fun w => (w.name, w.task)) = team
  wellFormed : c.disk.WellFormed
  current : c.disk.current = start.current
  privileged : c.disk.privileged = start.privileged
  refuses : c.disk.refuses = start.refuses
  apart : ∀ (i j : Nat) (w w' : Worker) (k : Location), c.workers[i]? = some w → c.workers[j]? = some w' →
    w.stage.temp? = some k → w'.stage.temp? = some k → i = j
  temp : ∀ w ∈ c.workers, ∀ k, w.stage.temp? = some k →
    start.get? k = none ∧ ∃ l n, k = l ++ [n] ∧ n ∉ team.map Prod.fst
  holds : ∀ w ∈ c.workers, w.stage.Holds c.disk
  frame : ∀ k, (∀ w ∈ c.workers, w.stage.temp? ≠ some k ∧ k ≠ place ++ [w.name]) → c.disk.get? k = start.get? k
  state : ∀ w ∈ c.workers, w.Pending start input output place c.disk ∨ w.Moved start input output place c.disk
  idle : ∀ w ∈ c.workers, ∀ outcome, w.task = .done outcome → w.stage = .ready (.done outcome)

section Sound

variable {start : Disk} {input output : Path} {place : Location} {team : List (Name × Script)} {c : Crew} {i : Nat}
  {w : Worker}

theorem set_cases {ws : List Worker} {i j : Nat} {w' x : Worker} (h : (ws.set i w')[j]? = some x) :
    (j = i ∧ x = w') ∨ (j ≠ i ∧ ws[j]? = some x) := by
  rw [List.getElem?_set] at h
  split at h
  · next he =>
    split at h
    · exact .inl ⟨he.symm, (Option.some.inj h).symm⟩
    · cases h
  · next hne => exact .inr ⟨Ne.symm hne, h⟩

namespace Sound

theorem mem_team (h : c.Sound start input output place team) (hw : w ∈ c.workers) : (w.name, w.task) ∈ team := by
  rw [← h.tasks]
  exact List.mem_map_of_mem (f := fun w => (w.name, w.task)) hw

theorem mem_names (h : c.Sound start input output place team) (hw : w ∈ c.workers) : w.name ∈ team.map Prod.fst :=
  List.mem_map_of_mem (f := Prod.fst) (h.mem_team hw)

theorem names_eq (h : c.Sound start input output place team) : c.names = team.map Prod.fst := by
  rw [← h.tasks, List.map_map]
  rfl

/-- Every worker has a name of its own. -/
theorem name_injective (hs : Settled start input output place team) (h : c.Sound start input output place team)
    {j : Nat} {w' : Worker} (hi : c.workers[i]? = some w) (hj : c.workers[j]? = some w') (he : w.name = w'.name) :
    i = j := by
  have hnodup : c.names.Nodup := h.names_eq ▸ hs.nodup
  have hlen : i < c.names.length := by
    rw [names, List.length_map]
    exact (List.getElem?_eq_some_iff.1 hi).1
  refine (List.getElem?_inj hlen hnodup).1 ?_
  rw [names, List.getElem?_map, List.getElem?_map, hi, hj, Option.map_some, Option.map_some, he]

/-- The disk is as it was at a place that was occupied, if no file has been put there. -/
theorem agrees (h : c.Sound start input output place team) {k : Location} {e : Entry} (he : start.get? k = some e)
    (hk : ∀ w ∈ c.workers, k = place ++ [w.name] → (∀ m, e ≠ .directory m) →
      w.Pending start input output place c.disk) : c.disk.get? k = start.get? k := by
  by_cases hplace : ∃ w ∈ c.workers, k = place ++ [w.name]
  · obtain ⟨w, hw, rfl⟩ := hplace
    rcases h.state w hw with hpending | ⟨outcome, e', _, _, _, hfree⟩
    · exact hpending.2
    · refine (hk w hw rfl fun m hm => hfree m ?_).2
      rw [he, hm]
  · refine h.frame k fun w hw => ⟨fun htemp => ?_, fun hk => hplace ⟨w, hw, hk⟩⟩
    rw [(h.temp w hw k htemp).1] at he
    cases he

/-- The way to the output stays the same. -/
theorem agreesAt_output (hs : Settled start input output place team) (h : c.Sound start input output place team) :
    AgreesAt start c.disk (start.trail .whole linkLimit (start.start output) output.steps) := by
  intro k hk
  have hway : start.walk .whole linkLimit (start.start output) output.steps = .ok place := hs.leads
  obtain ⟨e, he⟩ := trail_occupied (by simp [hway]) k hk
  refine h.agrees he fun w hw hplace hdir => ?_
  subst hplace
  exact (hs.outputWay w.name (h.mem_names hw) ⟨e, he, hdir⟩ hk).elim

theorem get?_place (hs : Settled start input output place team) (h : c.Sound start input output place team) :
    c.disk.get? place = start.get? place := by
  obtain ⟨m, hm⟩ := hs.directory
  exact h.agrees hm fun w _ _ hdir => (hdir m rfl).elim

theorem leads (hs : Settled start input output place team) (h : c.Sound start input output place team) :
    c.disk.Leads output place := by
  have hstart : c.disk.start output = start.start output := by rw [Disk.start, Disk.start, h.current]
  rw [Leads, hstart, walk_congr (h.agreesAt_output hs) h.privileged]
  exact hs.leads

/-- The way to a file stays the same until it is put at its place. -/
theorem agreesAt_input (hs : Settled start input output place team) (h : c.Sound start input output place team)
    (hi : c.workers[i]? = some w) (hpending : w.Pending start input output place c.disk) {m : Metadata}
    (hfound : start.metadata (input.join ⟨w.name⟩) = .ok m) :
    AgreesAt start c.disk (start.pathTrail (input.join ⟨w.name⟩)) := by
  intro k hk
  have hoccupied : ∃ e, start.get? k = some e := by
    obtain ⟨l, e, hl, he, _⟩ := metadata_eq_ok.1 hfound
    rcases List.mem_append.1 hk with hk | hk
    · exact trail_occupied (by simp [(locate_eq_ok.1 hl).2]) k hk
    · rw [hl, List.mem_singleton] at hk
      exact ⟨e, hk ▸ he⟩
  obtain ⟨e, he⟩ := hoccupied
  refine h.agrees he fun w' hw' hplace hdir => ?_
  -- A file at a place on the way is the worker's own, not put there yet, or one that is not in the way.
  subst hplace
  obtain ⟨j, hj⟩ := List.mem_iff_getElem?.1 hw'
  by_cases hname : w'.name = w.name
  · obtain rfl := h.name_injective hs hj hi hname
    cases hi.symm.trans hj
    exact hpending
  · have hw := List.mem_of_getElem? hi
    exact (hs.inputWay w.name (h.mem_names hw) w'.name (h.mem_names hw') hname ⟨e, he, hdir⟩ m hfound hk).elim

theorem pending (h : c.Sound start input output place team) (hi : c.workers[i]? = some w)
    (hopen : w.stage.outcome? = none) : w.Pending start input output place c.disk := by
  rcases h.state w (List.mem_of_getElem? hi) with hpending | ⟨outcome, e, hstage, _⟩
  · exact hpending
  · rw [hstage] at hopen
    cases hopen

/-- The disk gives the same answers as in the beginning, to whoever has not put a file at its place. -/
theorem alike (hs : Settled start input output place team) (h : c.Sound start input output place team)
    (hi : c.workers[i]? = some w) (hopen : w.stage.outcome? = none) :
    Alike (input.join ⟨w.name⟩) (output.join ⟨w.name⟩) start c.disk := by
  have hw := List.mem_of_getElem? hi
  have hn := hs.isName w.name (h.mem_names hw)
  have hpending := h.pending hi hopen
  obtain ⟨m, hdir⟩ := hs.directory
  obtain ⟨found, hfound⟩ : ∃ m, start.metadata (input.join ⟨w.name⟩) = .ok m := by
    rcases hs.found w.name w.task (h.mem_team hw) with ⟨outcome, hdone⟩ | hfound
    · rw [h.idle w hw outcome hdone] at hopen
      cases hopen
    · exact hfound
  have hinput := h.agreesAt_input hs hi hpending hfound
  have houtput := h.agreesAt_output hs
  have hfolder : AgreesAt start c.disk
      (start.pathTrail (start.currentPath.join (folderOf (output.join ⟨w.name⟩)))) := by
    intro k hk
    rcases folder_lookup hs.wellFormed hn hs.leads hdir hk with ⟨m', hm'⟩ | hk
    · exact h.agrees hm' fun _ _ _ hnot => (hnot m' rfl).elim
    · exact houtput k hk
  have hend : c.disk.isDirectoryAt (place ++ [w.name]) = start.isDirectoryAt (place ++ [w.name]) := by
    rw [isDirectoryAt, isDirectoryAt, hpending.2]
  exact ⟨read_congr hinput h.current h.privileged, modeOf?_congr hinput h.current h.privileged,
    createPlace_congr hfolder h.current h.privileged h.refuses,
    target_congr hn hs.leads houtput (h.get?_place hs) hend h.current h.privileged h.refuses, h.refuses⟩

/-- A temporary file is never at the place of a file. -/
theorem place_ne (h : c.Sound start input output place team) (hw : w ∈ c.workers) {l : Location} {n : Name}
    (hn : n ∉ team.map Prod.fst) : place ++ [w.name] ≠ l ++ [n] := by
  intro he
  cases (List.append_inj' he rfl).2
  exact hn (h.mem_names hw)

section Effect

variable {d : Disk} {st : Stage} (hs : Settled start input output place team)
  (h : c.Sound start input output place team) (hi : c.workers[i]? = some w)
  (heffect : Stage.Effect start (input.join ⟨w.name⟩) (output.join ⟨w.name⟩) (place ++ [w.name]) (team.map Prod.fst)
    c.disk w.stage d st)
include h hi heffect

/-- There was nothing in the beginning where there is a temporary file. -/
theorem new_temp {k : Location} (hk : st.temp? = some k) :
    start.get? k = none ∧ ∃ l n, k = l ++ [n] ∧ n ∉ team.map Prod.fst := by
  rcases heffect.temp k hk with hold | ⟨hvacant, l, n, rfl, hn⟩
  · exact h.temp w (List.mem_of_getElem? hi) k hold
  · refine ⟨?_, l, n, rfl, hn⟩
    rw [← h.frame, hvacant]
    intro x hx
    refine ⟨fun htemp => ?_, (h.place_ne hx hn).symm⟩
    obtain ⟨bytes, m, hfile⟩ := (h.holds x hx).file htemp
    rw [hvacant] at hfile
    cases hfile

/-- The temporary files of the others stay as they are. -/
theorem keeps_temp {j : Nat} {x : Worker} (hne : j ≠ i) (hj : c.workers[j]? = some x) {k : Location}
    (hk : x.stage.temp? = some k) : st.temp? ≠ some k ∧ d.get? k = c.disk.get? k := by
  have hx := List.mem_of_getElem? hj
  have hold : w.stage.temp? ≠ some k := fun hwk => hne (h.apart j i x w k hj hi hk hwk)
  have hst : st.temp? ≠ some k := by
    intro hst
    rcases heffect.temp k hst with hwk | ⟨hvacant, _⟩
    · exact hold hwk
    · obtain ⟨bytes, m, hfile⟩ := (h.holds x hx).file hk
      rw [hvacant] at hfile
      cases hfile
  obtain ⟨_, l, n, rfl, hn⟩ := h.temp x hx k hk
  exact ⟨hst, heffect.frame _ hold hst (h.place_ne (List.mem_of_getElem? hi) hn).symm⟩

include hs in
/-- The places of the other files stay as they are. -/
theorem keeps_place {j : Nat} {x : Worker} (hne : j ≠ i) (hj : c.workers[j]? = some x) :
    d.get? (place ++ [x.name]) = c.disk.get? (place ++ [x.name]) := by
  have hx := List.mem_of_getElem? hj
  refine heffect.frame _ (fun hk => ?_) (fun hk => ?_) fun he => hne ?_
  · obtain ⟨_, l, n, he, hn⟩ := h.temp w (List.mem_of_getElem? hi) _ hk
    exact h.place_ne hx hn he
  · obtain ⟨_, l, n, he, hn⟩ := h.new_temp hi heffect hk
    exact h.place_ne hx hn he
  · refine h.name_injective hs hj hi ?_
    simpa using he

include hs in
/-- What happens to one worker leaves all the others as they are. -/
theorem update (hopen : w.stage.outcome? = none) :
    Sound start input output place team ⟨c.workers.set i { w with stage := st }, d⟩ := by
  have hw := List.mem_of_getElem? hi
  have hlt := (List.getElem?_eq_some_iff.1 hi).1
  have hpending := h.pending hi hopen
  have hother : ∀ {x : Worker}, x ∈ c.workers.set i { w with stage := st } →
      x = { w with stage := st } ∨ ∃ j, j ≠ i ∧ c.workers[j]? = some x := by
    intro x hx
    obtain ⟨j, hj⟩ := List.mem_iff_getElem?.1 hx
    rcases set_cases hj with ⟨_, rfl⟩ | ⟨hne, hold⟩
    · exact .inl rfl
    · exact .inr ⟨j, hne, hold⟩
  refine ⟨?tasks, heffect.wellFormed, heffect.current.trans h.current, heffect.privileged.trans h.privileged,
    heffect.refuses.trans h.refuses, ?apart, ?temp, ?holds, ?frame, ?state, ?idle⟩
  case tasks =>
    rw [List.map_set, ← h.tasks]
    refine List.ext_getElem? fun j => ?_
    rw [List.getElem?_set]
    split
    · next he =>
      rw [if_pos (by simpa using hlt), ← he, List.getElem?_map, hi]
      rfl
    · rfl
  case apart =>
    intro j j' x x' k hj hj' hk hk'
    rcases set_cases hj with ⟨hji, rfl⟩ | ⟨hne, hold⟩ <;> rcases set_cases hj' with ⟨hji', rfl⟩ | ⟨hne', hold'⟩
    · rw [hji, hji']
    · exact ((h.keeps_temp hi heffect hne' hold' hk').1 hk).elim
    · exact ((h.keeps_temp hi heffect hne hold hk).1 hk').elim
    · exact h.apart j j' x x' k hold hold' hk hk'
  case temp =>
    intro x hx k hk
    rcases hother hx with rfl | ⟨j, _, hj⟩
    · exact h.new_temp hi heffect hk
    · exact h.temp x (List.mem_of_getElem? hj) k hk
  case holds =>
    intro x hx
    rcases hother hx with rfl | ⟨j, hne, hj⟩
    · exact heffect.holds
    · exact (h.holds x (List.mem_of_getElem? hj)).congr fun k hk => (h.keeps_temp hi heffect hne hj hk).2
  case frame =>
    intro k hk
    obtain ⟨hst, hplace⟩ := hk { w with stage := st } (List.mem_set hlt _)
    -- Where the temporary file was there is nothing again, as in the beginning.
    by_cases hold : w.stage.temp? = some k
    · rw [heffect.gone k hold hst, (h.temp w hw k hold).1]
    · rw [heffect.frame k hold hst hplace]
      refine h.frame k fun x hx => ?_
      obtain ⟨j, hj⟩ := List.mem_iff_getElem?.1 hx
      by_cases hne : j = i
      · subst hne
        cases hi.symm.trans hj
        exact ⟨hold, hplace⟩
      · refine hk x (List.mem_of_getElem? (i := j) ?_)
        rw [List.getElem?_set, if_neg (Ne.symm hne), hj]
  case state =>
    intro x hx
    rcases hother hx with rfl | ⟨j, hne, hj⟩
    · rcases heffect.result with ⟨hresult, hget⟩ | ⟨outcome, e, rfl, hresult, hget, hfree⟩
      · exact .inl ⟨hresult.trans hpending.1, hget.trans hpending.2⟩
      · exact .inr ⟨outcome, e, rfl, hpending.1.symm.trans hresult, hget, hfree⟩
    · have hstays := h.keeps_place hs hi heffect hne hj
      rcases h.state x (List.mem_of_getElem? hj) with ⟨hresult, hget⟩ | ⟨outcome, e, hstage, hresult, hget, hfree⟩
      · exact .inl ⟨hresult, hstays.trans hget⟩
      · exact .inr ⟨outcome, e, hstage, hresult, hstays.trans hget, hfree⟩
  case idle =>
    intro x hx outcome htask
    rcases hother hx with rfl | ⟨j, _, hj⟩
    · rw [h.idle w hw outcome htask] at hopen
      cases hopen
    · exact h.idle x (List.mem_of_getElem? hj) outcome htask

end Effect

/-- One step of one worker. -/
theorem step {c' : Crew} (hs : Settled start input output place team) (h : c.Sound start input output place team)
    (hstep : Step input output c c') : c'.Sound start input output place team := by
  cases hstep with
  | @mk i w name hi hopen hfresh =>
    have hw := List.mem_of_getElem? hi
    have hn := hs.isName w.name (h.mem_names hw)
    refine h.update hs hi (Stage.next_effect ?_ hopen (h.names_eq ▸ hfresh)) hopen
    exact ⟨h.alike hs hi hopen, h.wellFormed, h.holds w hw, ⟨place, w.name, rfl, h.mem_names hw⟩,
      fun k hk => (h.temp w hw k hk).2, fun l hl => target_join_place hn hs.leads hl⟩

theorem reach {c' : Crew} (hs : Settled start input output place team) (h : c.Sound start input output place team)
    (hreach : Reaches input output c c') : c'.Sound start input output place team := by
  induction hreach with
  | refl => exact h
  | tail _ hstep ih => exact ih.step hs hstep

/-- What has come of the work on a file when all is done. -/
theorem outcome (h : c.Sound start input output place team) (hdone : c.Done) (hw : w ∈ c.workers) :
    w.stage.outcome? = some (w.result start input output).1 ∧
      c.disk.get? (place ++ [w.name]) = (w.result start input output).2.or (start.get? (place ++ [w.name])) := by
  obtain ⟨outcome, hstage⟩ := Stage.eq_of_outcome? (hdone w hw)
  rcases h.state w hw with ⟨hresult, hget⟩ | ⟨outcome', e, hstage', hresult, hget, _⟩
  · rw [hstage] at hresult
    rw [← hresult, hget, hstage]
    exact ⟨rfl, rfl⟩
  · rw [hresult, hget, hstage']
    exact ⟨rfl, rfl⟩

/-- The records are in the order of the files, and they say what has come of each one. -/
theorem records_eq (h : c.Sound start input output place team) (hdone : c.Done) (relative : Path) :
    c.records relative = team.map fun t =>
      ⟨relative.join ⟨t.1⟩, (t.2.result start (input.join ⟨t.1⟩) (output.join ⟨t.1⟩)).1⟩ := by
  have hone : ∀ w ∈ c.workers, (w.stage.outcome?.map fun outcome => FileRecord.mk (relative.join ⟨w.name⟩) outcome) =
      some ⟨relative.join ⟨w.name⟩, (w.result start input output).1⟩ := by
    intro w hw
    rw [(h.outcome hdone hw).1]
    rfl
  rw [records, List.filterMap_congr hone, ← h.tasks, List.map_map]
  exact congrFun List.filterMap_eq_map _

theorem temp?_of_done (hdone : c.Done) (hw : w ∈ c.workers) : w.stage.temp? = none := by
  obtain ⟨outcome, hstage⟩ := Stage.eq_of_outcome? (hdone w hw)
  rw [hstage]
  rfl

/-- What is on the disk when all is done does not depend on who took which step when. -/
theorem same {c' : Crew} (h : c.Sound start input output place team) (hdone : c.Done)
    (h' : c'.Sound start input output place team) (hdone' : c'.Done) : Same c.disk c'.disk := by
  have hfellow : ∀ {c₁ c₂ : Crew} {w : Worker}, c₁.Sound start input output place team →
      c₂.Sound start input output place team → w ∈ c₁.workers →
      ∃ w' ∈ c₂.workers, w'.name = w.name ∧ w'.result start input output = w.result start input output := by
    intro c₁ c₂ w h₁ h₂ hw
    have hmem := h₁.mem_team hw
    rw [← h₂.tasks] at hmem
    obtain ⟨w', hw', he⟩ := List.mem_map.1 hmem
    obtain ⟨hname, htask⟩ := Prod.mk.inj he
    exact ⟨w', hw', hname, by rw [Worker.result, Worker.result, hname, htask]⟩
  refine ⟨fun k => ?_, h'.current.trans h.current.symm, h'.privileged.trans h.privileged.symm,
    h'.refuses.trans h.refuses.symm⟩
  by_cases hplace : ∃ w ∈ c.workers, k = place ++ [w.name]
  · obtain ⟨w, hw, rfl⟩ := hplace
    obtain ⟨w', hw', hname, hresult⟩ := hfellow h h' hw
    rw [(h.outcome hdone hw).2, ← hname, (h'.outcome hdone' hw').2, hresult]
  · rw [h.frame k fun w hw => ⟨by simp [temp?_of_done hdone hw], fun hk => hplace ⟨w, hw, hk⟩⟩]
    refine h'.frame k fun w' hw' => ⟨by simp [temp?_of_done hdone' hw'], fun hk => ?_⟩
    obtain ⟨w, hw, hname, _⟩ := hfellow h' h hw'
    exact hplace ⟨w, hw, by rw [hk, hname]⟩

end Sound

end Sound

end Crew

end Retarget
