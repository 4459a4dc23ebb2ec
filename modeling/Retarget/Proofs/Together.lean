import Retarget.Proofs.Ancestors
import Retarget.Proofs.Crew

/-!
# The files of a directory, in turn and together

The files of a directory can be dealt with one after another, or all at the same time by a crew. One after another is
itself a way for a crew to work, with every file done at once, so both come to the same.

* `Together`: somebody deals with the files of directories by crews, each of which does its steps in some order,
* `Crew.completes`: whatever a crew has done, it can go on to an end,
* `lastFirst`: one such order, with names for the temporary files (`lastFirst_together`),
* `Crew.Sound.whole`: one worker does all of its work at once,
* `mapM_processMember_sound`: one file after another,
* `Together.same_files`: a crew leaves the same disk and the same records.
-/

namespace Retarget

open Disk

/-! ## Teams -/

/-- What is to be done for a member of a directory that is no directory. -/
def Script.member (rules : List Rule) (options : TreeOptions) (input relative : Path) (m : Member) : Script :=
  match m.isDirectory with
  | .error c => .done (.failed c.message)
  | .ok _ => .file rules options (input.join ⟨m.name⟩) (relative.join ⟨m.name⟩)

/-- The files of a directory, each with what is to be done for it. -/
def team (rules : List Rule) (options : TreeOptions) (input relative : Path) (ms : List Member) :
    List (Name × Script) :=
  ms.map fun m => (m.name, .member rules options input relative m)

/-- Somebody who has not begun. -/
def Worker.new (t : Name × Script) : Worker := ⟨t.1, t.2, .ready t.2⟩

/-- A crew before its first step. -/
def Crew.new (team : List (Name × Script)) (d : Disk) : Crew := ⟨team.map Worker.new, d⟩

/-- Deals with the files of a directory, by the path of the directory, that of its counterpart and the one below the
root of the tree. -/
abbrev FileWork := Path → Path → Path → List Member → Job (List FileRecord)

/-- Files are dealt with by crews: whatever has come of the files of a directory, some sequence of steps leads there. -/
def Together (rules : List Rule) (options : TreeOptions) (files : FileWork) : Prop :=
  ∀ input output relative ms w, ∃ c,
    Crew.Reaches input output (.new (team rules options input relative ms) w.disk) c ∧ c.Done ∧
      (files input output relative ms w).1 = c.records relative ∧ (files input output relative ms w).2.disk = c.disk

/-- Whatever a crew has done, it can be brought to an end. -/
theorem Crew.completes (input output : Path) (c : Crew) : ∃ c', c.Reaches input output c' ∧ c'.Done := by
  induction c using (Crew.ends input output).induction with
  | _ c ih =>
    by_cases hdone : c.Done
    · exact ⟨c, .refl, hdone⟩
    · obtain ⟨w, hw, hopen⟩ : ∃ w ∈ c.workers, w.stage.outcome? = none := by
        simpa [Done] using hdone
      obtain ⟨c₁, hstep⟩ : ∃ c₁, Step input output c c₁ := exists_step hw hopen
      obtain ⟨c', hreach, hend⟩ := ih c₁ hstep
      exact ⟨c', .head hstep hreach, hend⟩

/-! ## The last file first -/

/-- All the steps of a file, one right after another. -/
def Script.alone (input dest : Path) (names : List Name) : Script → Disk → FileOutcome × Disk
  | .done outcome, d => (outcome, d)
  | .read next, d => (next (d.read input)).alone input dest names d
  | .findMode next, d => (next (d.modeOf? input)).alone input dest names d
  | .write bytes m outcome refused, d =>
    match d.createPlace (folderOf dest) with
    | .error r => (refused r).alone input dest names d
    | .ok l =>
      let temp := l ++ [Crew.spareName d dest names]
      match (d.put temp (.file [] Mode.temporary)).finishFile temp dest bytes m with
      | (.ok _, d) => (outcome, d)
      | (.error c, d) => (refused ⟨c, none⟩).alone input dest names (d.erase temp)

/-- Files of a directory one after another, from the last one to the first. -/
def lastFirstFrom (input output relative : Path) (names : List Name) :
    List (Name × Script) → Disk → List FileRecord × Disk
  | [], d => ([], d)
  | (n, s) :: rest, d =>
    let (records, d) := lastFirstFrom input output relative names rest d
    let (outcome, d) := s.alone (input.join ⟨n⟩) (output.join ⟨n⟩) names d
    (⟨relative.join ⟨n⟩, outcome⟩ :: records, d)

/-- The last file of a directory comes first. -/
def lastFirst (rules : List Rule) (options : TreeOptions) : FileWork := fun input output relative ms w =>
  let tasks := team rules options input relative ms
  let (records, d) := lastFirstFrom input output relative (tasks.map Prod.fst) tasks w.disk
  (records, { w with disk := d })

namespace Crew

section Alone

variable {input output relative : Path} {before after : List Worker} {n : Name} {names : List Name} {task : Script}
  {d d' : Disk}

/-- One step of a worker among others. -/
theorem step_at {st st' : Stage} (hnames : before.map Worker.name ++ n :: after.map Worker.name = names)
    (hopen : st.outcome? = none)
    (hnext : st.next (input.join ⟨n⟩) (output.join ⟨n⟩) (spareName d (output.join ⟨n⟩) names) d = (st', d')) :
    Step input output ⟨before ++ ⟨n, task, st⟩ :: after, d⟩ ⟨before ++ ⟨n, task, st'⟩ :: after, d'⟩ := by
  have hall : Crew.names ⟨before ++ ⟨n, task, st⟩ :: after, d⟩ = names := by
    rw [← hnames, Crew.names, List.map_append, List.map_cons]
  have hi : (before ++ ⟨n, task, st⟩ :: after)[before.length]? = some ⟨n, task, st⟩ := by simp
  have hfresh : IsFresh d (output.join ⟨n⟩) (Crew.names ⟨before ++ ⟨n, task, st⟩ :: after, d⟩)
      (spareName d (output.join ⟨n⟩) names) := hall.symm ▸ isFresh_spareName d (output.join ⟨n⟩) names
  have hstep : Step input output ⟨before ++ ⟨n, task, st⟩ :: after, d⟩ _ := .mk hi hopen hfresh
  simpa [hnext] using hstep

/-- A temporary file is filled and moved to its place, or removed after a refusal. -/
theorem reaches_finish (input output : Path) (task : Script) (d : Disk) (temp : Location) (bytes : Bytes)
    (m : Option Mode) (outcome : FileOutcome) (refused : Refusal → Script)
    (hnames : before.map Worker.name ++ n :: after.map Worker.name = names) :
    Reaches input output ⟨before ++ ⟨n, task, .writing .fill temp bytes m outcome refused⟩ :: after, d⟩
      (match d.finishFile temp (output.join ⟨n⟩) bytes m with
      | (.ok _, d') => ⟨before ++ ⟨n, task, .ready (.done outcome)⟩ :: after, d'⟩
      | (.error c, d') => ⟨before ++ ⟨n, task, .ready (refused ⟨c, none⟩)⟩ :: after, d'.erase temp⟩) := by
  -- After a refusal the temporary file goes, whichever phase was refused.
  have hrefused : ∀ {phase : Phase} {c : Cause} {d₁ : Disk},
      (Stage.writing phase temp bytes m outcome refused).next (input.join ⟨n⟩) (output.join ⟨n⟩)
        (spareName d₁ (output.join ⟨n⟩) names) d₁ = (.discarding temp (refused ⟨c, none⟩), d₁) →
      Reaches input output ⟨before ++ ⟨n, task, .writing phase temp bytes m outcome refused⟩ :: after, d₁⟩
        ⟨before ++ ⟨n, task, .ready (refused ⟨c, none⟩)⟩ :: after, d₁.erase temp⟩ :=
    fun h => .head (step_at hnames rfl h) (.single (step_at hnames rfl rfl))
  unfold finishFile
  cases hfill : d.fill temp bytes with
  | error c => exact hrefused (by rw [Stage.next, hfill])
  | ok d₁ =>
    refine .head (step_at hnames rfl (by rw [Stage.next, hfill])) ?_
    simp only
    cases hsync : d₁.allows .sync with
    | error c => exact hrefused (by rw [Stage.next, hsync])
    | ok u =>
      refine .head (step_at hnames rfl (by rw [Stage.next, hsync])) ?_
      simp only
      cases hmode : d₁.setMode temp bytes m with
      | error c => exact hrefused (by rw [Stage.next, hmode])
      | ok d₂ =>
        refine .head (step_at hnames rfl (by rw [Stage.next, hmode])) ?_
        simp only
        cases hrename : d₂.rename temp (output.join ⟨n⟩) with
        | error c => exact hrefused (by rw [Stage.next, hrename])
        | ok d₃ => exact .single (step_at hnames rfl (by rw [Stage.next, hrename]))

/-- A worker may do all of its steps while the others wait. -/
theorem reaches_alone (s : Script) (hnames : before.map Worker.name ++ n :: after.map Worker.name = names) :
    Reaches input output ⟨before ++ ⟨n, task, .ready s⟩ :: after, d⟩
      ⟨before ++ ⟨n, task, .ready (.done (s.alone (input.join ⟨n⟩) (output.join ⟨n⟩) names d).1)⟩ :: after,
        (s.alone (input.join ⟨n⟩) (output.join ⟨n⟩) names d).2⟩ := by
  induction s generalizing d with
  | done outcome => exact .refl
  | read next ih => exact .head (step_at hnames rfl rfl) (ih _)
  | findMode next ih => exact .head (step_at hnames rfl rfl) (ih _)
  | write bytes m outcome refused ih =>
    unfold Script.alone
    cases hcreate : d.createPlace (folderOf (output.join ⟨n⟩)) with
    | error r => exact .head (step_at hnames rfl (by rw [Stage.next, hcreate])) (ih r)
    | ok l =>
      refine .head (step_at hnames rfl (by rw [Stage.next, hcreate])) ?_
      simp only
      generalize l ++ [spareName d (output.join ⟨n⟩) names] = temp
      have hfinish := reaches_finish input output task (d.put temp (.file [] Mode.temporary)) temp bytes m outcome
        refused hnames
      split at hfinish
      · exact hfinish
      · exact hfinish.trans (ih _)

end Alone

end Crew

/-- The workers of the last files do all of their steps first. -/
theorem lastFirstFrom_reaches (input output relative : Path) (names : List Name) (tasks : List (Name × Script))
    (d : Disk) :
    ∃ ws : List Worker, (∀ x ∈ ws, x.stage.outcome? ≠ none) ∧ ws.map Worker.name = tasks.map Prod.fst ∧
      (lastFirstFrom input output relative names tasks d).1 = Crew.records relative ⟨ws, d⟩ ∧
      ∀ before : List Worker, before.map Worker.name ++ tasks.map Prod.fst = names →
        Crew.Reaches input output ⟨before ++ tasks.map .new, d⟩
          ⟨before ++ ws, (lastFirstFrom input output relative names tasks d).2⟩ := by
  induction tasks with
  | nil => exact ⟨[], by simp, rfl, rfl, fun _ _ => .refl⟩
  | cons t rest ih =>
    obtain ⟨n, s⟩ := t
    obtain ⟨ws, hdone, hnames, hrecords, hreach⟩ := ih
    let last := s.alone (input.join ⟨n⟩) (output.join ⟨n⟩) names (lastFirstFrom input output relative names rest d).2
    refine ⟨⟨n, s, .ready (.done last.1)⟩ :: ws, ?_, by rw [List.map_cons, List.map_cons, hnames], ?_,
      fun before hall => ?_⟩
    · intro x hx
      rcases List.mem_cons.1 hx with rfl | hx
      · simp [Stage.outcome?]
      · exact hdone x hx
    · show FileRecord.mk (relative.join ⟨n⟩) last.1 :: (lastFirstFrom input output relative names rest d).1 = _
      rw [hrecords]
      rfl
    · have hothers := hreach (before ++ [.new (n, s)]) (by simpa [Worker.new] using hall)
      rw [← List.append_cons, ← List.append_cons] at hothers
      refine hothers.trans (Crew.reaches_alone s ?_)
      rw [hnames]
      exact hall

/-- The last file first is a way for crews to work. -/
theorem lastFirst_together (rules : List Rule) (options : TreeOptions) :
    Together rules options (lastFirst rules options) := by
  intro input output relative ms w
  obtain ⟨ws, hdone, _, hrecords, hreach⟩ := lastFirstFrom_reaches input output relative
    ((team rules options input relative ms).map Prod.fst) (team rules options input relative ms) w.disk
  exact ⟨⟨ws, _⟩, hreach [] rfl, hdone, hrecords, rfl⟩

/-! ## One file after another -/

namespace Crew

variable {start : Disk} {input output : Path} {place : Location} {tasks : List (Name × Script)}

/-- A crew begins on a disk with the same on it. -/
theorem Sound.begin {d : Disk} (hsame : Same start d) (hd : d.WellFormed) :
    (Crew.new tasks d).Sound start input output place tasks := by
  have hready : ∀ w ∈ (Crew.new tasks d).workers, w.stage = .ready w.task := by
    intro w hw
    obtain ⟨t, _, rfl⟩ := List.mem_map.1 hw
    rfl
  have hidle : ∀ w ∈ (Crew.new tasks d).workers, w.stage.temp? = none := by
    intro w hw
    rw [hready w hw]
    rfl
  refine ⟨?tasks, hd, hsame.current, hsame.privileged, hsame.refuses, ?apart, ?temp, ?holds, fun k _ => hsame.get k,
    ?state, ?idle⟩
  case tasks =>
    show (tasks.map Worker.new).map _ = tasks
    rw [List.map_map]
    exact List.map_id _
  case apart =>
    intro i j w w' k hi _ hk _
    rw [hidle w (List.mem_of_getElem? hi)] at hk
    cases hk
  case temp =>
    intro w hw k hk
    rw [hidle w hw] at hk
    cases hk
  case holds =>
    intro w hw
    rw [hready w hw]
    trivial
  case state =>
    intro w hw
    exact .inl ⟨by rw [hready w hw]; rfl, hsame.get _⟩
  case idle =>
    intro w hw outcome htask
    rw [hready w hw, htask]

/-- A worker that has not begun does all of its work at once. -/
theorem Sound.whole {c : Crew} {i : Nat} {w : Worker} (hs : Settled start input output place tasks)
    (h : c.Sound start input output place tasks) (hi : c.workers[i]? = some w) (hready : w.stage = .ready w.task)
    (hopen : w.stage.outcome? = none) :
    Sound start input output place tasks
      ⟨c.workers.set i { w with stage := .ready (.done (w.result c.disk input output).1) },
        c.disk.withFile (place ++ [w.name]) (w.result c.disk input output).2⟩ := by
  have hn := hs.isName w.name (h.mem_names (List.mem_of_getElem? hi))
  have hpending := h.pending hi hopen
  have hresult : w.result c.disk input output = w.result start input output :=
    Script.result_congr (h.alike hs hi hopen) w.task
  have hstage : w.stage.result start (input.join ⟨w.name⟩) (output.join ⟨w.name⟩) = w.result start input output :=
    hpending.1
  refine h.update hs hi ?_ hopen
  -- The temporary file is gone again, so the work as a whole changes the place of the file at most.
  cases he : (w.result c.disk input output).2 with
  | none =>
    refine ⟨h.wellFormed, rfl, rfl, rfl, fun _ _ _ _ => rfl, ?_, ?_, trivial, .inl ⟨?_, rfl⟩⟩
    · intro k hk
      rw [hready] at hk
      cases hk
    · intro k hk
      cases hk
    · rw [hstage, ← hresult, ← Prod.mk.eta (p := w.result c.disk input output), he]
      rfl
  | some e =>
    obtain ⟨l, hl⟩ := Script.result_some he
    obtain rfl := target_join_place hn (h.leads hs) hl
    obtain ⟨⟨k, n, m, hplace, _, hdir⟩, hfree⟩ := target_spec hl
    obtain ⟨rfl, _⟩ := List.append_inj' hplace rfl
    have hne : place ++ [w.name] ≠ [] := by simp
    refine ⟨h.wellFormed.put hdir hn hfree, put_current .., put_privileged .., put_refuses .., ?frame, ?gone, ?temp,
      trivial, .inr ⟨_, e, rfl, ?result, ?get, ?free⟩⟩
    case frame =>
      intro k _ _ hk
      exact (get?_put c.disk hne e k).trans (if_neg hk)
    case gone =>
      intro k hk
      rw [hready] at hk
      cases hk
    case temp =>
      intro k hk
      cases hk
    case result => rw [hstage, ← hresult, ← he]
    case get => exact (get?_put c.disk hne e _).trans (if_pos rfl)
    case free => exact fun m' hm' => hfree m' (hpending.2.trans hm')

theorem Sound.moves {c : Crew} {n : Name} (hs : Settled start input output place tasks)
    (h : c.Sound start input output place tasks) (hn : Path.IsName n) :
    c.disk.Moves (output.join ⟨n⟩) (place ++ [n]) := by
  obtain ⟨m, hdir⟩ := hs.directory
  rw [← h.get?_place hs] at hdir
  exact ⟨fun l hl => target_join_place hn (h.leads hs) hl,
    fun temp bytes mode htemp hvacant => target_put hn (h.leads hs) hdir htemp hvacant bytes mode⟩

end Crew

section Turns

variable {rules : List Rule} {options : TreeOptions} {start : Disk} {input output relative : Path} {place : Location}
  {tasks : List (Name × Script)} {w : Workbench}

theorem Script.outcome?_file : (Stage.ready (.file rules options input relative)).outcome? = none := by
  unfold Script.file
  split
  · rfl
  · cases FileKind.ofPath input <;> rfl

/-- The turn of a file. -/
theorem processMember_sound {m : Member} {before after : List Worker} (hs : Settled start input output place tasks)
    (h : Crew.Sound start input output place tasks
      ⟨before ++ .new (m.name, .member rules options input relative m) :: after, w.disk⟩) :
    ∃ x : Worker, x.name = m.name ∧ (∃ outcome, x.stage = .ready (.done outcome) ∧
        (processMember rules options input output relative m w).1 = ⟨relative.join ⟨m.name⟩, outcome⟩) ∧
      Crew.Sound start input output place tasks
        ⟨before ++ x :: after, (processMember rules options input output relative m w).2.disk⟩ := by
  unfold processMember
  unfold Script.member at h
  cases hdir : m.isDirectory with
  | error c =>
    rw [hdir] at h
    exact ⟨_, rfl, ⟨_, rfl, rfl⟩, h⟩
  | ok isDirectory =>
    rw [hdir] at h
    let x := Worker.new (m.name, .file rules options (input.join ⟨m.name⟩) (relative.join ⟨m.name⟩))
    have hx : (before ++ x :: after)[before.length]? = some x := by simp
    have hn : Path.IsName m.name := hs.isName x.name (h.mem_names (List.mem_of_getElem? hx))
    have hwhole := h.whole hs hx rfl Script.outcome?_file
    have hagree : Agree
        (processFile rules options (input.join ⟨m.name⟩) (output.join ⟨m.name⟩) (relative.join ⟨m.name⟩)) x.task
        (input.join ⟨m.name⟩) (output.join ⟨m.name⟩) (place ++ [m.name]) := processFile_eq
    obtain ⟨houtcome, hdisk⟩ := hagree w (h.moves hs hn)
    simp only [Job.bind_apply, Job.pure_apply, houtcome, hdisk]
    refine ⟨{ x with stage := .ready (.done (x.result w.disk input output).1) }, rfl, ⟨_, rfl, rfl⟩, ?_⟩
    have hset : ∀ y, (before ++ x :: after).set before.length y = before ++ y :: after := by
      intro y
      rw [List.set_append_right _ _ (Nat.le_refl _), Nat.sub_self, List.set_cons_zero]
    rw [hset] at hwhole
    exact hwhole

/-- One file after another, as a crew may do it. -/
theorem mapM_processMember_sound {ms : List Member} {before : List Worker}
    (hs : Settled start input output place tasks)
    (h : Crew.Sound start input output place tasks
      ⟨before ++ (team rules options input relative ms).map .new, w.disk⟩) :
    ∃ ws : List Worker, (∀ x ∈ ws, x.stage.outcome? ≠ none) ∧
      (ms.mapM (processMember rules options input output relative) w).1 = Crew.records relative ⟨ws, w.disk⟩ ∧
      Crew.Sound start input output place tasks
        ⟨before ++ ws, (ms.mapM (processMember rules options input output relative) w).2.disk⟩ := by
  induction ms generalizing before w with
  | nil => exact ⟨[], by simp, rfl, h⟩
  | cons m ms ih =>
    obtain ⟨x, hname, ⟨outcome, hstage, hrecord⟩, hsound⟩ := processMember_sound hs h
    rw [List.append_cons] at hsound
    obtain ⟨ws, hdone, hrecords, hall⟩ := ih hsound
    simp only [List.mapM_cons, Job.bind_apply, Job.pure_apply, hrecord, hrecords]
    refine ⟨x :: ws, ?_, ?_, by rw [List.append_cons]; exact hall⟩
    · intro y hy
      rcases List.mem_cons.1 hy with rfl | hy
      · rw [hstage]
        simp [Stage.outcome?]
      · exact hdone y hy
    · simp [Crew.records, hstage, hname, Stage.outcome?]

end Turns

/-! ## Together -/

/-- Two workbenches with the same on their disks. -/
structure Workbench.Same (w w' : Workbench) : Prop where
  disk : Disk.Same w.disk w'.disk
  wellFormed : w.disk.WellFormed
  wellFormed' : w'.disk.WellFormed

/-- Two jobs have come to the same, whatever they have said. -/
structure SameEnd {α : Type} (r r' : α × Workbench) : Prop where
  value : r'.1 = r.1
  bench : r.2.Same r'.2

/-- A crew comes to the same as one file after another. -/
theorem Together.same_files {rules : List Rule} {options : TreeOptions} {files : FileWork}
    {input output relative : Path} {place : Location} {ms : List Member} {w w' : Workbench}
    (hfiles : Together rules options files)
    (hs : Settled w.disk input output place (team rules options input relative ms)) (hw : w.Same w') :
    SameEnd (ms.mapM (processMember rules options input output relative) w) (files input output relative ms w') := by
  have hbegin : Crew.Sound w.disk input output place (team rules options input relative ms)
      ⟨[] ++ (team rules options input relative ms).map .new, w.disk⟩ := .begin (.refl w.disk) hw.wellFormed
  obtain ⟨ws, hdone, hrecords, hsound⟩ := mapM_processMember_sound hs hbegin
  obtain ⟨c, hreach, hdone', hrecords', hdisk'⟩ := hfiles input output relative ms w'
  have hsound' := (Crew.Sound.begin hw.disk hw.wellFormed').reach hs hreach
  refine ⟨?_, ?_, hsound.wellFormed, ?_⟩
  · calc (files input output relative ms w').1 = c.records relative := hrecords'
      _ = Crew.records relative ⟨ws, _⟩ :=
        (hsound'.records_eq hdone' relative).trans (hsound.records_eq hdone relative).symm
      _ = _ := hrecords.symm
  · rw [hdisk']
    exact hsound.same hdone hsound' hdone'
  · rw [hdisk']
    exact hsound'.wellFormed

end Retarget
