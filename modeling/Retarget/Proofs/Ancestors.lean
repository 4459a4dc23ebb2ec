import Mathlib.Logic.Relation
import Retarget.Proofs.InputKept
import Retarget.Proofs.Resolution

/-!
# The way down a tree

A walk goes down from directory to directory, through links as well, and keeps the canonical paths of the directories
on its way. None of them comes twice, so a cycle of links is left where it closes, and the walk never gets deeper than
there are directories.

* `Visit`: a directory that a walk comes to, and `Visit.Descends`: the next one down,
* `visitDirectory_congr`: a walk goes down there and nowhere else,
* `Visit.Sound`: what is true of every directory that a walk comes to, by `Visit.Sound.step`,
* `Visit.Sound.run_add`: the depth of a walk is never exhausted,
* `walk_visits`: all this for a whole walk,
* `walk_astray`: what links in an output, or to one that is still to be made, can do to a walk.
-/

namespace Retarget

open Disk

/-! ## One directory -/

/-- A directory that a walk comes to: its path, those of its counterpart and below the root of the tree, the canonical
paths of the directories on the way to it, and how deep the walk may still go. -/
structure Visit where
  depth : Nat
  input : Path
  output : Path
  relative : Path
  ancestors : List Path
  bench : Workbench

/-- Goes down into a directory, as a walk does. -/
abbrev Descent := Path → Path → Path → List Path → Job Report

section Directory

variable (rules : List Rule) (options : TreeOptions) (descend : Descent)

/-- Deal with a directory in a directory. -/
def Visit.folder (v : Visit) (n : Name) : Job Report :=
  processFolder descend (v.input.join ⟨n⟩) (v.output.join ⟨n⟩) (v.relative.join ⟨n⟩) v.ancestors

/-- Deal with one directory, and go down from it with `descend`. -/
def visitDirectory (v : Visit) : Report × Workbench :=
  match v.bench.disk.members v.input with
  | .error c =>
    (.ofFailure v.relative c.message,
      (Job.notice .warn "cannot read directory" [("dir", v.input.display), ("error", c.message)] v.bench).2)
  | .ok members =>
    let folders := (members.filter Member.isFolder).map Member.name
    let files := (members.filter fun m => !m.isFolder).mapM
      (processMember rules options v.input v.output v.relative) v.bench
    let below := processFolders (v.folder descend) folders files.2
    ({ files := files.1 : Report } ++ below.1, (Job.notice .debug "processed directory"
      [("dir", v.input.display), ("files", toString files.1.length), ("folders", toString folders.length)] below.2).2)

/-- The walk from a directory on. -/
def Visit.run (v : Visit) : Report × Workbench :=
  walkTree rules options v.depth v.input v.output v.relative v.ancestors v.bench

/-- The turn of a directory in a directory comes after all the files and the directories with lesser names. -/
inductive Visit.Turn (v : Visit) : Name → Workbench → Prop
  | mk {members : List Member} {before after : List Name} {n : Name}
    (hmembers : v.bench.disk.members v.input = .ok members)
    (hfolders : (members.filter Member.isFolder).map Member.name = before ++ n :: after) :
    Visit.Turn v n (processFolders (v.folder descend) before
      ((members.filter fun m => !m.isFolder).mapM
        (processMember rules options v.input v.output v.relative) v.bench).2).2

end Directory

/-- A walk goes down from a directory to a directory in it, when its turn has come, if it is not one of those on the way
and its counterpart can be made. -/
inductive Visit.Descends (rules : List Rule) (options : TreeOptions) : Visit → Visit → Prop
  | mk {v : Visit} {depth : Nat} {n : Name} {w : Workbench} {canonical : Path} {d : Disk} (hdepth : v.depth = depth + 1)
    (hturn : v.Turn rules options (walkTree rules options depth) n w)
    (hcanonical : w.disk.canonicalize (v.input.join ⟨n⟩) = .ok canonical)
    (hnew : v.ancestors.contains canonical = false)
    (hmake : w.disk.makeDirectories (v.output.join ⟨n⟩) = (.ok (), d)) :
    Visit.Descends rules options v ⟨depth, v.input.join ⟨n⟩, v.output.join ⟨n⟩, v.relative.join ⟨n⟩,
      v.ancestors ++ [canonical], { w with disk := d }⟩

/-- The directories that a walk comes to from one on. -/
abbrev Visit.Reaches (rules : List Rule) (options : TreeOptions) : Visit → Visit → Prop :=
  Relation.ReflTransGen (Visit.Descends rules options)

section Walk

variable {rules : List Rule} {options : TreeOptions} {descend : Descent} {v v' : Visit} {w : Workbench} {n : Name}
  {depth : Nat}

theorem Visit.run_succ (depth : Nat) (h : v.depth = depth + 1) :
    v.run rules options = visitDirectory rules options (walkTree rules options depth) v := by
  rw [run, h, walkTree, visitDirectory]
  simp only [Job.bind_apply, Job.ask_apply]
  cases v.bench.disk.members v.input <;> rfl

/-- Directories are dealt with in the same way if each one is when its turn has come. -/
theorem processFolders_congr {f g : Name → Job Report} {ns : List Name}
    (h : ∀ before n after, ns = before ++ n :: after →
      g n (processFolders f before w).2 = f n (processFolders f before w).2) :
    processFolders g ns w = processFolders f ns w := by
  induction ns generalizing w with
  | nil => rfl
  | cons n rest ih =>
    have hfirst : g n w = f n w := h [] n rest rfl
    have hrest : processFolders g rest (f n w).2 = processFolders f rest (f n w).2 := by
      refine ih fun before k after he => ?_
      exact h (n :: before) k after (by rw [he, List.cons_append])
    simp only [processFolders, Job.bind_apply, hfirst, hrest]

/-- What is made of a directory depends on its own turn only, and on what is below it if the walk goes down. -/
theorem processFolder_congr {descend' : Descent} {input output relative : Path} {ancestors : List Path}
    (h : ∀ canonical d, w.disk.canonicalize input = .ok canonical → ancestors.contains canonical = false →
      w.disk.makeDirectories output = (.ok (), d) →
      descend' input output relative (ancestors ++ [canonical]) { w with disk := d } =
        descend input output relative (ancestors ++ [canonical]) { w with disk := d }) :
    processFolder descend' input output relative ancestors w =
      processFolder descend input output relative ancestors w := by
  unfold processFolder
  simp only [Job.bind_apply, Job.ask_apply]
  cases hcanonical : w.disk.canonicalize input with
  | error c => rfl
  | ok canonical =>
    simp only
    cases hcycle : ancestors.contains canonical with
    | true => rfl
    | false =>
      simp only [Bool.false_eq_true, if_false, Job.bind_apply, Job.act_apply]
      rcases hmake : w.disk.makeDirectories output with ⟨c | u, d⟩
      · rfl
      · simp only [Job.bind_apply, h canonical d hcanonical hcycle hmake]

/-- A walk goes down from a directory at the turns of the directories in it, and nowhere else. -/
theorem visitDirectory_congr {descend' : Descent}
    (h : ∀ n w canonical d, v.Turn rules options descend n w →
      w.disk.canonicalize (v.input.join ⟨n⟩) = .ok canonical → v.ancestors.contains canonical = false →
      w.disk.makeDirectories (v.output.join ⟨n⟩) = (.ok (), d) →
      descend' (v.input.join ⟨n⟩) (v.output.join ⟨n⟩) (v.relative.join ⟨n⟩) (v.ancestors ++ [canonical])
          { w with disk := d } =
        descend (v.input.join ⟨n⟩) (v.output.join ⟨n⟩) (v.relative.join ⟨n⟩) (v.ancestors ++ [canonical])
          { w with disk := d }) :
    visitDirectory rules options descend' v = visitDirectory rules options descend v := by
  unfold visitDirectory
  cases hmembers : v.bench.disk.members v.input with
  | error c => rfl
  | ok ms =>
    have hfolders : ∀ w', w' = ((ms.filter fun m => !m.isFolder).mapM
        (processMember rules options v.input v.output v.relative) v.bench).2 →
        processFolders (v.folder descend') ((ms.filter Member.isFolder).map Member.name) w' =
          processFolders (v.folder descend) ((ms.filter Member.isFolder).map Member.name) w' := by
      rintro w' rfl
      refine processFolders_congr fun before n after he => processFolder_congr fun canonical d hc hnew hmake => ?_
      exact h n _ canonical d (.mk hmembers he) hc hnew hmake
    simp only [hfolders _ rfl]

/-! ## What a walk keeps on its way -/

/-- What is true of a directory that a walk comes to, when the walk began at a disk with the canonical path of its root,
and writes at or below a place. -/
structure Visit.Sound (rules : List Rule) (options : TreeOptions) (top : Location) (start : Disk) (root : Path)
    (v : Visit) : Prop where
  ready : ∃ place, top <+: place ∧ (Site.mk rules options v.input v.output v.relative place).Ready v.bench.disk
  overlay : Overlays top start v.bench.disk
  checked : checkPath v.input = .ok ()
  /-- The depth makes up for the length of the path. -/
  deep : Path.lengthLimit < v.input.bytes.length + v.depth
  first : v.ancestors.head? = some root
  last : ∃ p, v.ancestors.getLast? = some p ∧ v.bench.disk.canonicalize v.input = .ok p
  nodup : v.ancestors.Nodup
  directories : ∀ p ∈ v.ancestors, ∃ l m, p = Location.toPath l ∧ v.bench.disk.get? l = some (.directory m)

theorem Disk.Overlays.locate {d d' : Disk} {top l : Location} {p : Path} {m : Mode} (h : Overlays top d d')
    (hl : d.locate p = .ok l) (hdir : d.get? l = some (.directory m)) : d'.locate p = .ok l :=
  locate_ways h.ways h.current h.privileged hl hdir

namespace Visit.Sound

variable {top : Location} {start : Disk} {root : Path}

/-- What the disk is when the turn of a directory has come. -/
theorem turn (h : v.Sound rules options top start root)
    (hturn : v.Turn rules options (walkTree rules options depth) n w) :
    Path.IsName n ∧ Overlays top v.bench.disk w.disk ∧
      ∃ l m, w.disk.locate (v.input.join ⟨n⟩) = .ok l ∧ w.disk.get? l = some (.directory m) := by
  obtain ⟨place, htop, hs⟩ := h.ready
  have hfree := h.overlay.linkFree
  cases hturn with
  | @mk ms before after n hmembers hfolders =>
    obtain ⟨_, hname⟩ := members_spec hs.wellFormed hmembers
    have hfolder : ∀ k ∈ before ++ n :: after, ∃ m ∈ ms, m.isFolder = true ∧ m.name = k := by
      intro k hk
      rw [← hfolders] at hk
      obtain ⟨m, hm, rfl⟩ := List.mem_map.1 hk
      exact ⟨m, (List.mem_filter.1 hm).1, (List.mem_filter.1 hm).2, rfl⟩
    let files := (ms.filter fun m => !m.isFolder).mapM (processMember rules options v.input v.output v.relative) v.bench
    have hfiles : Overlays top v.bench.disk files.2.disk := mapM_processMember_overlays hs hfree htop fun m hm =>
      hname _ (List.mem_map_of_mem (List.mem_filter.1 hm).1)
    have hbefore : Overlays top files.2.disk
        (processFolders (v.folder (walkTree rules options depth)) before files.2).2.disk := by
      refine processFolders_overlays (s := ⟨rules, options, v.input, v.output, v.relative, place⟩)
        (fun k ancestors w hs hfree => ?_) (hs.overlay hfiles) hfiles.linkFree htop fun k hk => ?_
      · exact walkTree_overlays depth ancestors hs hfree (htop.trans (List.prefix_append _ _))
      · obtain ⟨m, hm, _, rfl⟩ := hfolder k (List.mem_append_left _ hk)
        exact hname _ (List.mem_map_of_mem hm)
    have hover := hfiles.trans hbefore
    obtain ⟨m, hm, hisFolder, rfl⟩ := hfolder n (by simp)
    obtain ⟨l, mode, hl, hdir⟩ := isDirectory_eq_true.1 (members_isFolder hmembers hm hisFolder)
    exact ⟨hname _ (List.mem_map_of_mem hm), hover, l, mode, hover.locate hl hdir, hover.ways _ _ hdir (by simp)⟩

/-- From one directory to the next one down. -/
theorem step (h : v.Sound rules options top start root) (hdown : v.Descends rules options v') :
    v'.Sound rules options top start root := by
  obtain ⟨place, htop, hs⟩ := h.ready
  cases hdown with
  | @mk depth n w canonical d hdepth hturn hcanonical hnew hmake =>
    obtain ⟨hn, hover, l, m, hl, hdir⟩ := h.turn hturn
    obtain rfl : Location.toPath l = canonical := Except.ok.inj ((canonicalize_of_locate hl).symm.trans hcanonical)
    have hs' := hs.overlay hover
    rcases hs'.makeDirectories hover.linkFree htop hn with ⟨d', hmake', hready, hover'⟩ | ⟨c, hmake'⟩
    · obtain rfl : d = d' := (Prod.mk.inj (hmake.symm.trans hmake')).2
      have hall := hover.trans hover'
      have hdir' := hover'.ways _ _ hdir (by simp)
      have hlen := v.input.length_lt_join hn
      refine ⟨⟨place ++ [n], htop.trans (List.prefix_append _ _), hready⟩, h.overlay.trans hall, (locate_eq_ok.1 hl).1,
        ?deep, ?first, ?last, ?nodup, ?directories⟩
      case deep =>
        have := h.deep
        show Path.lengthLimit < (v.input.join ⟨n⟩).bytes.length + depth
        omega
      case first =>
        show (v.ancestors ++ [_]).head? = some root
        rw [List.head?_append, h.first]
        rfl
      case last => exact ⟨_, List.getLast?_concat, canonicalize_of_locate (hover'.locate hl hdir)⟩
      case nodup =>
        refine List.nodup_append.2 ⟨h.nodup, List.nodup_singleton _, fun p hp q hq he => ?_⟩
        rw [he, List.mem_singleton.1 hq] at hp
        have hmem := List.contains_iff_mem.2 hp
        rw [hnew] at hmem
        cases hmem
      case directories =>
        intro p hp
        rcases List.mem_append.1 hp with hp | hp
        · obtain ⟨k, m', rfl, hk⟩ := h.directories p hp
          exact ⟨k, m', rfl, hall.ways _ _ hk (by simp)⟩
        · exact ⟨l, m, List.mem_singleton.1 hp, hdir'⟩
    · cases hmake.symm.trans hmake'

theorem reach (h : v.Sound rules options top start root) (hreach : v.Reaches rules options v') :
    v'.Sound rules options top start root := by
  induction hreach with
  | refl => exact h
  | tail _ hdown ih => exact ih.step hdown

theorem depth_pos (h : v.Sound rules options top start root) : 0 < v.depth := by
  have hlen := (checkPath_eq_ok h.checked).2
  have hdeep := h.deep
  omega

/-- More depth changes nothing. -/
theorem run_add (h : v.Sound rules options top start root) (extra : Nat) :
    Visit.run rules options { v with depth := v.depth + extra } = v.run rules options := by
  obtain ⟨depth, hdepth⟩ := Nat.exists_eq_succ_of_ne_zero (Nat.ne_of_gt h.depth_pos)
  -- The directories below have less depth, and some of it left when the walk comes to them.
  induction depth generalizing v with
  | zero =>
    rw [run_succ 0 hdepth, run_succ (0 + extra) (by simp [hdepth]; omega)]
    show visitDirectory rules options _ v = _
    refine visitDirectory_congr fun n w canonical d hturn hcanonical hnew hmake => ?_
    exact absurd (h.step (.mk hdepth hturn hcanonical hnew hmake)).depth_pos (Nat.lt_irrefl 0)
  | succ depth ih =>
    rw [run_succ (depth + 1) hdepth, run_succ (depth + 1 + extra) (by simp [hdepth]; omega)]
    show visitDirectory rules options _ v = _
    refine visitDirectory_congr fun n w canonical d hturn hcanonical hnew hmake => ?_
    exact ih (h.step (.mk hdepth hturn hcanonical hnew hmake)) rfl

end Visit.Sound

/-! ## Cycles -/

theorem Report.append_assoc (a b c : Report) : a ++ b ++ c = a ++ (b ++ c) := by
  show Report.mk (a.files ++ b.files ++ c.files) (a.folders + b.folders + c.folders)
      (a.folderFailures ++ b.folderFailures ++ c.folderFailures) =
    Report.mk (a.files ++ (b.files ++ c.files)) (a.folders + (b.folders + c.folders))
      (a.folderFailures ++ (b.folderFailures ++ c.folderFailures))
  rw [List.append_assoc, List.append_assoc, Nat.add_assoc]

theorem Report.empty_append (a : Report) : ({} : Report) ++ a = a := by
  show Report.mk ([] ++ a.files) (0 + a.folders) ([] ++ a.folderFailures) = a
  simp only [List.nil_append, Nat.zero_add]

theorem processFolders_append (f : Name → Job Report) (xs ys : List Name) (w : Workbench) :
    processFolders f (xs ++ ys) w =
      ((processFolders f xs w).1 ++ (processFolders f ys (processFolders f xs w).2).1,
        (processFolders f ys (processFolders f xs w).2).2) := by
  induction xs generalizing w with
  | nil =>
    simp only [List.nil_append, processFolders, Job.pure_apply, Report.empty_append]
    rfl
  | cons n xs ih =>
    simp only [List.cons_append, processFolders, Job.bind_apply, Job.pure_apply, ih, Report.append_assoc]

/-- A directory that leads back to one on the way is recorded once, and nothing is made for it. -/
theorem Visit.Turn.cycle {p : Path} (hdepth : v.depth = depth + 1)
    (h : v.Turn rules options (walkTree rules options depth) n w)
    (hcanonical : w.disk.canonicalize (v.input.join ⟨n⟩) = .ok p) (hcycle : p ∈ v.ancestors) :
    ∃ failure w', failure = .ofFailure (v.relative.join ⟨n⟩) ("directory cycle back to " ++ p.display) ∧
      v.folder (walkTree rules options depth) n w = (failure, w') ∧ w'.disk = w.disk ∧
      ∃ before after, (v.run rules options).1 = before ++ failure ++ after := by
  have hfolder : ∃ w', v.folder (walkTree rules options depth) n w =
      (.ofFailure (v.relative.join ⟨n⟩) ("directory cycle back to " ++ p.display), w') ∧ w'.disk = w.disk := by
    unfold Visit.folder processFolder
    simp only [Job.bind_apply, Job.ask_apply, hcanonical, List.contains_iff_mem.2 hcycle, if_true]
    exact ⟨_, rfl, rfl⟩
  obtain ⟨w', hfolder, hdisk⟩ := hfolder
  refine ⟨_, w', rfl, hfolder, hdisk, ?_⟩
  cases h with
  | @mk ms before after n hmembers hfolders =>
    rw [run_succ depth hdepth, visitDirectory, hmembers]
    simp only [hfolders, processFolders_append, processFolders, Job.bind_apply, Job.pure_apply, hfolder]
    rw [← Report.append_assoc, ← Report.append_assoc]
    exact ⟨_, _, rfl⟩

end Walk

/-! ## How deep a walk gets -/

/-- The places of the directories on a disk. -/
def Disk.directories (d : Disk) : List Location := [] :: (d.entries.map Prod.fst).filter d.isDirectoryAt

theorem Disk.mem_directories {d : Disk} {l : Location} {m : Mode} (h : d.get? l = some (.directory m)) :
    l ∈ d.directories := by
  by_cases hl : l = []
  · rw [hl]
    exact List.mem_cons_self
  · refine List.mem_cons_of_mem _ (List.mem_filter.2 ⟨(get?_isSome_iff hl).1 (by rw [h]; rfl), ?_⟩)
    exact isDirectoryAt_iff.2 ⟨m, h⟩

/-- There are no more paths of directories than directories. -/
theorem length_le_directories {d : Disk} {ps : List Path} (hnodup : ps.Nodup)
    (h : ∀ p ∈ ps, ∃ l m, p = Location.toPath l ∧ d.get? l = some (.directory m)) :
    ps.length ≤ d.directories.length := by
  have hsub : ps ⊆ d.directories.map Location.toPath := by
    intro p hp
    obtain ⟨l, m, rfl, hl⟩ := h p hp
    exact List.mem_map_of_mem (mem_directories hl)
  have hle := (List.subperm_of_subset hnodup hsub).length_le
  rwa [List.length_map] at hle

/-! ## The whole walk -/

section Whole

variable {rules : List Rule} {options : TreeOptions} {d d' : Disk} {p : Path}

theorem Disk.makeDirectory_leads (h : d.makeDirectory p = .ok d') :
    ∃ l m, d'.Leads p l ∧ d'.get? l = some (.directory m) := by
  obtain ⟨a, n, ha, hn, _, hname, hvacant, rfl⟩ := makeDirectory_eq_ok h
  obtain ⟨before, hsteps, _, hw, hm, hlen, _⟩ := approach_name ha hn
  have hext := extends_put (by simp) hvacant (.directory Mode.newDirectory) (d := d) (l := a.directory ++ [n])
  have hget : (d.put (a.directory ++ [n]) (.directory Mode.newDirectory)).get? (a.directory ++ [n]) =
      some (.directory Mode.newDirectory) := by rw [get?_put d (by simp), if_pos rfl]
  have henter : (d.put (a.directory ++ [n]) (.directory Mode.newDirectory)).enter a.directory = .ok a.mode := by
    rw [enter_congr (by rw [get?_put d (by simp), if_neg (by simp)]) (put_privileged ..), hm]
  refine ⟨a.directory ++ [n], _, ?_, hget⟩
  rw [Leads, hext.start, hsteps]
  exact walk_name (walk_mono hext hw) henter hname hlen hget (by simp)

theorem Disk.isDirectory_leads (h : d.isDirectory p = true) : ∃ l m, d.Leads p l ∧ d.get? l = some (.directory m) := by
  obtain ⟨l, m, hl, hdir⟩ := isDirectory_eq_true.1 h
  exact ⟨l, m, leads_of_locate hl, hdir⟩

theorem Disk.ensureDirectory_leads (h : d.ensureDirectory p = .ok d') :
    ∃ l m, d'.Leads p l ∧ d'.get? l = some (.directory m) := by
  rcases ensureDirectory_eq_ok h with hmake | ⟨hdir, rfl⟩
  · exact makeDirectory_leads hmake
  · exact isDirectory_leads hdir

/-- A path that is not empty leads to a directory when it has been made. -/
theorem Disk.makeDirectories_leads_of_ne (hp : p.bytes ≠ []) (h : d.makeDirectories p = (.ok (), d')) :
    ∃ l m, d'.Leads p l ∧ d'.get? l = some (.directory m) := by
  unfold makeDirectories makeDirectoriesFrom at h
  split at h
  · next hempty => exact (hp (Path.bytes_of_components hempty)).elim
  · split at h
    · next d₁ hmake =>
      cases h
      exact makeDirectory_leads hmake
    · split at h
      · cases h
      · split at h
        · cases h
        · split at h
          · next d₂ hensure =>
            cases h
            exact ensureDirectory_leads hensure
          · cases h
    · split at h
      · next hdir =>
        cases h
        exact isDirectory_leads hdir
      · cases h

/-- A path leads to a directory when it has been made. -/
theorem Disk.makeDirectories_leads {m : Mode} (hcurrent : d.get? d.current = some (.directory m))
    (h : d.makeDirectories p = (.ok (), d')) : ∃ l m, d'.Leads p l ∧ d'.get? l = some (.directory m) := by
  by_cases hbytes : p.bytes = []
  · have hcomponents : p.components.isEmpty = true := by
      simp [Path.components, hbytes, Path.parts, Path.isAbsolute, Path.component?]
    rw [makeDirectories, makeDirectoriesFrom, if_pos hcomponents] at h
    cases h
    refine ⟨d.current, m, ?_, hcurrent⟩
    have hsteps : p.steps = [] := by simp [Path.steps, hbytes, Path.parts]
    rw [Leads, hsteps, start, if_neg (by simp [Path.isAbsolute, hbytes]), walk, leg]
  · exact makeDirectories_leads_of_ne hbytes h

/-- What holds of a directory that a walk comes to: the walk from there on ends, whatever its depth, and the directories
on the way to it are known by their canonical paths. -/
structure Visit.OnWay (rules : List Rule) (options : TreeOptions) (top : Location) (start : Disk) (root : Path)
    (v : Visit) : Prop where
  ends : ∀ extra, Visit.run rules options { v with depth := v.depth + extra } = v.run rules options
  nodup : v.ancestors.Nodup
  first : v.ancestors.head? = some root
  last : ∃ p, v.ancestors.getLast? = some p ∧ v.bench.disk.canonicalize v.input = .ok p
  directories : ∀ p ∈ v.ancestors, ∃ l m, p = Location.toPath l ∧ v.bench.disk.get? l = some (.directory m) ∧
    (¬ top <+: l → start.get? l = some (.directory m))
  bounded : v.ancestors.length ≤ v.bench.disk.directories.length
  /-- As long as the walk stays out of the output, it gets no deeper than there were directories. -/
  boundedOutside : (∀ l, Location.toPath l ∈ v.ancestors → ¬ top <+: l) →
    v.ancestors.length ≤ start.directories.length
  /-- The next directory down is put after those on the way, whatever was before it in the same directory. -/
  down : ∀ v', v.Descends rules options v' → ∃ p, v'.ancestors = v.ancestors ++ [p]
  /-- All that is made of a directory that leads back is one failure in the report. -/
  cycle : ∀ depth n w p, v.depth = depth + 1 → v.Turn rules options (walkTree rules options depth) n w →
    w.disk.canonicalize (v.input.join ⟨n⟩) = .ok p → p ∈ v.ancestors →
    ∃ failure w', failure = .ofFailure (v.relative.join ⟨n⟩) ("directory cycle back to " ++ p.display) ∧
      v.folder (walkTree rules options depth) n w = (failure, w') ∧ w'.disk = w.disk ∧
      ∃ before after, (v.run rules options).1 = before ++ failure ++ after

theorem Visit.Sound.onWay {top : Location} {start : Disk} {root : Path} {v : Visit}
    (h : v.Sound rules options top start root) : v.OnWay rules options top start root where
  ends := h.run_add
  nodup := h.nodup
  first := h.first
  last := h.last
  directories p hp := by
    obtain ⟨l, m, rfl, hl⟩ := h.directories p hp
    exact ⟨l, m, rfl, hl, fun hout => (h.overlay.frame l hout).symm.trans hl⟩
  bounded := length_le_directories h.nodup h.directories
  boundedOutside hout := by
    refine length_le_directories h.nodup fun p hp => ?_
    obtain ⟨l, m, rfl, hl⟩ := h.directories p hp
    exact ⟨l, m, rfl, (h.overlay.frame l (hout l hp)).symm.trans hl⟩
  down v' hdown := by
    cases hdown with
    | mk => exact ⟨_, rfl⟩
  cycle _ _ _ _ hdepth hturn hcanonical hcycle := hturn.cycle hdepth hcanonical hcycle

/-- A walk that begins in an output without links is sound from the start. -/
theorem Visit.Sound.begin {input output : Path} {start : Disk} {top l : Location} {m m' : Mode} {said : List Utterance}
    (hd : start.WellFormed) (hinput : start.locate input = .ok l) (hdir : start.get? l = some (.directory m))
    (hleads : start.Leads output top) (htop : start.get? top = some (.directory m')) (hfree : start.LinkFree top) :
    Visit.Sound rules options top start l.toPath
      ⟨Path.lengthLimit, input, output, ⟨[]⟩, [l.toPath], { disk := start, said := said }⟩ where
  ready := ⟨top, List.prefix_refl top, hd, hleads, m', htop⟩
  overlay := .refl hd hfree
  checked := (locate_eq_ok.1 hinput).1
  deep := by
    have hpos := List.length_pos_iff.2 (checkPath_eq_ok (locate_eq_ok.1 hinput).1).1
    show Path.lengthLimit < input.bytes.length + Path.lengthLimit
    omega
  first := rfl
  last := ⟨l.toPath, rfl, canonicalize_of_locate hinput⟩
  nodup := List.nodup_singleton _
  directories p hp := ⟨l, m, List.mem_singleton.1 hp, hdir⟩

/-- An output that has just been cleared holds nothing, and at first only its own directory is made. -/
theorem derived_hollow {input output : Path} {w₀ w : Workbench} {place : Location} (hd : w₀.disk.WellFormed)
    (houtput : treeOutput w₀.disk input = .ok output) (hclear : (Converter.clearOutput output).run w₀ = (.ok (), w))
    (hroots : checkRoots w.disk input output = .ok ()) (hmake : w.disk.makeDirectories output = (.ok (), d))
    (hplace : d.Leads output place) : d.Hollow place := by
  have hready : ∃ top, (Site.mk [] {} input output ⟨[]⟩ top).Ready d ∧ ∀ k, d.Bare (top ++ [k]) := by
    obtain ⟨top, _, _, hready, hbare, _⟩ := derived_ready hd houtput hclear hroots hmake
    exact ⟨top, hready, hbare⟩
  obtain ⟨top, hready, hbare⟩ := hready
  obtain rfl := hplace.unique hready.leads
  obtain ⟨m, hm⟩ := hready.directory
  intro rest e he
  cases rest with
  | nil =>
    rw [List.append_nil, hm] at he
    exact ⟨m, (Option.some.inj he).symm⟩
  | cons k rest =>
    have hnone := hbare k rest
    rw [List.append_assoc, List.singleton_append, he] at hnone
    cases hnone

/-- A walk ends on every disk, whatever cycles its links make, if there are no links in the output when it begins, as in
one that has been cleared. All that it comes to on its way is known by canonical paths of directories, each one once, so
the walk gets no deeper than there are directories. -/
theorem walk_visits {input output : Path} {w : Workbench} {m : Mode} (hd : w.disk.WellFormed)
    (hcurrent : w.disk.get? w.disk.current = some (.directory m))
    (hroots : checkRoots w.disk input output = .ok ()) (hmake : w.disk.makeDirectories output = (.ok (), d))
    (hfree : (∀ place, d.Leads output place → d.LinkFree place) ∨
      ∃ w₀, w₀.disk.WellFormed ∧ treeOutput w₀.disk input = .ok output ∧
        (Converter.clearOutput output).run w₀ = (.ok (), w)) :
    ∃ (v : Visit) (root : Path) (top : Location), d.Leads output top ∧ v.bench.disk = d ∧ v.input = input ∧
      v.output = output ∧ v.ancestors = [root] ∧
      (convertTree rules options input output).run w = (.ok (v.run rules options).1, (v.run rules options).2) ∧
      ∀ v', v.Reaches rules options v' → v'.OnWay rules options top d root := by
  have hgrows := makeDirectories_grows w.disk output
  rw [hmake] at hgrows
  obtain ⟨l, m', _, hinput, hdir, _⟩ := checkRoots_eq_ok hroots
  have hinput' := locate_mono hgrows.keeps hinput
  obtain ⟨top, m'', htop, hplace⟩ := makeDirectories_leads hcurrent hmake
  have hnolinks : d.LinkFree top := by
    rcases hfree with hfree | ⟨w₀, hd₀, houtput, hclear⟩
    · exact hfree top htop
    · exact (derived_hollow hd₀ houtput hclear hroots hmake htop).linkFree
  let v : Visit := ⟨Path.lengthLimit, input, output, ⟨[]⟩, [l.toPath], (Job.notice .info "converting tree"
    [("input", input.display), ("output", output.display), ("parallel", toString options.parallel)]
    { w with disk := d }).2⟩
  have hsound : v.Sound rules options top d l.toPath :=
    .begin (hgrows.wellFormed hd) hinput' (hgrows.keeps.get _ _ hdir) htop hplace hnolinks
  refine ⟨v, l.toPath, top, htop, rfl, rfl, rfl, rfl, ?_, fun v' hreach => (hsound.reach hreach).onWay⟩
  unfold convertTree
  simp only [Job.run_bind, Job.run_orFail, Job.run_lift, Job.ask_apply, Job.act_apply, Job.notice_disk, hroots, hmake,
    canonicalize_of_locate hinput', Except.mapError]
  rfl

end Whole

/-- A tree with a link up from one of its directories, and an old output with a link to the tree. -/
def ringSuite : Disk where
  entries :=
    [([Text.encode "converted_suite"], .directory 0o755),
      ([Text.encode "converted_suite", Text.encode "b"], .link (.ofString "../suite")),
      ([Text.encode "suite"], .directory 0o755),
      ([Text.encode "suite", Text.encode "a"], .directory 0o755),
      ([Text.encode "suite", Text.encode "a", Text.encode "up"], .link (.ofString ".."))]

theorem walk_visits_ringSuite : ∃ v root top,
    (convertTree [] {} (.ofString "suite") (.ofString "converted_suite")).run
      ((Converter.clearOutput (.ofString "converted_suite")).run { disk := ringSuite }).2 =
        (.ok (Visit.run [] {} v).1, (Visit.run [] {} v).2) ∧
    ∀ v', v.Reaches [] {} v' → v'.OnWay [] {} top v.bench.disk root := by
  have hd : ringSuite.WellFormed := by decide +kernel
  have houtput : treeOutput ringSuite (.ofString "suite") = .ok (.ofString "converted_suite") := by decide +kernel
  have hclear : ((Converter.clearOutput (.ofString "converted_suite")).run { disk := ringSuite }).1 = .ok () := by
    decide +kernel
  have hd' : ((Converter.clearOutput (.ofString "converted_suite")).run { disk := ringSuite }).2.disk.WellFormed := by
    decide +kernel
  have hcurrent : ((Converter.clearOutput (.ofString "converted_suite")).run { disk := ringSuite }).2.disk.get?
      ((Converter.clearOutput (.ofString "converted_suite")).run { disk := ringSuite }).2.disk.current =
        some (.directory Mode.newDirectory) := by decide +kernel
  have hroots : checkRoots ((Converter.clearOutput (.ofString "converted_suite")).run { disk := ringSuite }).2.disk
      (.ofString "suite") (.ofString "converted_suite") = .ok () := by decide +kernel
  have hmake : (((Converter.clearOutput (.ofString "converted_suite")).run
      { disk := ringSuite }).2.disk.makeDirectories (.ofString "converted_suite")).1 = .ok () := by decide +kernel
  generalize hrun : (Converter.clearOutput (.ofString "converted_suite")).run { disk := ringSuite } = cleared at *
  obtain ⟨r, w⟩ := cleared
  obtain rfl : r = .ok () := hclear
  obtain ⟨v, root, top, _, hdisk, _, _, _, hwalk, hway⟩ := walk_visits hd' hcurrent hroots (Prod.ext hmake rfl)
    (.inr ⟨{ disk := ringSuite }, hd, houtput, hrun⟩)
  exact ⟨v, root, top, hwalk, by rw [hdisk]; exact hway⟩

/-! ## Walks that go astray -/

/-- The next directory down under a name, if the walk goes down there. -/
def Visit.next? (rules : List Rule) (options : TreeOptions) (v : Visit) (n : Name) : Option Visit :=
  match v.depth, v.bench.disk.members v.input with
  | depth + 1, .ok ms =>
    let folders := (ms.filter Member.isFolder).map Member.name
    let w := (processFolders (v.folder (walkTree rules options depth)) (folders.takeWhile (· != n))
      ((ms.filter fun m => !m.isFolder).mapM (processMember rules options v.input v.output v.relative) v.bench).2).2
    match w.disk.canonicalize (v.input.join ⟨n⟩), w.disk.makeDirectories (v.output.join ⟨n⟩) with
    | .ok canonical, (.ok _, d) =>
      if n ∈ folders ∧ v.ancestors.contains canonical = false then
        some ⟨depth, v.input.join ⟨n⟩, v.output.join ⟨n⟩, v.relative.join ⟨n⟩, v.ancestors ++ [canonical],
          { w with disk := d }⟩
      else none
    | _, _ => none
  | _, _ => none

theorem exists_after {n : Name} {ns : List Name} (h : n ∈ ns) : ∃ after, ns = ns.takeWhile (· != n) ++ n :: after := by
  have hsplit := List.takeWhile_append_dropWhile (p := (· != n)) (l := ns)
  cases hd : ns.dropWhile (· != n) with
  | nil =>
    have := List.dropWhile_eq_nil_iff.1 hd n h
    simp at this
  | cons k after =>
    have hk := List.head?_dropWhile_not (· != n) ns
    rw [hd] at hk hsplit
    obtain rfl : k = n := by simpa using hk
    exact ⟨after, hsplit.symm⟩

theorem Visit.next?_eq_some {rules : List Rule} {options : TreeOptions} {v v' : Visit} {n : Name}
    (h : v.next? rules options n = some v') : v.Descends rules options v' := by
  unfold next? at h
  split at h
  · next depth ms hdepth hmembers =>
    simp only at h
    split at h
    · next canonical u d hcanonical hmake =>
      split at h
      · next hcond =>
        cases h
        obtain ⟨hmem, hnew⟩ := hcond
        obtain ⟨after, hsplit⟩ := exists_after hmem
        exact .mk hdepth (.mk hmembers hsplit) hcanonical hnew hmake
      · cases h
    · cases h
  · cases h

/-- The directory that is reached by names one after another. -/
def Visit.down? (rules : List Rule) (options : TreeOptions) (v : Visit) (ns : List Name) : Option Visit :=
  ns.foldlM (Visit.next? rules options) v

theorem Visit.down?_eq_some {rules : List Rule} {options : TreeOptions} {v v' : Visit} {ns : List Name}
    (h : v.down? rules options ns = some v') : v.Reaches rules options v' := by
  induction ns generalizing v with
  | nil =>
    cases h
    exact .refl
  | cons n ns ih =>
    rw [down?, List.foldlM_cons] at h
    obtain ⟨v₁, hv₁, h⟩ := Option.bind_eq_some_iff.1 h
    exact (ih h).head (next?_eq_some hv₁)

/-- A tree with a link to a directory, and an output with a link back to the tree. -/
def crossedTrees : Disk where
  entries :=
    [([Text.encode "far"], .directory 0o755),
      ([Text.encode "in"], .directory 0o755),
      ([Text.encode "in", Text.encode "b"], .directory 0o755),
      ([Text.encode "in", Text.encode "b", Text.encode "c"], .file (Text.encode "x") 0o644),
      ([Text.encode "in", Text.encode "c"], .link (.ofString "../far")),
      ([Text.encode "out"], .directory 0o755),
      ([Text.encode "out", Text.encode "b"], .link (.ofString "../in"))]

/-- A tree with a link to where the counterpart of one of its directories will be. -/
def fedTree : Disk where
  entries :=
    [([Text.encode "in"], .directory 0o755),
      ([Text.encode "in", Text.encode "a"], .directory 0o755),
      ([Text.encode "in", Text.encode "a", Text.encode "y"], .link (.ofString "../../out/a")),
      ([Text.encode "out"], .directory 0o755)]

/-- Where a walk from one tree to another begins. -/
def firstVisit (d : Disk) : Visit :=
  ⟨Path.lengthLimit, .ofString "in", .ofString "out", ⟨[]⟩, [.ofString "/in"], { disk := d }⟩

/-- A link in the output lets a walk overwrite a link that it has yet to follow, and then it goes down to a file. A link
to a place in the output where nothing is yet lets it go down into what it makes itself, and get deeper than there were
directories. -/
theorem walk_astray :
    (crossedTrees.WellFormed ∧ checkRoots crossedTrees (.ofString "in") (.ofString "out") = .ok () ∧
      ∃ v, (firstVisit crossedTrees).Reaches [] {} v ∧ v.ancestors = [.ofString "/in", .ofString "/in/c"] ∧
        v.bench.disk.get? [Text.encode "in", Text.encode "c"] = some (.file (Text.encode "x") 0o644)) ∧
    fedTree.WellFormed ∧ checkRoots fedTree (.ofString "in") (.ofString "out") = .ok () ∧
      fedTree.metadata (.ofString "in/a/y") = .error .notFound ∧
      ∃ v, (firstVisit fedTree).Reaches [] {} v ∧ fedTree.directories.length < v.ancestors.length := by
  refine ⟨⟨by decide +kernel, by decide +kernel, ?_⟩, by decide +kernel, by decide +kernel, by decide +kernel, ?_⟩
  · have hdown : (((firstVisit crossedTrees).down? [] {} [Text.encode "c"]).map fun v =>
        (v.ancestors, v.bench.disk.get? [Text.encode "in", Text.encode "c"])) =
        some ([.ofString "/in", .ofString "/in/c"], some (.file (Text.encode "x") 0o644)) := by decide +kernel
    obtain ⟨v, hv, he⟩ := Option.map_eq_some_iff.1 hdown
    exact ⟨v, Visit.down?_eq_some hv, (Prod.mk.inj he).1, (Prod.mk.inj he).2⟩
  · have hdown : (((firstVisit fedTree).down? [] {}
        [Text.encode "a", Text.encode "y", Text.encode "y", Text.encode "y"]).map fun v => v.ancestors.length) =
          some 5 := by decide +kernel
    have hcount : fedTree.directories.length = 4 := by decide +kernel
    obtain ⟨v, hv, he⟩ := Option.map_eq_some_iff.1 hdown
    exact ⟨v, Visit.down?_eq_some hv, by rw [he, hcount]; decide⟩

end Retarget
