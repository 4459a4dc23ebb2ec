import Retarget.Proofs.ParallelWalk

/-!
# The directories that a walk meets

A walk meets its root and, in each directory that it lists, the directories in it, each one once. It enters those that
it can and leaves out the others. Its report is what it makes of them, one after another.

* `Stop`: a directory that a walk meets, `Visit.Meets`: how it comes to that,
* `Tour`: all that is met from some directories on, and the report of it,
* `Tour.append`, `Tour.enter`: tours one after another, and a directory before all that is below it,
* `Visit.tour`: every walk makes a tour.
-/

namespace Retarget

open Disk

/-! ## The order of names -/

namespace Disk

theorem lt_of_bytesLe {a b : Bytes} (h : bytesLe a b = true) (hne : a ≠ b) : a < b := by
  fun_induction bytesLe a b with
  | case1 b =>
    cases b with
    | nil => exact (hne rfl).elim
    | cons b bs => exact List.nil_lt_cons ..
  | case2 => cases h
  | case3 a as b bs ih =>
    rw [List.cons_lt_cons_iff]
    simp only [Bool.or_eq_true, decide_eq_true_eq, Bool.and_eq_true, beq_iff_eq] at h
    rcases h with hlt | ⟨rfl, hle⟩
    · exact .inl hlt
    · exact .inr ⟨rfl, ih hle fun he => hne (he ▸ rfl)⟩

theorem pairwise_insertName {n : Name} {ns : List Name} (h : ns.Pairwise fun a b => bytesLe a b = true) :
    (insertName n ns).Pairwise fun a b => bytesLe a b = true := by
  induction ns with
  | nil => exact List.pairwise_singleton _ n
  | cons m ns ih =>
    obtain ⟨hm, hns⟩ := List.pairwise_cons.1 h
    unfold insertName
    split
    · next hle =>
      refine List.pairwise_cons.2 ⟨fun k hk => ?_, h⟩
      rcases List.mem_cons.1 hk with rfl | hk
      · exact hle
      · exact bytesLe_trans hle (hm k hk)
    · next hnot =>
      refine List.pairwise_cons.2 ⟨fun k hk => ?_, ih hns⟩
      rcases mem_insertName.1 hk with rfl | hk
      · exact (bytesLe_total m k).resolve_right hnot
      · exact hm k hk

/-- Different names come out in ascending order. -/
theorem pairwise_sortNames {ns : List Name} (h : ns.Nodup) : (sortNames ns).Pairwise (· < ·) := by
  have hle : (sortNames ns).Pairwise fun a b => bytesLe a b = true := by
    induction ns with
    | nil => exact .nil
    | cons n ns ih => exact pairwise_insertName (ih (List.nodup_cons.1 h).2)
  exact hle.imp₂ (fun _ _ hab hne => lt_of_bytesLe hab hne) (nodup_sortNames h)

/-- A listing has the names of a directory, each one once, in ascending order. -/
theorem members_sorted {d : Disk} {p : Path} {ms : List Member} (hd : d.WellFormed) (h : d.members p = .ok ms) :
    (ms.map Member.name).Pairwise (· < ·) ∧
      ∃ l m, d.locate p = .ok l ∧ d.get? l = some (.directory m) ∧
        ∀ n, n ∈ ms.map Member.name ↔ (d.get? (l ++ [n])).isSome := by
  obtain ⟨l, m, hl, hm, hnames, _⟩ := members_eq_ok h
  rw [hnames]
  exact ⟨pairwise_sortNames (hd.names_nodup l), l, m, hl, hm, fun n => mem_sortNames.trans mem_names⟩

end Disk

/-! ## Trees stay trees -/

namespace Job

variable {α β : Type} {I : Disk → Prop}

/-- A job keeps what is true of the disk. -/
def Keeps (I : Disk → Prop) (job : Job α) : Prop := ∀ w, I w.disk → I (job w).2.disk

theorem Keeps.bind {job : Job α} {f : α → Job β} (h : job.Keeps I) (hf : ∀ a, Keeps I (f a)) : Keeps I (job >>= f) :=
  fun w hw => hf _ _ (h w hw)

theorem Keeps.ask (f : Disk → α) : (Job.ask f).Keeps I := fun _ hw => hw

theorem Keeps.act {f : Disk → α × Disk} (h : ∀ d, I d → I (f d).2) : (Job.act f).Keeps I := fun w hw => h w.disk hw

theorem Keeps.mapM {f : α → Job β} (h : ∀ a, (f a).Keeps I) (xs : List α) : (xs.mapM f).Keeps I :=
  fun _ hw => Job.mapM_disk (fun a _ => h a) hw

end Job

namespace Disk.WellFormed

variable {d : Disk}

theorem replaceFile (hd : d.WellFormed) (dest : Path) (bytes : Bytes) (m : Option Mode) :
    (d.replaceFile dest bytes m).2.WellFormed := by
  rcases d.replaceFile_cases dest bytes m with ⟨r, hr, _⟩ | ⟨place, hput, _, _, hmove⟩
  · rwa [hr]
  · obtain ⟨a, n, ha, hn, _, rfl, _, hfree, _⟩ := hmove
    obtain ⟨hdir, hname⟩ := approach_spec ha
    rw [hput]
    exact hd.put hdir (hname n hn) hfree

theorem copyWhole (hd : d.WellFormed) (input output : Path) : (d.copyWhole input output).2.WellFormed := by
  unfold Disk.copyWhole
  split
  · exact hd
  · exact hd.replaceFile ..

end Disk.WellFormed

section Kept

variable (rules : List Rule) (options : TreeOptions) (input output : Path)

theorem copyFile_wellFormed (reason : CopyReason) : (copyFile input output reason).Keeps WellFormed := by
  refine .bind (.act fun _ hd => hd.copyWhole input output) fun r => ?_
  cases r <;> exact fun _ hw => hw

theorem fallBack_wellFormed (reason : String) : (fallBack input output reason).Keeps WellFormed :=
  .bind (fun _ hw => hw) fun _ => copyFile_wellFormed input output _

theorem transformFile_wellFormed : (transformFile rules input output).Keeps WellFormed := by
  refine .bind (.ask _) fun read => ?_
  split
  · exact fallBack_wellFormed input output _
  · split
    · exact fallBack_wellFormed input output _
    · refine .bind (.ask _) fun mode => .bind (.act fun _ hd => hd.replaceFile ..) fun written => ?_
      split
      · exact fun _ hw => hw
      · exact fallBack_wellFormed input output _

theorem processFile_wellFormed (relative : Path) :
    (processFile rules options input output relative).Keeps WellFormed := by
  unfold processFile
  split
  · exact copyFile_wellFormed input output _
  · split
    · exact transformFile_wellFormed rules input output
    · exact copyFile_wellFormed input output _

theorem processMember_wellFormed (relative : Path) (m : Member) :
    (processMember rules options input output relative m).Keeps WellFormed := by
  unfold processMember
  split
  · exact fun _ hw => hw
  · exact .bind (processFile_wellFormed rules options _ _ _) fun _ _ hw => hw

theorem processFolder_wellFormed {descend : Descent} (relative : Path) (ancestors : List Path)
    (hdescend : ∀ ancestors, (descend input output relative ancestors).Keeps WellFormed) :
    (processFolder descend input output relative ancestors).Keeps WellFormed := by
  refine .bind (.ask _) fun resolved => ?_
  split
  · exact fun _ hw => hw
  · split
    · exact fun _ hw => hw
    · refine .bind (.act fun d hd => (makeDirectories_grows d output).wellFormed hd) fun made => ?_
      split
      · exact fun _ hw => hw
      · exact .bind (hdescend _) fun _ _ hw => hw

theorem walkTree_wellFormed (depth : Nat) (relative : Path) (ancestors : List Path) :
    (walkTree rules options depth input output relative ancestors).Keeps WellFormed := by
  induction depth generalizing input output relative ancestors with
  | zero => exact fun _ hw => hw
  | succ depth ih =>
    refine .bind (.ask _) fun listing => ?_
    split
    · exact fun _ hw => hw
    · refine .bind (.mapM (processMember_wellFormed rules options input output relative) _) fun records => ?_
      refine .bind (fun w hw => processFolders_disk (fun n _ => ?_) hw) fun below _ hw => hw
      exact processFolder_wellFormed _ _ _ _ fun ancestors => ih _ _ _ ancestors

end Kept

/-! ## What a walk meets -/

/-- A directory that a walk meets: it enters the directory, or leaves it out for a reason. -/
inductive Stop
  | entered (v : Visit)
  | leftOut (path : Path) (error : String)

namespace Visit

/-- What a walk finds in a directory when it comes to it. -/
def listing (v : Visit) : Except Cause (List Member) := v.bench.disk.members v.input

/-- The records of the files in a directory. -/
def records (rules : List Rule) (options : TreeOptions) (v : Visit) : List FileRecord :=
  match v.listing with
  | .error _ => []
  | .ok members =>
    ((members.filter fun m => !m.isFolder).mapM (processMember rules options v.input v.output v.relative) v.bench).1

/-- What becomes of a directory in a directory, by the disk when its turn has come. -/
def meet (v : Visit) (depth : Nat) (n : Name) (w : Workbench) : Stop :=
  let path := v.relative.join ⟨n⟩
  match w.disk.canonicalize (v.input.join ⟨n⟩) with
  | .error c => .leftOut path c.message
  | .ok canonical =>
    if v.ancestors.contains canonical then .leftOut path ("directory cycle back to " ++ canonical.display)
    else
      match w.disk.makeDirectories (v.output.join ⟨n⟩) with
      | (.error c, _) => .leftOut path c.message
      | (.ok _, d) =>
        .entered ⟨depth, v.input.join ⟨n⟩, v.output.join ⟨n⟩, path, v.ancestors ++ [canonical], { w with disk := d }⟩

/-- A walk meets the directories in a directory when their turns have come. -/
inductive Meets (rules : List Rule) (options : TreeOptions) (v : Visit) (n : Name) : Stop → Prop
  | mk {depth : Nat} {w : Workbench} (hdepth : v.depth = depth + 1)
    (hturn : v.Turn rules options (walkTree rules options depth) n w) : Meets rules options v n (v.meet depth n w)

end Visit

namespace Stop

/-- The path of a directory below the root of the tree. -/
def path : Stop → Path
  | entered v => v.relative
  | leftOut path _ => path

/-- The names on the way to a directory from the root of the tree. -/
def place (s : Stop) : Location := s.path.steps

def isEntered : Stop → Bool
  | entered _ => true
  | leftOut .. => false

/-- The records of the files in a directory. -/
def records (rules : List Rule) (options : TreeOptions) : Stop → List FileRecord
  | entered v => v.records rules options
  | leftOut .. => []

/-- The failure of a directory that cannot be listed or is left out. -/
def failure? : Stop → Option FolderFailure
  | entered v =>
    match v.listing with
    | .error c => some ⟨v.relative, c.message⟩
    | .ok _ => none
  | leftOut path error => some ⟨path, error⟩

/-- The report of a directory with all that is in it. The directory itself is counted if it is entered. -/
def report (rules : List Rule) (options : TreeOptions) : Stop → Report
  | entered v => { folders := 1 : Report } ++ (v.run rules options).1
  | leftOut path error => .ofFailure path error

end Stop

section Walk

variable {rules : List Rule} {options : TreeOptions} {v v' : Visit} {depth : Nat} {n : Name} {w : Workbench} {s : Stop}

theorem Visit.meet_path (v : Visit) (depth : Nat) (n : Name) (w : Workbench) :
    (v.meet depth n w).path = v.relative.join ⟨n⟩ := by
  unfold meet
  simp only
  split
  · rfl
  · split
    · rfl
    · split <;> rfl

theorem Visit.meet_place (v : Visit) (depth : Nat) (hn : Path.IsName n) (w : Workbench) :
    (v.meet depth n w).place = v.relative.steps ++ [n] := by
  rw [Stop.place, v.meet_path, Path.steps_join _ hn]

/-- A directory is dealt with as it is met. -/
theorem Visit.folder_report (v : Visit) (depth : Nat) (n : Name) (w : Workbench) :
    (v.folder (walkTree rules options depth) n w).1 = (v.meet depth n w).report rules options := by
  unfold folder processFolder meet
  simp only [Job.bind_apply, Job.ask_apply]
  cases w.disk.canonicalize (v.input.join ⟨n⟩) with
  | error c => rfl
  | ok canonical =>
    simp only
    cases v.ancestors.contains canonical with
    | true => rfl
    | false =>
      simp only [Bool.false_eq_true, if_false, Job.bind_apply, Job.act_apply]
      rcases w.disk.makeDirectories (v.output.join ⟨n⟩) with ⟨c | u, d⟩ <;> rfl

/-- A walk goes down into what it enters. -/
theorem Visit.descends_of_meet (hdepth : v.depth = depth + 1)
    (hturn : v.Turn rules options (walkTree rules options depth) n w) (h : v.meet depth n w = .entered v') :
    v.Descends rules options v' := by
  unfold meet at h
  simp only at h
  split at h
  · cases h
  · next canonical hcanonical =>
    split at h
    · cases h
    · next hnew =>
      split at h
      · cases h
      · next u d hmake =>
        cases h
        exact .mk hdepth hturn hcanonical (Bool.eq_false_iff.2 hnew) hmake

theorem Visit.Meets.descends (h : v.Meets rules options n (.entered v')) : v.Descends rules options v' := by
  generalize hs : Stop.entered v' = s at h
  cases h with
  | mk hdepth hturn => exact descends_of_meet hdepth hturn hs.symm

/-- A walk enters what it goes down into. -/
theorem Visit.Descends.meets (h : v.Descends rules options v') : ∃ n, v.Meets rules options n (.entered v') := by
  cases h with
  | @mk depth n w canonical d hdepth hturn hcanonical hnew hmake =>
    have hmeet : v.meet depth n w = .entered ⟨depth, v.input.join ⟨n⟩, v.output.join ⟨n⟩, v.relative.join ⟨n⟩,
        v.ancestors ++ [canonical], { w with disk := d }⟩ := by
      simp only [meet, hcanonical, hnew, hmake, Bool.false_eq_true, if_false]
    exact ⟨n, hmeet ▸ .mk hdepth hturn⟩

/-! ## Directories that a walk can come to -/

/-- What is true of every directory that a walk comes to, on any disk. -/
structure Visit.Deep (v : Visit) : Prop where
  wellFormed : v.bench.disk.WellFormed
  checked : checkPath v.input = .ok ()
  /-- The depth makes up for the length of the path. -/
  deep : Path.lengthLimit < v.input.bytes.length + v.depth

namespace Visit

theorem Deep.depth_pos (h : v.Deep) : ∃ depth, v.depth = depth + 1 := by
  have hlen := (checkPath_eq_ok h.checked).2
  have hdeep := h.deep
  exact Nat.exists_eq_succ_of_ne_zero (by omega)

/-- A directory in a listed directory has a proper name, and the disk is a tree when its turn has come. -/
theorem Deep.turn (h : v.Deep) (hturn : v.Turn rules options (walkTree rules options depth) n w) :
    Path.IsName n ∧ w.disk.WellFormed := by
  cases hturn with
  | @mk ms before after n hmembers hfolders =>
    obtain ⟨_, hname⟩ := members_spec h.wellFormed hmembers
    have hn : n ∈ (ms.filter Member.isFolder).map Member.name := by simp [hfolders]
    refine ⟨hname n (((List.filter_sublist (p := Member.isFolder)).map Member.name).subset hn), ?_⟩
    refine processFolders_disk (fun k _ => ?_) (Job.mapM_disk (fun m _ => ?_) h.wellFormed)
    · exact processFolder_wellFormed _ _ _ _ fun ancestors => walkTree_wellFormed rules options _ _ depth _ ancestors
    · exact processMember_wellFormed rules options _ _ _ m

theorem Deep.step (h : v.Deep) (hdown : v.Descends rules options v') : v'.Deep := by
  cases hdown with
  | @mk depth n w canonical d hdepth hturn hcanonical hnew hmake =>
    obtain ⟨hn, hd⟩ := h.turn hturn
    have hgrows := makeDirectories_grows w.disk (v.output.join ⟨n⟩)
    rw [hmake] at hgrows
    obtain ⟨_, hcheck, _⟩ := bind_eq_ok.1 hcanonical
    refine ⟨hgrows.wellFormed hd, hcheck, ?_⟩
    have hlen := v.input.length_lt_join hn
    have hdeep := h.deep
    show Path.lengthLimit < (v.input.join ⟨n⟩).bytes.length + depth
    omega

end Visit

/-! ## Tours -/

/-- All that a walk meets from some directories on, and the report of it. The directories are met one after another,
each one before all that is below it. -/
structure Tour (rules : List Rule) (options : TreeOptions) (starts stops : List Stop) (report : Report) : Prop where
  begins : ∀ s ∈ starts, s ∈ stops
  deep : ∀ v, .entered v ∈ stops → v.Deep
  met : ∀ s ∈ stops, s ∈ starts ∨ ∃ v n, .entered v ∈ stops ∧ v.Meets rules options n s
  meets : ∀ v ms, .entered v ∈ stops → v.listing = .ok ms → ∀ m ∈ ms, m.isFolder = true →
    ∃ s ∈ stops, v.Meets rules options m.name s
  inside : ∀ s ∈ stops, ∃ t ∈ starts, t.place <+: s.place
  ordered : stops.Pairwise fun s s' => s.place < s'.place
  files : report.files = stops.flatMap (Stop.records rules options)
  folders : report.folders = stops.countP Stop.isEntered
  failures : report.folderFailures = stops.filterMap Stop.failure?

namespace Tour

variable {starts starts' stops stops' : List Stop} {report report' : Report}

theorem nil : Tour rules options [] [] {} where
  begins := by simp
  deep := by simp
  met := by simp
  meets := by simp
  inside := by simp
  ordered := .nil
  files := rfl
  folders := rfl
  failures := rfl

/-- One directory after another, if all that is below the first comes before all that is below the second. -/
theorem append (h : Tour rules options starts stops report) (h' : Tour rules options starts' stops' report')
    (hlt : ∀ s ∈ starts, ∀ s' ∈ starts', ∀ k k', s.place ++ k < s'.place ++ k') :
    Tour rules options (starts ++ starts') (stops ++ stops') (report ++ report') where
  begins s hs := (List.mem_append.1 hs).elim (fun hs => List.mem_append_left _ (h.begins s hs))
    fun hs => List.mem_append_right _ (h'.begins s hs)
  deep v hv := (List.mem_append.1 hv).elim (h.deep v) (h'.deep v)
  met s hs := by
    rcases List.mem_append.1 hs with hs | hs
    · rcases h.met s hs with hstart | ⟨v, n, hv, hmeets⟩
      · exact .inl (List.mem_append_left _ hstart)
      · exact .inr ⟨v, n, List.mem_append_left _ hv, hmeets⟩
    · rcases h'.met s hs with hstart | ⟨v, n, hv, hmeets⟩
      · exact .inl (List.mem_append_right _ hstart)
      · exact .inr ⟨v, n, List.mem_append_right _ hv, hmeets⟩
  meets v ms hv hlisting m hm hfolder := by
    rcases List.mem_append.1 hv with hv | hv
    · obtain ⟨s, hs, hmeets⟩ := h.meets v ms hv hlisting m hm hfolder
      exact ⟨s, List.mem_append_left _ hs, hmeets⟩
    · obtain ⟨s, hs, hmeets⟩ := h'.meets v ms hv hlisting m hm hfolder
      exact ⟨s, List.mem_append_right _ hs, hmeets⟩
  inside s hs := by
    rcases List.mem_append.1 hs with hs | hs
    · obtain ⟨t, ht, hbelow⟩ := h.inside s hs
      exact ⟨t, List.mem_append_left _ ht, hbelow⟩
    · obtain ⟨t, ht, hbelow⟩ := h'.inside s hs
      exact ⟨t, List.mem_append_right _ ht, hbelow⟩
  ordered := by
    refine List.pairwise_append.2 ⟨h.ordered, h'.ordered, fun s hs s' hs' => ?_⟩
    obtain ⟨t, ht, k, hk⟩ := h.inside s hs
    obtain ⟨t', ht', k', hk'⟩ := h'.inside s' hs'
    rw [← hk, ← hk']
    exact hlt t ht t' ht' k k'
  files := by
    rw [List.flatMap_append, ← h.files, ← h'.files]
    rfl
  folders := by
    rw [List.countP_append, ← h.folders, ← h'.folders]
    rfl
  failures := by
    rw [List.filterMap_append, ← h.failures, ← h'.failures]
    rfl

/-- A directory that is left out. -/
theorem leftOut (path : Path) (error : String) :
    Tour rules options [.leftOut path error] [.leftOut path error] (.ofFailure path error) where
  begins s hs := hs
  deep v hv := by cases List.mem_singleton.1 hv
  met s hs := .inl hs
  meets v ms hv := by cases List.mem_singleton.1 hv
  inside s hs := ⟨s, hs, List.prefix_refl _⟩
  ordered := List.pairwise_singleton ..
  files := rfl
  folders := rfl
  failures := rfl

/-- A directory that is entered and cannot be listed. -/
theorem unlisted {c : Cause} (hv : v.Deep) (h : v.listing = .error c) :
    Tour rules options [.entered v] [.entered v] ({ folders := 1 : Report } ++ .ofFailure v.relative c.message) where
  begins s hs := hs
  deep v' hv' := by
    cases List.mem_singleton.1 hv'
    exact hv
  met s hs := .inl hs
  meets v' ms hv hlisting := by
    cases List.mem_singleton.1 hv
    rw [h] at hlisting
    cases hlisting
  inside s hs := ⟨s, hs, List.prefix_refl _⟩
  ordered := List.pairwise_singleton ..
  files := by
    simp only [List.flatMap_singleton, Stop.records, Visit.records, h]
    rfl
  folders := rfl
  failures := by
    simp only [List.filterMap_cons, List.filterMap_nil, Stop.failure?, h]
    rfl

/-- A directory that is entered and listed, before all that is below it. -/
theorem enter {ms : List Member} (hv : v.Deep) (hlisting : v.listing = .ok ms)
    (h : Tour rules options starts stops report)
    (hstarts : ∀ s ∈ starts, ∃ n, v.Meets rules options n s ∧ s.place = v.relative.steps ++ [n])
    (hfolders : ∀ m ∈ ms, m.isFolder = true → ∃ s ∈ starts, v.Meets rules options m.name s) :
    Tour rules options [.entered v] (.entered v :: stops)
      ({ folders := 1 : Report } ++ ({ files := v.records rules options : Report } ++ report)) := by
  have hinside : ∀ s ∈ stops, ∃ n k, s.place = v.relative.steps ++ n :: k := by
    intro s hs
    obtain ⟨t, ht, k, hk⟩ := h.inside s hs
    obtain ⟨n, _, hplace⟩ := hstarts t ht
    exact ⟨n, k, by rw [← hk, hplace, List.append_assoc, List.singleton_append]⟩
  refine ⟨fun s hs => List.mem_singleton.1 hs ▸ List.mem_cons_self, ?deep, ?met, ?meets, ?inside, ?ordered, ?files,
    ?folders, ?failures⟩
  case deep =>
    intro u hu
    rcases List.mem_cons.1 hu with he | hu
    · cases he
      exact hv
    · exact h.deep u hu
  case met =>
    intro s hs
    rcases List.mem_cons.1 hs with rfl | hs
    · exact .inl List.mem_cons_self
    rcases h.met s hs with hstart | ⟨u, n, hu, hmeets⟩
    · obtain ⟨n, hmeets, _⟩ := hstarts s hstart
      exact .inr ⟨v, n, List.mem_cons_self, hmeets⟩
    · exact .inr ⟨u, n, List.mem_cons_of_mem _ hu, hmeets⟩
  case meets =>
    intro u ms' hu hlisting' m hm hfolder
    rcases List.mem_cons.1 hu with he | hu
    · cases he
      cases hlisting.symm.trans hlisting'
      obtain ⟨s, hs, hmeets⟩ := hfolders m hm hfolder
      exact ⟨s, List.mem_cons_of_mem _ (h.begins s hs), hmeets⟩
    · obtain ⟨s, hs, hmeets⟩ := h.meets u ms' hu hlisting' m hm hfolder
      exact ⟨s, List.mem_cons_of_mem _ hs, hmeets⟩
  case inside =>
    intro s hs
    refine ⟨_, List.mem_cons_self, ?_⟩
    rcases List.mem_cons.1 hs with rfl | hs
    · exact List.prefix_refl _
    · obtain ⟨n, k, hplace⟩ := hinside s hs
      rw [hplace]
      exact List.prefix_append _ _
  case ordered =>
    refine List.pairwise_cons.2 ⟨fun s hs => ?_, h.ordered⟩
    obtain ⟨n, k, hplace⟩ := hinside s hs
    have hlt : v.relative.steps ++ [] < v.relative.steps ++ n :: k := List.append_left_lt (List.nil_lt_cons ..)
    rwa [List.append_nil, ← hplace] at hlt
  case files =>
    rw [List.flatMap_cons, ← h.files]
    rfl
  case folders =>
    rw [List.countP_cons, ← h.folders]
    show 1 + (0 + report.folders) = report.folders + 1
    omega
  case failures =>
    rw [List.filterMap_cons, ← h.failures]
    simp only [Stop.failure?, hlisting]
    rfl

end Tour

/-! ## Walks as tours -/

/-- The directories in a directory, one after another from some point on. -/
theorem Visit.Deep.tour_folders {ms : List Member} (h : v.Deep) (hdepth : v.depth = depth + 1)
    (hlisting : v.listing = .ok ms)
    (hone : ∀ n w, v.Turn rules options (walkTree rules options depth) n w → ∃ stops,
      Tour rules options [v.meet depth n w] stops ((v.meet depth n w).report rules options))
    (before : List Name) {rest : List Name} (hfolders : (ms.filter Member.isFolder).map Member.name = before ++ rest)
    (hw : w = (processFolders (v.folder (walkTree rules options depth)) before
      ((ms.filter fun m => !m.isFolder).mapM
        (processMember rules options v.input v.output v.relative) v.bench).2).2) :
    ∃ starts stops,
      Tour rules options starts stops (processFolders (v.folder (walkTree rules options depth)) rest w).1 ∧
      (∀ s ∈ starts, ∃ n ∈ rest, v.Meets rules options n s ∧ s.place = v.relative.steps ++ [n]) ∧
      ∀ n ∈ rest, ∃ s ∈ starts, v.Meets rules options n s := by
  induction rest generalizing before w with
  | nil => exact ⟨[], [], .nil, by simp, by simp⟩
  | cons n rest ih =>
    have hturn : v.Turn rules options (walkTree rules options depth) n w := hw ▸ .mk hlisting hfolders
    have hplace := v.meet_place depth (h.turn hturn).1 w
    have hmeets : v.Meets rules options n (v.meet depth n w) := .mk hdepth hturn
    have hlater : ∀ n' ∈ rest, n < n' := by
      have hsorted := (members_sorted h.wellFormed hlisting).1.sublist
        ((List.filter_sublist (p := Member.isFolder)).map Member.name)
      rw [hfolders] at hsorted
      exact (List.pairwise_cons.1 (List.pairwise_append.1 hsorted).2.1).1
    have hnext : (v.folder (walkTree rules options depth) n w).2 =
        (processFolders (v.folder (walkTree rules options depth)) (before ++ [n])
          ((ms.filter fun m => !m.isFolder).mapM
            (processMember rules options v.input v.output v.relative) v.bench).2).2 := by
      rw [processFolders_append, hw]
      rfl
    obtain ⟨stops, hstops⟩ := hone n w hturn
    obtain ⟨starts, stops', htour, hstarts, hall⟩ := ih (before ++ [n]) (by rw [hfolders, List.append_cons]) hnext
    rw [← v.folder_report] at hstops
    refine ⟨v.meet depth n w :: starts, stops ++ stops', hstops.append htour ?apart, ?starts, ?all⟩
    case apart =>
      intro s hs s' hs' k k'
      obtain ⟨n', hn', _, hplace'⟩ := hstarts s' hs'
      rw [List.mem_singleton.1 hs, hplace, hplace', List.append_assoc, List.append_assoc]
      exact List.append_left_lt (List.cons_lt_cons_iff.2 (.inl (hlater n' hn')))
    case starts =>
      intro s hs
      rcases List.mem_cons.1 hs with rfl | hs
      · exact ⟨n, List.mem_cons_self, hmeets, hplace⟩
      · obtain ⟨n', hn', hs'⟩ := hstarts s hs
        exact ⟨n', List.mem_cons_of_mem _ hn', hs'⟩
    case all =>
      intro n' hn'
      rcases List.mem_cons.1 hn' with rfl | hn'
      · exact ⟨_, List.mem_cons_self, hmeets⟩
      · obtain ⟨s, hs, hs'⟩ := hall n' hn'
        exact ⟨s, List.mem_cons_of_mem _ hs, hs'⟩

/-- Every walk makes a tour of a directory and all that is below it. -/
theorem Visit.Deep.tour (rules : List Rule) (options : TreeOptions) (h : v.Deep) :
    ∃ stops, Tour rules options [.entered v] stops ((Stop.entered v).report rules options) := by
  obtain ⟨depth, hdepth⟩ := h.depth_pos
  -- The directories below have less depth, and some of it left when the walk comes to them.
  induction depth using Nat.strongRecOn generalizing v with
  | _ depth ih =>
    rw [Stop.report, v.run_succ depth hdepth, visitDirectory]
    cases hlisting : v.listing with
    | error c =>
      rw [show v.bench.disk.members v.input = .error c from hlisting]
      exact ⟨_, .unlisted h hlisting⟩
    | ok ms =>
      have hone : ∀ n w, v.Turn rules options (walkTree rules options depth) n w → ∃ stops,
          Tour rules options [v.meet depth n w] stops ((v.meet depth n w).report rules options) := by
        intro n w hturn
        cases hmeet : v.meet depth n w with
        | leftOut path error => exact ⟨_, .leftOut path error⟩
        | entered v' =>
          have hdown := descends_of_meet hdepth hturn hmeet
          obtain ⟨depth', hdepth'⟩ := (h.step hdown).depth_pos
          have hless : v'.depth = depth := by
            cases hdown with
            | mk hdepth'' => exact Nat.succ.inj (hdepth''.symm.trans hdepth)
          exact ih depth' (by omega) (h.step hdown) hdepth'
      obtain ⟨starts, stops, htour, hstarts, hall⟩ := h.tour_folders hdepth hlisting hone [] rfl rfl
      have henter := htour.enter h hlisting (fun s hs => ?starts) fun m hm hfolder => ?folders
      case starts =>
        obtain ⟨n, _, hs'⟩ := hstarts s hs
        exact ⟨n, hs'⟩
      case folders => exact hall m.name (List.mem_map_of_mem (List.mem_filter.2 ⟨hm, hfolder⟩))
      simp only [records, hlisting] at henter
      rw [show v.bench.disk.members v.input = .ok ms from hlisting]
      exact ⟨_, henter⟩

end Walk

end Retarget
