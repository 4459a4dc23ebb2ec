import Retarget.Proofs.Stops

/-!
# What a report accounts for

A report says of every file and every directory that a walk has met what became of it, and says it once. A directory
holds what it does when the walk lists it, so all this is true on any disk, also if a walk changes its own input.

* `Visit.Meets.unique`: there is one thing that becomes of a directory,
* `Tour.mem_iff`: a tour meets all that can be met,
* `Visit.records_path`, `Visit.mem_records_of_error`: the records of the files of one directory,
* `Tour.accounts`: the report of a whole walk,
* `convertTree_accounts`: every conversion of a tree that ends with a report.
-/

namespace Retarget

open Disk

/-! ## One thing becomes of a directory -/

section Walk

variable {rules : List Rule} {options : TreeOptions} {v v' root : Visit} {n : Name} {w w' : Workbench} {s s' : Stop}
  {ms : List Member} {starts stops : List Stop} {report : Report}

theorem Visit.Turn.unique {descend : Descent} (hd : v.bench.disk.WellFormed) (h : v.Turn rules options descend n w)
    (h' : v.Turn rules options descend n w') : w = w' := by
  cases h with
  | @mk ms before after n hmembers hfolders =>
    cases h' with
    | @mk ms' before' after' n hmembers' hfolders' =>
      cases hmembers.symm.trans hmembers'
      have hnodup := (members_spec hd hmembers).1.sublist
        ((List.filter_sublist (p := Member.isFolder)).map Member.name)
      rw [hfolders, List.nodup_middle, List.nodup_cons, List.mem_append, not_or] at hnodup
      obtain ⟨rfl, -, -⟩ := (List.append_cons_inj_of_notMem hnodup.1.1 hnodup.1.2).1 (hfolders.symm.trans hfolders')
      rfl

namespace Visit.Meets

theorem unique (hv : v.Deep) (h : v.Meets rules options n s) (h' : v.Meets rules options n s') : s = s' := by
  cases h with
  | mk hdepth hturn =>
    cases h' with
    | mk hdepth' hturn' =>
      cases Nat.succ.inj (hdepth.symm.trans hdepth')
      rw [hturn.unique hv.wellFormed hturn']

theorem path_eq (h : v.Meets rules options n s) : s.path = v.relative.join ⟨n⟩ := by
  cases h with
  | mk => exact v.meet_path ..

theorem place_eq (hv : v.Deep) (h : v.Meets rules options n s) : s.place = v.relative.steps ++ [n] := by
  cases h with
  | mk hdepth hturn => exact v.meet_place _ (hv.turn hturn).1 _

/-- What is met in a directory is a directory in its listing. -/
theorem listed (h : v.Meets rules options n s) :
    ∃ ms m, v.listing = .ok ms ∧ m ∈ ms ∧ m.isFolder = true ∧ m.name = n := by
  cases h with
  | mk hdepth hturn =>
    cases hturn with
    | @mk ms before after n hmembers hfolders =>
      obtain ⟨m, hm, rfl⟩ := List.mem_map.1 (show n ∈ (ms.filter Member.isFolder).map Member.name by simp [hfolders])
      exact ⟨ms, m, hmembers, (List.mem_filter.1 hm).1, (List.mem_filter.1 hm).2, rfl⟩

end Visit.Meets

/-! ## All that can be met -/

namespace Tour

variable (h : Tour rules options [.entered root] stops report)
include h

theorem nodup_places : (stops.map Stop.place).Nodup := by
  refine List.pairwise_map.2 (h.ordered.imp fun hlt he => ?_)
  rw [he] at hlt
  exact List.lt_irrefl _ hlt

/-- Directories at the same place are the same. -/
theorem eq_of_place (hs : s ∈ stops) (hs' : s' ∈ stops) (he : s.place = s'.place) : s = s' :=
  List.inj_on_of_nodup_map h.nodup_places hs hs' he

/-- What is met is the root, or is met in a directory that is entered. -/
theorem met_cases (hs : s ∈ stops) : s = .entered root ∨ ∃ v n, .entered v ∈ stops ∧ v.Deep ∧
    v.Meets rules options n s ∧ s.place = (Stop.entered v).place ++ [n] := by
  rcases h.met s hs with hstart | ⟨v, n, hv, hmeets⟩
  · exact .inl (List.mem_singleton.1 hstart)
  · exact .inr ⟨v, n, hv, h.deep v hv, hmeets, hmeets.place_eq (h.deep v hv)⟩

/-- The directories that are entered are those that the walk gets down to. -/
theorem entered_iff : .entered v ∈ stops ↔ root.Reaches rules options v := by
  constructor
  · intro hv
    induction hlength : (Stop.entered v).place.length using Nat.strongRecOn generalizing v with
    | _ length ih =>
      rcases h.met_cases hv with he | ⟨u, n, hu, _, hmeets, hplace⟩
      · cases he
        exact .refl
      · refine (ih _ ?_ hu rfl).tail hmeets.descends
        rw [← hlength, hplace, List.length_append, List.length_singleton]
        exact Nat.lt_succ_self _
  · intro hreach
    induction hreach with
    | refl => exact h.begins _ List.mem_cons_self
    | @tail u v' _ hdown ih =>
      obtain ⟨n, hmeets⟩ := hdown.meets
      obtain ⟨ms, m, hlisting, hm, hfolder, rfl⟩ := hmeets.listed
      obtain ⟨s, hs, hmeets'⟩ := h.meets u ms ih hlisting m hm hfolder
      rwa [hmeets.unique (h.deep u ih) hmeets']

/-- A tour meets all that can be met, and nothing else. -/
theorem mem_iff : s ∈ stops ↔
    s = .entered root ∨ ∃ v n, root.Reaches rules options v ∧ v.Meets rules options n s := by
  constructor
  · intro hs
    rcases h.met_cases hs with he | ⟨v, n, hv, _, hmeets, _⟩
    · exact .inl he
    · exact .inr ⟨v, n, h.entered_iff.1 hv, hmeets⟩
  · rintro (rfl | ⟨v, n, hreach, hmeets⟩)
    · exact h.begins _ List.mem_cons_self
    · have hv := h.entered_iff.2 hreach
      obtain ⟨ms, m, hlisting, hm, hfolder, rfl⟩ := hmeets.listed
      obtain ⟨s', hs', hmeets'⟩ := h.meets v ms hv hlisting m hm hfolder
      rwa [hmeets.unique (h.deep v hv) hmeets']

/-- Nothing is met below a directory that is left out. -/
theorem eq_of_below (hs : s ∈ stops) (hout : s.isEntered = false) (hs' : s' ∈ stops) (hbelow : s.place <+: s'.place) :
    s' = s := by
  induction hlength : s'.place.length using Nat.strongRecOn generalizing s' with
  | _ length ih =>
    rcases h.met_cases hs' with rfl | ⟨v, n, hv, _, _, hplace⟩
    · obtain ⟨t, ht, habove⟩ := h.inside s hs
      cases List.mem_singleton.1 ht
      exact h.eq_of_place hs' hs (List.IsPrefix.eq_of_length_le habove hbelow.length_le)
    · rw [hplace, List.prefix_concat_iff] at hbelow
      rcases hbelow with he | hbelow
      · exact h.eq_of_place hs' hs (hplace.trans he.symm)
      · have hv' := ih _ (by rw [← hlength, hplace]; simp) hv hbelow rfl
        cases hv'
        cases hout

end Tour

/-! ## The records of a directory -/

namespace Job

variable {α β γ : Type} {f : α → Job β}

theorem map_mapM {g : β → γ} {k : α → γ} (hf : ∀ a w, g (f a w).1 = k a) (xs : List α) (w : Workbench) :
    (xs.mapM f w).1.map g = xs.map k := by
  induction xs generalizing w with
  | nil => rfl
  | cons a xs ih =>
    rw [List.mapM_cons]
    show g (f a w).1 :: ((xs.mapM f (f a w).2).1.map g) = k a :: xs.map k
    rw [hf, ih]

theorem mem_mapM {a : α} {b : β} (hf : ∀ w, (f a w).1 = b) {xs : List α} (ha : a ∈ xs) (w : Workbench) :
    b ∈ (xs.mapM f w).1 := by
  induction xs generalizing w with
  | nil => cases ha
  | cons a' xs ih =>
    rw [List.mapM_cons]
    show b ∈ (f a' w).1 :: (xs.mapM f (f a' w).2).1
    rcases List.mem_cons.1 ha with rfl | ha
    · exact hf w ▸ List.mem_cons_self
    · exact List.mem_cons_of_mem _ (ih ha _)

end Job

theorem processMember_path (rules : List Rule) (options : TreeOptions) (input output relative : Path) (m : Member)
    (w : Workbench) : (processMember rules options input output relative m w).1.path = relative.join ⟨m.name⟩ := by
  unfold processMember
  cases m.isDirectory <;> rfl

namespace Visit

/-- There is a record for each member of a listed directory that is no directory, in order. -/
theorem records_path (rules : List Rule) (options : TreeOptions) (hlisting : v.listing = .ok ms) :
    (v.records rules options).map FileRecord.path =
      (ms.filter fun m => !m.isFolder).map fun m => v.relative.join ⟨m.name⟩ := by
  unfold records
  rw [hlisting]
  exact Job.map_mapM (processMember_path rules options v.input v.output v.relative) _ _

theorem exists_of_mem_records {r : FileRecord} (hr : r ∈ v.records rules options) :
    ∃ ms m, v.listing = .ok ms ∧ m ∈ ms ∧ m.isFolder = false ∧ r.path = v.relative.join ⟨m.name⟩ := by
  cases hlisting : v.listing with
  | error c =>
    unfold records at hr
    rw [hlisting] at hr
    cases hr
  | ok ms =>
    have hpath := List.mem_map_of_mem (f := FileRecord.path) hr
    rw [records_path rules options hlisting] at hpath
    obtain ⟨m, hm, he⟩ := List.mem_map.1 hpath
    obtain ⟨hm, hfile⟩ := List.mem_filter.1 hm
    exact ⟨ms, m, rfl, hm, by simpa using hfile, he.symm⟩

/-- A member that cannot be looked at is recorded as failed. -/
theorem mem_records_of_error {m : Member} {c : Cause} (rules : List Rule) (options : TreeOptions)
    (hlisting : v.listing = .ok ms) (hm : m ∈ ms) (hc : m.isDirectory = .error c) :
    ⟨v.relative.join ⟨m.name⟩, .failed c.message⟩ ∈ v.records rules options := by
  unfold records
  rw [hlisting]
  refine Job.mem_mapM (fun w => ?_) (List.mem_filter.2 ⟨hm, by simp [Member.isFolder, hc]⟩) _
  unfold processMember
  simp only [hc]
  rfl

theorem Deep.isName (hv : v.Deep) (hlisting : v.listing = .ok ms) {m : Member} (hm : m ∈ ms) : Path.IsName m.name :=
  (members_spec hv.wellFormed hlisting).2 _ (List.mem_map_of_mem hm)

theorem Deep.steps_of_mem_records (hv : v.Deep) {r : FileRecord} (hr : r ∈ v.records rules options) :
    ∃ n, r.path.steps = v.relative.steps ++ [n] := by
  obtain ⟨ms, m, hlisting, hm, _, hpath⟩ := exists_of_mem_records hr
  exact ⟨m.name, by rw [hpath, Path.steps_join _ (hv.isName hlisting hm)]⟩

end Visit

/-! ## The order of files -/

/-- The files of one directory are in the order of their names, and come before those of the directories in it. -/
def Path.Precedes (p q : Path) : Prop :=
  p.steps.dropLast < q.steps.dropLast ∨ p.steps.dropLast = q.steps.dropLast ∧ p.steps < q.steps

theorem Path.not_precedes_self (p : Path) : ¬ p.Precedes p := by
  rintro (hlt | ⟨_, hlt⟩) <;> exact List.lt_irrefl _ hlt

theorem Visit.Deep.records_ordered (hv : v.Deep) :
    (v.records rules options).Pairwise fun r r' => r.path.Precedes r'.path := by
  cases hlisting : v.listing with
  | error c =>
    unfold records
    rw [hlisting]
    exact .nil
  | ok ms =>
    rw [← List.pairwise_map (f := FileRecord.path), records_path rules options hlisting, List.pairwise_map]
    have hsorted := (members_sorted hv.wellFormed hlisting).1
    rw [List.pairwise_map] at hsorted
    refine (hsorted.sublist (List.filter_sublist (p := fun m => !m.isFolder))).imp_of_mem fun hm hm' hlt => ?_
    have hsteps := fun {m} (hm : m ∈ ms.filter fun m => !m.isFolder) =>
      Path.steps_join v.relative (hv.isName hlisting (List.mem_filter.1 hm).1)
    refine .inr ⟨by rw [hsteps hm, hsteps hm', List.dropLast_concat, List.dropLast_concat], ?_⟩
    rw [hsteps hm, hsteps hm']
    exact List.append_left_lt (List.cons_lt_cons_iff.2 (.inl hlt))

/-! ## What a tour leaves in its report -/

theorem Stop.failure?_path {f : FolderFailure} (hf : s.failure? = some f) : f.path = s.path := by
  cases s with
  | leftOut path error =>
    cases hf
    rfl
  | entered v =>
    rw [failure?] at hf
    split at hf
    · cases hf
      rfl
    · cases hf

namespace Tour

variable (h : Tour rules options [.entered root] stops report)
include h

theorem mem_files {r : FileRecord} : r ∈ report.files ↔ ∃ v, .entered v ∈ stops ∧ r ∈ v.records rules options := by
  rw [h.files, List.mem_flatMap]
  constructor
  · rintro ⟨s, hs, hr⟩
    cases s with
    | entered v => exact ⟨v, hs, hr⟩
    | leftOut path error => cases hr
  · rintro ⟨v, hv, hr⟩
    exact ⟨_, hv, hr⟩

theorem mem_failures {f : FolderFailure} : f ∈ report.folderFailures ↔ ∃ s ∈ stops, s.failure? = some f := by
  rw [h.failures, List.mem_filterMap]

/-- The files are in order. -/
theorem files_ordered : report.files.Pairwise fun r r' => r.path.Precedes r'.path := by
  have hdirectory : ∀ s ∈ stops, ∀ r ∈ s.records rules options, r.path.steps.dropLast = s.place := by
    intro s hs r hr
    cases s with
    | leftOut path error => cases hr
    | entered v =>
      obtain ⟨n, hsteps⟩ := (h.deep v hs).steps_of_mem_records hr
      rw [hsteps, List.dropLast_concat]
      rfl
  rw [h.files, List.pairwise_flatMap]
  refine ⟨fun s hs => ?_, h.ordered.imp_of_mem fun hs hs' hlt r hr r' hr' => .inl ?_⟩
  · cases s with
    | leftOut path error => exact .nil
    | entered v => exact (h.deep v hs).records_ordered
  · rwa [hdirectory _ hs r hr, hdirectory _ hs' r' hr']

/-- No path has two records. -/
theorem nodup_files : (report.files.map FileRecord.path).Nodup := by
  refine List.pairwise_map.2 (h.files_ordered.imp fun hprecedes he => ?_)
  rw [he] at hprecedes
  exact Path.not_precedes_self _ hprecedes

/-- No path has two failures. -/
theorem nodup_failures : (report.folderFailures.map FolderFailure.path).Nodup := by
  rw [h.failures]
  refine List.pairwise_map.2 (List.pairwise_filterMap.2 (h.ordered.imp fun hlt f hf f' hf' he => ?_))
  rw [Stop.failure?_path hf, Stop.failure?_path hf'] at he
  rw [Stop.place, Stop.place, he] at hlt
  exact List.lt_irrefl _ hlt

/-- No directory is where a file is. -/
theorem path_ne_of_mem_files {r : FileRecord} (hr : r ∈ report.files) (hs : s ∈ stops) : r.path ≠ s.path := by
  intro he
  obtain ⟨v, hv, hr⟩ := h.mem_files.1 hr
  have hdeep := h.deep v hv
  obtain ⟨ms, m, hlisting, hm, hfile, hpath⟩ := Visit.exists_of_mem_records hr
  have hplace : s.place = v.relative.steps ++ [m.name] := by
    rw [Stop.place, ← he, hpath, Path.steps_join _ (hdeep.isName hlisting hm)]
  rcases h.met_cases hs with rfl | ⟨u, n, hu, _, hmeets, hplace'⟩
  · -- The root has nothing above it.
    obtain ⟨t, ht, hbelow⟩ := h.inside _ hv
    cases List.mem_singleton.1 ht
    have hlength := hbelow.length_le
    rw [hplace, List.length_append, List.length_singleton] at hlength
    exact Nat.not_succ_le_self _ hlength
  · obtain ⟨hu', hn⟩ := List.append_inj' (hplace'.symm.trans hplace) rfl
    cases h.eq_of_place hu hv hu'
    obtain ⟨ms', m', hlisting', hm', hfolder, rfl⟩ := hmeets.listed
    cases hlisting.symm.trans hlisting'
    cases List.inj_on_of_nodup_map (members_spec hdeep.wellFormed hlisting).1 hm' hm (List.singleton_injective hn)
    rw [hfile] at hfolder
    cases hfolder

/-- The failures at the path of a directory are those of the directory. -/
theorem failures_at (hs : s ∈ stops) :
    report.folderFailures.filter (fun f => f.path == s.path) = s.failure?.toList := by
  obtain ⟨before, after, rfl⟩ := List.append_of_mem hs
  have hothers : ∀ t ∈ before ++ after, ∀ f, t.failure? = some f → ¬ (f.path == s.path) = true := by
    intro t ht f hf he
    have hnodup := h.nodup_places
    rw [List.map_append, List.map_cons, List.nodup_middle, List.nodup_cons, ← List.map_append] at hnodup
    refine hnodup.1 (List.mem_map.2 ⟨t, ht, ?_⟩)
    rw [Stop.place, Stop.place, ← Stop.failure?_path hf, beq_iff_eq.1 he]
  have hnone : ∀ ts : List Stop, (∀ t ∈ ts, t ∈ before ++ after) →
      (ts.filterMap Stop.failure?).filter (fun f => f.path == s.path) = [] := by
    intro ts hts
    refine List.filter_eq_nil_iff.2 fun f hf => ?_
    obtain ⟨t, ht, hf⟩ := List.mem_filterMap.1 hf
    exact hothers t (hts t ht) f hf
  have hone : [s].filterMap Stop.failure? = s.failure?.toList := by
    rw [List.filterMap_cons]
    cases s.failure? <;> rfl
  have hself : s.failure?.toList.filter (fun f => f.path == s.path) = s.failure?.toList := by
    refine List.filter_eq_self.2 fun f hf => ?_
    exact beq_iff_eq.2 (Stop.failure?_path (Option.mem_toList.1 hf))
  rw [h.failures, ← List.singleton_append, List.filterMap_append, List.filterMap_append, List.filter_append,
    List.filter_append, hnone before fun t => List.mem_append_left _, hnone after fun t => List.mem_append_right _,
    hone, hself, List.nil_append, List.append_nil]

end Tour

end Walk

/-! ## Counts -/

/-- Every file is converted, copied or failed. -/
theorem Report.fileCount_eq (report : Report) :
    report.fileCount = report.convertedCount + report.copiedCount + report.failedCount := by
  unfold fileCount convertedCount copiedCount failedCount count
  induction report.files with
  | nil => rfl
  | cons r files ih =>
    simp only [List.countP_cons, List.length_cons, ih]
    cases r.outcome <;> simp [FileOutcome.isConverted, FileOutcome.isCopied, FileOutcome.isFailed] <;> omega

theorem Report.fallbackCount_le (report : Report) : report.fallbackCount ≤ report.copiedCount := by
  refine List.countP_mono_left fun r _ hr => ?_
  cases hout : r.outcome with
  | copied reason => rfl
  | converted n hits | failed error =>
    rw [hout] at hr
    cases hr

/-! ## The whole walk -/

/-- What the records of a walk say of a directory that has been listed. -/
structure Visit.Listed (rules : List Rule) (options : TreeOptions) (files : List FileRecord) (v : Visit)
    (ms : List Member) : Prop where
  /-- The listing has the names in the directory, in ascending order, and says what each of them leads to. -/
  sorted : (ms.map Member.name).Pairwise (· < ·)
  whole : ∃ l mode, v.bench.disk.locate v.input = .ok l ∧ v.bench.disk.get? l = some (.directory mode) ∧
    ∀ n, n ∈ ms.map Member.name ↔ (v.bench.disk.get? (l ++ [n])).isSome
  kind : ∀ m ∈ ms, m.isDirectory = (v.bench.disk.metadata (v.input.join ⟨m.name⟩)).map Metadata.isDirectory
  /-- What is no directory has one record, in the order of the names. -/
  records : (v.records rules options).map FileRecord.path =
    (ms.filter fun m => !m.isFolder).map fun m => v.relative.join ⟨m.name⟩
  file : ∀ m ∈ ms, m.isFolder = false → ∃! r, r ∈ files ∧ r.path = v.relative.join ⟨m.name⟩
  /-- What cannot be looked at has failed. -/
  unread : ∀ m ∈ ms, ∀ c, m.isDirectory = .error c →
    ⟨v.relative.join ⟨m.name⟩, .failed c.message⟩ ∈ files
  /-- One thing becomes of what is a directory. -/
  folder : ∀ m ∈ ms, m.isFolder = true →
    ∃ s, s.path = v.relative.join ⟨m.name⟩ ∧ ∀ s', v.Meets rules options m.name s' ↔ s' = s

/-- What a report says of a whole walk, by the directories that the walk has met. -/
structure Report.Accounts (rules : List Rule) (options : TreeOptions) (report : Report) (root : Visit)
    (stops : List Stop) : Prop where
  /-- They are the root and all that is met in the directories that the walk gets down to. -/
  met : ∀ s, s ∈ stops ↔ s = .entered root ∨ ∃ v n, root.Reaches rules options v ∧ v.Meets rules options n s
  /-- Each one is met once, before all that is below it, and those in one directory in the order of their names. -/
  ordered : stops.Pairwise fun s s' => s.place < s'.place
  /-- The files of each directory come together, when it is met. -/
  files : report.files = stops.flatMap (Stop.records rules options)
  listed : ∀ v ms, root.Reaches rules options v → v.listing = .ok ms → v.Listed rules options report.files ms
  filesOrdered : report.files.Pairwise fun r r' => r.path.Precedes r'.path
  /-- The directories that are entered are counted, except for the root. -/
  folders : report.folders + 1 = stops.countP Stop.isEntered
  failures : report.folderFailures = stops.filterMap Stop.failure?
  /-- A directory has one failure if it is left out or cannot be listed, and none otherwise. -/
  failure : ∀ s ∈ stops, report.folderFailures.filter (fun f => f.path == s.path) = s.failure?.toList
  /-- Nothing is met below a directory that is left out. -/
  leftOut : ∀ s ∈ stops, s.isEntered = false → ∀ s' ∈ stops, s.place <+: s'.place → s' = s
  /-- No path comes twice. -/
  distinct : (report.files.map FileRecord.path ++ report.folderFailures.map FolderFailure.path).Nodup
  counts : report.fileCount = report.convertedCount + report.copiedCount + report.failedCount
  fallbacks : report.fallbackCount ≤ report.copiedCount

section Whole

variable {rules : List Rule} {options : TreeOptions} {root : Visit} {stops : List Stop} {report : Report}
  {input output : Path} {w w' : Workbench}

theorem Tour.listed (h : Tour rules options [.entered root] stops report) {v : Visit} {ms : List Member}
    (hv : .entered v ∈ stops) (hlisting : v.listing = .ok ms) : v.Listed rules options report.files ms := by
  have hdeep := h.deep v hv
  obtain ⟨hsorted, hwhole⟩ := members_sorted hdeep.wellFormed hlisting
  have hrecords := v.records_path rules options hlisting
  refine ⟨hsorted, hwhole, ?kind, hrecords, ?file, ?unread, ?folder⟩
  case kind =>
    obtain ⟨_, _, _, _, _, hkind⟩ := members_eq_ok hlisting
    exact hkind
  case file =>
    intro m hm hfile
    have hpath : v.relative.join ⟨m.name⟩ ∈ (v.records rules options).map FileRecord.path := by
      rw [hrecords]
      exact List.mem_map.2 ⟨m, List.mem_filter.2 ⟨hm, by simp [hfile]⟩, rfl⟩
    obtain ⟨r, hr, hr'⟩ := List.mem_map.1 hpath
    refine ⟨r, ⟨h.mem_files.2 ⟨v, hv, hr⟩, hr'⟩, fun r' ⟨hmem, he⟩ => ?_⟩
    exact List.inj_on_of_nodup_map h.nodup_files hmem (h.mem_files.2 ⟨v, hv, hr⟩) (he.trans hr'.symm)
  case unread =>
    intro m hm c hc
    exact h.mem_files.2 ⟨v, hv, Visit.mem_records_of_error rules options hlisting hm hc⟩
  case folder =>
    intro m hm hfolder
    obtain ⟨s, _, hmeets⟩ := h.meets v ms hv hlisting m hm hfolder
    exact ⟨s, hmeets.path_eq, fun s' => ⟨fun hmeets' => hmeets'.unique hdeep hmeets, fun he => he ▸ hmeets⟩⟩

theorem Tour.accounts (h : Tour rules options [.entered root] stops ({ folders := 1 : Report } ++ report)) :
    report.Accounts rules options root stops where
  met _ := h.mem_iff
  ordered := h.ordered
  files := h.files
  listed _ _ hreach hlisting := h.listed (h.entered_iff.2 hreach) hlisting
  filesOrdered := h.files_ordered
  folders := (Nat.add_comm _ _).trans h.folders
  failures := h.failures
  failure s hs := h.failures_at hs
  leftOut s hs hout s' hs' hbelow := h.eq_of_below hs hout hs' hbelow
  distinct := by
    refine List.nodup_append.2 ⟨h.nodup_files, h.nodup_failures, fun p hp p' hp' he => ?_⟩
    obtain ⟨r, hr, rfl⟩ := List.mem_map.1 hp
    obtain ⟨f, hf, rfl⟩ := List.mem_map.1 hp'
    obtain ⟨s, hs, hf⟩ := h.mem_failures.1 hf
    exact h.path_ne_of_mem_files hr hs (he.trans (Stop.failure?_path hf))
  counts := report.fileCount_eq
  fallbacks := report.fallbackCount_le

/-- A conversion of a tree that ends with a report has walked through the tree. -/
theorem convertTree_eq_ok (h : (convertTree rules options input output).run w = (.ok report, w')) :
    ∃ d canonical, checkRoots w.disk input output = .ok () ∧ w.disk.makeDirectories output = (.ok (), d) ∧
      d.canonicalize input = .ok canonical ∧
      (Visit.atRoot options input output canonical { w with disk := d }).run rules options = (report, w') := by
  unfold convertTree at h
  rcases Job.run_orFail_cases h with ⟨e, _, he, _⟩ | ⟨u, hroots, h⟩
  · cases he
  rcases Job.run_orFail_cases h with ⟨e, _, he, _⟩ | ⟨u', hmake, h⟩
  · cases he
  rw [Job.run_bind, Job.run_lift] at h
  rcases Job.run_orFail_cases h with ⟨e, _, he, _⟩ | ⟨canonical, hcanonical, h⟩
  · cases he
  cases h
  exact ⟨_, canonical, hroots, Prod.ext hmake rfl, hcanonical, rfl⟩

/-- **A report accounts for all that was met.** The report of a conversion of a tree has, for each directory that was
listed, one record for each entry that is no directory, in order, and for each directory that was met, a count or one
failure, and no path comes twice. -/
theorem convertTree_accounts (hd : w.disk.WellFormed)
    (h : (convertTree rules options input output).run w = (.ok report, w')) :
    ∃ d canonical stops, w.disk.makeDirectories output = (.ok (), d) ∧ d.canonicalize input = .ok canonical ∧
      report.Accounts rules options (.atRoot options input output canonical { w with disk := d }) stops := by
  obtain ⟨d, canonical, _, hmake, hcanonical, hrun⟩ := convertTree_eq_ok h
  have hgrows := makeDirectories_grows w.disk output
  rw [hmake] at hgrows
  obtain ⟨_, hcheck, _⟩ := bind_eq_ok.1 hcanonical
  have hdeep : (Visit.atRoot options input output canonical { w with disk := d }).Deep := by
    refine ⟨hgrows.wellFormed hd, hcheck, ?_⟩
    have hpos := List.length_pos_iff.2 (checkPath_eq_ok hcheck).1
    show Path.lengthLimit < input.bytes.length + Path.lengthLimit
    omega
  obtain ⟨stops, htour⟩ := hdeep.tour rules options
  rw [Stop.report, hrun] at htour
  exact ⟨d, canonical, stops, hmake, hcanonical, htour.accounts⟩

end Whole

/-- A tree with a link up from one of its directories, a directory that cannot be listed, and a link to nothing. -/
def raggedTree : Disk where
  entries :=
    [([Text.encode "suite"], .directory 0o755),
      ([Text.encode "suite", Text.encode "a"], .directory 0o755),
      ([Text.encode "suite", Text.encode "a", Text.encode "up"], .link (.ofString "..")),
      ([Text.encode "suite", Text.encode "b.png"], .file (Text.encode "x") 0o644),
      ([Text.encode "suite", Text.encode "c"], .directory 0),
      ([Text.encode "suite", Text.encode "d"], .link (.ofString "nowhere"))]
  privileged := false

/-- The report of its conversion. -/
def raggedReport : Report where
  files :=
    [⟨.ofString "b.png", .copied .opaqueData⟩, ⟨.ofString "d", .failed "No such file or directory (os error 2)"⟩]
  folders := 2
  folderFailures :=
    [⟨.ofString "a/up", "directory cycle back to /suite"⟩, ⟨.ofString "c", "Permission denied (os error 13)"⟩]

theorem convertTree_accounts_raggedTree : raggedTree.WellFormed ∧ ∃ w d canonical stops,
    (convertTree [] {} (.ofString "suite") (.ofString "out")).run { disk := raggedTree } = (.ok raggedReport, w) ∧
      raggedReport.Accounts [] {} (.atRoot {} (.ofString "suite") (.ofString "out") canonical { disk := d }) stops := by
  have hd : raggedTree.WellFormed := by decide +kernel
  have hreport : ((convertTree [] {} (.ofString "suite") (.ofString "out")).run { disk := raggedTree }).1 =
      .ok raggedReport := by decide +kernel
  generalize hrun : (convertTree [] {} (.ofString "suite") (.ofString "out")).run { disk := raggedTree } = result at *
  obtain ⟨r, w⟩ := result
  obtain rfl : r = .ok raggedReport := hreport
  obtain ⟨d, canonical, stops, _, _, haccounts⟩ := convertTree_accounts hd hrun
  exact ⟨hd, w, d, canonical, stops, rfl, haccounts⟩

end Retarget
