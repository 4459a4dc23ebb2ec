import Retarget.Proofs.Accounts
import Retarget.Proofs.SavedOutput

/-!
# Tallies

A reporter is told of files and of directories that failed, one after another. It shows each of them and keeps counters,
and when all has been told it shows the counters. They are the counts of the report, in whatever order things are told,
and the exit code of a conversion hangs on them.

* `Report.tally`: the counts of a report, read off its records,
* `Reporter.tell`, `Reporter.tellAll`: one event, and one after another,
* `Reporter.tellAll_summary`: the counters are the counts of what has been told,
* `Reporter.showReport_eq`: a whole report is told, and then its counts are shown,
* `Reporter.summary_agrees`: what this means for conversions of trees, and for any events.
-/

namespace Retarget

/-! ## Counts -/

namespace Report

/-- The counts of a report, read off its records. -/
def tally (r : Report) : Summary where
  filesProcessed := r.fileCount
  filesConverted := r.convertedCount
  filesCopied := r.copiedCount
  fallbacks := r.fallbackCount
  totalReplacements := r.replacements
  errors := r.failedCount + r.folderFailures.length

/-- Something failed exactly if there are errors. -/
theorem hasFailures_eq (r : Report) : r.hasFailures = decide (0 < r.tally.errors) := by
  have herrors : r.tally.errors = r.failedCount + r.folderFailures.length := rfl
  rw [hasFailures, herrors, Bool.eq_iff_iff]
  cases r.folderFailures <;> simp

theorem replacements_eq_sum (r : Report) : r.replacements = (r.files.map fun f => f.outcome.replacements).sum := by
  rw [replacements, List.sum, List.foldr_map]

/-- The counter of a file is the difference that it makes to the counts. -/
theorem tally_file (r : Report) (f : FileRecord) :
    tally { r with files := r.files ++ [f] } = r.tally.addFile f.outcome := by
  obtain ⟨path, outcome⟩ := f
  simp only [tally, fileCount, convertedCount, copiedCount, fallbackCount, failedCount, count, replacements_eq_sum,
    List.countP_append, List.countP_singleton, List.length_append, List.length_singleton, List.map_append,
    List.sum_append, List.map_singleton, List.sum_singleton]
  cases outcome with
  | converted n hits => rfl
  | failed error => simp [FileOutcome.isConverted, FileOutcome.isCopied, FileOutcome.isFallback, FileOutcome.isFailed,
      FileOutcome.replacements, Summary.addFile, Nat.add_right_comm]
  | copied reason => cases reason <;> rfl

/-- The same for a directory that failed. -/
theorem tally_folderFailure (r : Report) (f : FolderFailure) :
    tally { r with folderFailures := r.folderFailures ++ [f] } = r.tally.addFolderFailure := by
  simp [tally, fileCount, convertedCount, copiedCount, fallbackCount, failedCount, count, replacements,
    Summary.addFolderFailure, Nat.add_assoc]

end Report

/-! ## Events -/

namespace Reporter

/-- What a reporter is told. -/
inductive Event
  | file (f : FileRecord)
  | folderFailure (f : FolderFailure)

namespace Event

def file? : Event → Option FileRecord
  | file f => some f
  | folderFailure _ => none

def folderFailure? : Event → Option FolderFailure
  | file _ => none
  | folderFailure f => some f

/-- The report that consists of what is told. -/
def report (events : List Event) : Report where
  files := events.filterMap file?
  folderFailures := events.filterMap folderFailure?

/-- What is told of a report: first its files, then the directories that failed. -/
def ofReport (r : Report) : List Event := r.files.map file ++ r.folderFailures.map folderFailure

theorem tally_report_ofReport (r : Report) : (report (ofReport r)).tally = r.tally := by
  have hfiles : (ofReport r).filterMap file? = r.files := by
    rw [ofReport, List.filterMap_append, List.filterMap_map, List.filterMap_map,
      show file? ∘ file = some from rfl, List.filterMap_some, show file? ∘ folderFailure = fun _ => none from rfl]
    simp
  have hfailures : (ofReport r).filterMap folderFailure? = r.folderFailures := by
    rw [ofReport, List.filterMap_append, List.filterMap_map, List.filterMap_map,
      show folderFailure? ∘ folderFailure = some from rfl, List.filterMap_some,
      show folderFailure? ∘ file = fun _ => none from rfl]
    simp
  rw [report, hfiles, hfailures]
  rfl

end Event

end Reporter

open Reporter (Event)

/-- Count an event. -/
def Summary.count (s : Summary) : Event → Summary
  | .file f => s.addFile f.outcome
  | .folderFailure _ => s.addFolderFailure

/-- One event makes the same difference to the counters and to the counts. -/
theorem Reporter.Event.tally_concat (events : List Event) (e : Event) :
    (report (events ++ [e])).tally = (report events).tally.count e := by
  cases e with
  | file f =>
    have hnone : [file f].filterMap folderFailure? = [] := rfl
    rw [Summary.count, ← Report.tally_file, report, List.filterMap_append, List.filterMap_append, hnone,
      List.append_nil]
    rfl
  | folderFailure f =>
    have hnone : [folderFailure f].filterMap file? = [] := rfl
    rw [Summary.count, ← Report.tally_folderFailure _ f, report, List.filterMap_append, List.filterMap_append, hnone,
      List.append_nil]
    rfl

/-- The counters are the counts, after any events. -/
theorem Summary.foldl_count (events : List Event) : events.foldl count {} = (Event.report events).tally := by
  induction events using List.reverseRecOn with
  | nil => rfl
  | append_singleton events e ih => rw [List.foldl_concat, ih, Event.tally_concat]

/-! ## Reporters -/

namespace Reporter

variable (r : Reporter) {c : Converter} {time : String} {input output : Path} {w w' : Workbench}

/-- Show an event. -/
def mention : Event → Job Unit
  | .file f => r.showFile f
  | .folderFailure f => r.showFolderFailure f

/-- Show an event and count it. -/
def tell (s : Summary) (e : Event) : Job Summary := do
  r.mention e
  return s.count e

/-- Show one event after another, and count them. -/
def tellAll (events : List Event) : Job Summary := events.foldlM r.tell {}

/-- Show the counters when all has been told. -/
def finish (report : Report) (s : Summary) (output : Path) : Job Unit :=
  if r.isText then (r.summaryLines s output).forM Job.print
  else
    match document? report s output with
    | some v => Job.print v.pretty
    | none => Job.printErr (r.paint .red "Error" ++ ": path contains invalid UTF-8 characters")

theorem foldlM_tell (s : Summary) (events : List Event) :
    events.foldlM r.tell s w = (events.foldl Summary.count s, (events.forM r.mention w).2) := by
  induction events generalizing s w with
  | nil => rfl
  | cons e rest ih => exact ih (s.count e)

/-- Any reporter counts what it is told. -/
theorem tellAll_summary (events : List Event) : (r.tellAll events w).1 = (Event.report events).tally := by
  rw [tellAll, foldlM_tell, Summary.foldl_count]

/-- All that is shown of a report comes from the events and their counts. -/
theorem showReport_eq (report : Report) (output : Path) : r.showReport report output = (do
    let s ← r.tellAll (Event.ofReport report)
    r.finish report s output
    return report.hasFailures) := by
  have htally : Summary.ofReport report = report.tally := by
    rw [← Event.tally_report_ofReport, ← Summary.foldl_count, Event.ofReport, List.foldl_append, List.foldl_map,
      List.foldl_map]
    rfl
  have hmention : (Event.ofReport report).forM r.mention =
      (do report.files.forM r.showFile; report.folderFailures.forM r.showFolderFailure) := by
    simp only [Event.ofReport, List.forM_eq_forM, List.forM_append, List.forM_map]
    rfl
  funext w
  have htell : r.tellAll (Event.ofReport report) w = (report.tally,
      (report.folderFailures.forM r.showFolderFailure (report.files.forM r.showFile w).2).2) := by
    refine Prod.ext ?_ ?_
    · rw [tellAll_summary, Event.tally_report_ofReport]
    · rw [tellAll, foldlM_tell, hmention]
      rfl
  simp only [Job.bind_apply, htell, showReport, finish, htally, Report.hasFailures_eq]
  split
  · rfl
  · cases document? report report.tally output <;> rfl

theorem showReport_failed (report : Report) (output : Path) :
    (r.showReport report output w).1 = report.hasFailures := by rw [showReport_eq]; rfl

end Reporter

namespace Command

variable {r : Reporter} {c : Converter} {time : String} {input output : Path} {backup : Bool} {code : Nat}
  {w w' : Workbench}

theorem convertAndShow_ok (h : (convertAndShow r c input output).run w = (.ok code, w')) :
    ∃ output report w₁ w₂, (c.convertTree input).run w₁ = (.ok (output, report), w₂) ∧
      w' = (r.showReport report output w₂).2 ∧ code = exitCode report.hasFailures := by
  rw [convertAndShow, Job.run_bind, Job.run_lift] at h
  rcases Job.run_orFail_cases h with ⟨e, _, he, _⟩ | ⟨⟨output, report⟩, hok, h⟩
  · cases he
  · refine ⟨output, report, _, _, Prod.ext hok rfl, (congrArg Prod.snd h).symm, ?_⟩
    rw [← Except.ok.inj (congrArg Prod.fst h)]
    exact congrArg exitCode (r.showReport_failed report output)

/-- A conversion of a tree that does not end in an error has shown its report, whether there was a backup or not. -/
theorem convertFolder_ok (h : (convertFolder r c time input backup).run w = (.ok code, w')) :
    ∃ output report w₁ w₂, (c.convertTree input).run w₁ = (.ok (output, report), w₂) ∧
      w' = (r.showReport report output w₂).2 ∧ code = exitCode report.hasFailures := by
  rw [convertFolder] at h
  rcases Job.run_orFail_cases h with ⟨e, _, he, _⟩ | ⟨output, _, h⟩
  · cases he
  rw [Job.run_bind, Job.run_look] at h
  simp only at h
  split at h
  · rw [Job.run_bind, Job.run_lift] at h
    cases backup with
    | false => exact convertAndShow_ok h
    | true =>
      simp only [Bool.true_and] at h
      rw [Job.run_bind, Job.run_look] at h
      simp only at h
      split at h
      · rcases Job.run_bind_cases h with ⟨e, _, he⟩ | ⟨_, w₁, _, h⟩
        · cases he
        · exact convertAndShow_ok h
      · exact convertAndShow_ok h
  · exact convertAndShow_ok h

theorem exitCode_eq_one {failed : Bool} : exitCode failed = 1 ↔ failed = true := by cases failed <;> decide

end Command

open Command

/-- **What is shown of a conversion agrees with its report.** However a reporter shows things:

* a report is told file by file and then directory by directory; the counters that are shown in the end are the counts
  of the report,
* the exit code of a conversion of a tree is 1 exactly if something in its report failed,
* after any events, every file has been counted as converted, copied or failed, and fallbacks among the copies. -/
theorem Reporter.summary_agrees (r : Reporter) :
    (∀ report output w, (r.tellAll (Event.ofReport report) w).1 = report.tally ∧
      r.showReport report output w = (do
        let s ← r.tellAll (Event.ofReport report)
        r.finish report s output
        return report.hasFailures : Job Bool) w) ∧
    (∀ c time input backup w code w', (convertFolder r c time input backup).run w = (.ok code, w') →
      ∃ output report w₁ w₂, (c.convertTree input).run w₁ = (.ok (output, report), w₂) ∧
        w' = (r.showReport report output w₂).2 ∧ (code = 1 ↔ report.hasFailures = true)) ∧
    ∀ events w, let s := (r.tellAll events w).1
      let failures := (events.filterMap Event.folderFailure?).length
      s = (Event.report events).tally ∧
      s.filesProcessed = s.filesConverted + s.filesCopied + (s.errors - failures) ∧ failures ≤ s.errors ∧
      s.fallbacks ≤ s.filesCopied := by
  refine ⟨fun report output w => ⟨?_, by rw [r.showReport_eq]⟩, fun c time input backup w code w' h => ?_,
    fun events w => ?_⟩
  · rw [r.tellAll_summary, Event.tally_report_ofReport]
  · obtain ⟨output, report, w₁, w₂, hrun, hw', rfl⟩ := convertFolder_ok h
    exact ⟨output, report, w₁, w₂, hrun, hw', exitCode_eq_one⟩
  · have herrors : (Event.report events).tally.errors =
        (Event.report events).failedCount + (events.filterMap Event.folderFailure?).length := rfl
    have hfiles := (Event.report events).fileCount_eq
    have hfallbacks := (Event.report events).fallbackCount_le
    simp only [r.tellAll_summary, herrors, Nat.add_sub_cancel, Nat.le_add_left, true_and]
    exact ⟨hfiles, hfallbacks⟩

/-- Events that are no report's: a directory fails before its files are told. -/
def mixedEvents : List Event :=
  [.folderFailure ⟨.ofString "shut", "Permission denied (os error 13)"⟩, .file ⟨.ofString "a.java", .converted 3 []⟩,
    .file ⟨.ofString "b.java", .copied (.fallback "not valid UTF-8")⟩, .file ⟨.ofString "c.java", .failed "cut short"⟩]

/-- A conversion in which something fails ends with code 1, and events in any order are counted. -/
theorem Reporter.summary_agrees_raggedTree :
    (∃ output report w₁ w₂ w', (convertFolder ⟨.json, false, false⟩ {} "" (.ofString "suite") false).run
        { disk := raggedTree } = (.ok 1, w') ∧
      (Converter.convertTree {} (.ofString "suite")).run w₁ = (.ok (output, report), w₂) ∧
      report.hasFailures = true) ∧
    ((⟨.json, false, false⟩ : Reporter).tellAll mixedEvents { disk := raggedTree }).1 = ⟨3, 1, 1, 1, 3, 2⟩ := by
  have hcode : ((convertFolder ⟨.json, false, false⟩ {} "" (.ofString "suite") false).run { disk := raggedTree }).1 =
      .ok 1 := by decide +kernel
  generalize hrun : (convertFolder ⟨.json, false, false⟩ {} "" (.ofString "suite") false).run
    { disk := raggedTree } = result at *
  obtain ⟨code, w'⟩ := result
  obtain rfl : code = .ok 1 := hcode
  obtain ⟨output, report, w₁, w₂, htree, -, hone⟩ := (summary_agrees ⟨.json, false, false⟩).2.1 _ _ _ _ _ _ _ hrun
  exact ⟨⟨output, report, w₁, w₂, w', rfl, htree, hone.1 rfl⟩,
    ((summary_agrees ⟨.json, false, false⟩).2.2 mixedEvents _).1⟩

end Retarget
