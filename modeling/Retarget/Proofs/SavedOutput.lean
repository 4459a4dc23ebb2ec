import Retarget.Command.Run
import Retarget.Proofs.BackupCopy
import Retarget.Proofs.InputKept

/-!
# No output is lost

A conversion with a backup touches an old output only after all of it has been copied to a new directory. If anything
cannot be copied, the conversion fails and the output stays.

* `Command.Saved`: an output is complete in a backup,
* `Command.backUp_spec`: a backup that does not fail is complete, and one that fails leaves the output alone,
* `Command.convertFolder_saves`: a conversion fails with the output untouched, or the output has been saved before.
-/

namespace Retarget

open Disk

/-! ## What is printed -/

namespace Reporter

variable (r : Reporter) (w : Workbench)

@[simp] theorem print_disk (line : String) : (r.print line w).2.disk = w.disk := by
  unfold print
  split <;> rfl

@[simp] theorem printErr_disk (line : String) : (r.printErr line w).2.disk = w.disk := by
  unfold printErr
  split <;> rfl

theorem print_said {line : String} (h : r.isText = true) : (r.print line w).2.said = .out (line ++ "\n") :: w.said := by
  rw [print, if_pos h]
  rfl

theorem forM_disk {α : Type} {f : α → Job Unit} (hf : ∀ a w, (f a w).2.disk = w.disk) (xs : List α) :
    (xs.forM f w).2.disk = w.disk := by
  induction xs generalizing w with
  | nil => rfl
  | cons x xs ih => exact (ih _).trans (hf x w)

theorem showFile_disk (f : FileRecord) : (r.showFile f w).2.disk = w.disk := by
  obtain ⟨path, outcome⟩ := f
  cases outcome with
  | converted count hits =>
    simp only [showFile]
    split
    · exact r.print_disk w _
    · rfl
  | copied reason =>
    cases reason with
    | fallback error => exact r.printErr_disk w _
    | opaqueData | excluded =>
      simp only [showFile]
      split
      · exact r.print_disk w _
      · rfl
  | failed error => exact r.printErr_disk w _

/-- A report changes nothing. -/
theorem showReport_disk (report : Report) (output : Path) : (r.showReport report output w).2.disk = w.disk := by
  have hrecords : (report.folderFailures.forM r.showFolderFailure (report.files.forM r.showFile w).2).2.disk =
      w.disk := by
    have hfailure : ∀ f w, (r.showFolderFailure f w).2.disk = w.disk := fun _ w => r.printErr_disk w _
    rw [forM_disk _ hfailure, forM_disk _ fun f w => r.showFile_disk w f]
  unfold showReport
  simp only [Job.bind_apply]
  split
  · exact (forM_disk _ (fun _ _ => rfl) _).trans hrecords
  · cases document? report (Summary.ofReport report) output <;> exact hrecords

end Reporter

namespace Command

open Backup

variable {r : Reporter} {c : Converter} {time : String} {input output q : Path} {l : Location} {n : Name}
  {w w' : Workbench}

/-! ## Backups -/

/-- The line that tells of a backup. -/
def savedLine (r : Reporter) (copy : Path) (count : Nat) : String :=
  r.paint .bold "Backup" ++ s!": {count} file(s) saved to {copy.display}"

/-- The parts of a backup: a new directory, and a copy in it. -/
theorem backUp_cases {parent : Path} {res : Except (List String) Unit} (hparent : output.parent? = some parent)
    (h : (backUp r time output).run w = (res, w')) :
    (∃ e, (openSession (parent.join (.ofString folderName)) time).run w = (.error e, w') ∧
      ∃ messages, res = .error messages) ∨
    ∃ session w₁ w₂, (openSession (parent.join (.ofString folderName)) time).run w = (.ok session, w₁) ∧
      w₂.disk = w₁.disk ∧
      ((∃ e, (copyTree session output).run w₂ = (.error e, w') ∧ ∃ messages, res = .error messages) ∨
      ∃ copy count w₃, (copyTree session output).run w₂ = (.ok (copy, count), w₃) ∧ w'.disk = w₃.disk ∧
        (r.isText = true → .out (savedLine r copy count ++ "\n") ∈ w'.said)) := by
  rw [backUp, hparent] at h
  simp only at h
  rcases Job.run_orFail_cases h with ⟨e, he, rfl, rfl⟩ | ⟨session, hsession, h⟩
  · exact .inl ⟨e, Prod.ext he rfl, _, rfl⟩
  obtain ⟨w₂, hw₂, h⟩ : ∃ w₂ : Workbench,
      w₂.disk = ((openSession (parent.join (.ofString folderName)) time).run w).2.disk ∧
      (do let x ← Job.orFail (copyTree session output).run BackupError.chain
          liftM (r.print (savedLine r x.1 x.2)) : Task Unit).run w₂ = (res, w') := by
    split at h
    · rw [Job.run_bind, Job.run_lift] at h
      exact ⟨_, r.print_disk _ _, h⟩
    · exact ⟨_, rfl, h⟩
  refine .inr ⟨session, _, w₂, Prod.ext hsession rfl, hw₂, ?_⟩
  rcases Job.run_orFail_cases h with ⟨e, he, rfl, rfl⟩ | ⟨⟨copy, count⟩, hcopy, h⟩
  · exact .inl ⟨e, Prod.ext he rfl, _, rfl⟩
  · rw [Job.run_lift] at h
    cases h
    refine .inr ⟨copy, count, _, Prod.ext hcopy rfl, r.print_disk _ _, fun htext => ?_⟩
    rw [r.print_said _ htext]
    exact List.mem_cons_self

/-- An output under the name `n` in the directory `l` is complete in a new directory for backups, and nothing else has
happened. The `files` are the entries of the output that are no directories. -/
structure Saved (r : Reporter) (output copy : Path) (l : Location) (n session : Name) (before after : Workbench)
    (files : List Location) : Prop where
  fresh : before.disk.get? (folderPlace l ++ [session]) = none
  directory : ∃ m, before.disk.get? (l ++ [n]) = some (.directory m)
  copied : (CopySite.mk output copy (l ++ [n]) (folderPlace l ++ [session] ++ [n])).Copied (fun _ => True) before.disk
    after.disk files
  /-- What could be read in the output, links included, has the same bytes in the copy. -/
  sameBytes : ∀ rel ∈ files, ∀ bytes, before.disk.read (output.below rel) = .ok bytes →
    ∃ m, after.disk.get? (folderPlace l ++ [session] ++ [n] ++ rel) = some (.file bytes m)
  reported : r.isText = true → .out (savedLine r copy files.length ++ "\n") ∈ after.said
  keeps : Extends before.disk after.disk
  frame : ∀ k, ¬ folderPlace l <+: k → after.disk.get? k = before.disk.get? k

theorem not_in_folder (hne : n ≠ Text.encode folderName) (rest : Location) :
    ¬ folderPlace l <+: l ++ [n] ++ rest := by
  rw [List.append_assoc, List.prefix_append_right_inj, List.singleton_append, List.cons_prefix_cons]
  exact fun h => hne h.1.symm

/-- A backup adds to the backup directory only. If it does not fail, the output is complete in it. -/
theorem backUp_spec {m : Mode} {moment : Timestamp.Moment} {res : Except (List String) Unit} (hd : w.disk.WellFormed)
    (hn : Path.IsName n) (hne : n ≠ Text.encode folderName) (hq : w.disk.Leads q l)
    (hl : w.disk.get? l = some (.directory m)) (hlink : ∀ t, w.disk.get? (folderPlace l) ≠ some (.link t))
    (h : (backUp r (moment.render "-") (q.join ⟨n⟩)).run w = (res, w')) :
    Grows w.disk w'.disk ∧ (∀ k, ¬ folderPlace l <+: k → w'.disk.get? k = w.disk.get? k) ∧
      ((∃ messages, res = .error messages) ∨
      ∃ i copy files, Saved r (q.join ⟨n⟩) copy l n (Text.encode (sessionName (moment.render "-") i)) w w' files) := by
  obtain ⟨parent, hparent, hleads⟩ := hq.parent hn
  rcases backUp_cases hparent h with ⟨e, hopen, hres⟩ | ⟨session, w₁, w₂, hopen, hw₂, hcopy⟩
  · obtain ⟨hgrows, hframe, _⟩ := openSession_spec hd hleads hl hlink hopen
    exact ⟨hgrows, hframe, .inl hres⟩
  obtain ⟨hgrows, hframe, hopened⟩ := openSession_spec hd hleads hl hlink hopen
  obtain ⟨i, hnew, hbare⟩ := hopened session rfl
  rw [← hw₂] at hgrows hframe hnew hbare
  have hready : (CopySite.mk q session l (folderPlace l ++ [Text.encode (sessionName (moment.render "-") i)])).Ready
      w₂.disk :=
    ⟨hgrows.wellFormed hd, hq.mono hgrows.keeps, ⟨m, hgrows.keeps.get _ _ hl⟩, hnew.leads, hnew.directory⟩
  have hapart : ((CopySite.mk q session l
      (folderPlace l ++ [Text.encode (sessionName (moment.render "-") i)])).into n).Apart := by
    intro rel rel' he
    exact not_in_folder (l := l) hne rel ⟨_, by simpa [CopySite.into] using he.symm⟩
  -- Copies go to the backup directory, too.
  have hafter : ∀ {r₁ w₃}, (copyTree session (q.join ⟨n⟩)).run w₂ = (r₁, w₃) →
      Grows w.disk w₃.disk ∧ ∀ k, ¬ folderPlace l <+: k → w₃.disk.get? k = w.disk.get? k := by
    intro r₁ w₃ hrun
    have heffect := (copyTree_effect hready hapart hn (hbare n) hrun).1
    refine ⟨hgrows.trans heffect.grows, fun k hk => ?_⟩
    rw [heffect.frame k fun rel _ he => hk ⟨_, by simpa [CopySite.into] using he.symm⟩, hframe k hk]
  rcases hcopy with ⟨e, hrun, hres⟩ | ⟨copy, count, w₃, hrun, hw', hsaid⟩
  · obtain ⟨hgrows', hframe'⟩ := hafter hrun
    exact ⟨hgrows', hframe', .inl hres⟩
  obtain ⟨hgrows', hframe'⟩ := hafter hrun
  obtain ⟨heffect, hdone⟩ := copyTree_effect hready hapart hn (hbare n) hrun
  obtain ⟨rfl, hdir⟩ := hdone copy count rfl
  obtain ⟨files, rfl, hfiles⟩ := heffect.copied count rfl
  have hplace := fun rel => not_in_folder (l := l) hne rel
  have hcopied := hfiles.mono (.refl w₃.disk) fun rel => (hframe' _ (hplace rel)).symm
  rw [← hw'] at hgrows' hframe' hcopied
  refine ⟨hgrows', hframe', .inr ⟨i, _, files, hnew.fresh, ?directory, hcopied, ?same, hsaid, hgrows'.keeps, hframe'⟩⟩
  case directory =>
    rw [← List.append_nil (l ++ [n]), ← hframe _ (hplace []), List.append_nil]
    exact hdir
  case same =>
    intro rel hrel bytes hread
    obtain ⟨_, e, he, hother⟩ := (hcopied.mem_files rel).1 hrel
    obtain ⟨bytes', mode, hget, hread', _⟩ := hcopied.file rel e trivial he hother
    cases (read_mono hgrows'.keeps hread).symm.trans hread'
    exact ⟨mode, hget⟩

/-! ## Conversions -/

/-- What a conversion of a tree does once there is a backup, or none is wanted. -/
def convertAndShow (r : Reporter) (c : Converter) (input output : Path) : Task Nat := do
  r.print (r.paint .bold "Converting folder" ++ s!": {input.display} -> {output.display}")
  let (output, report) ← Job.orFail (c.convertTree input).run ConvertError.chain
  return exitCode (← r.showReport report output)

theorem convertAndShow_cases {res : Except (List String) Nat}
    (h : (convertAndShow r c input output).run w = (res, w')) :
    ∃ w₁ r₁ w₂, w₁.disk = w.disk ∧ (c.convertTree input).run w₁ = (r₁, w₂) ∧ w'.disk = w₂.disk ∧
      ∀ e, r₁ = .error e → ∃ messages, res = .error messages := by
  rw [convertAndShow, Job.run_bind, Job.run_lift] at h
  rcases Job.run_orFail_cases h with ⟨e, he, rfl, rfl⟩ | ⟨⟨output, report⟩, hok, h⟩
  · exact ⟨_, _, _, r.print_disk w _, Prod.ext he rfl, rfl, fun _ _ => ⟨_, rfl⟩⟩
  · cases h
    exact ⟨_, _, _, r.print_disk w _, Prod.ext hok rfl, r.showReport_disk _ report output, by simp⟩

/-- The parts of a conversion to an output that is there already. -/
theorem convertFolder_cases {res : Except (List String) Nat} (houtput : treeOutput w.disk input = .ok output)
    (hexists : w.disk.exists output = true) (h : (convertFolder r c time input true).run w = (res, w')) :
    ∃ w₀ : Workbench, w₀.disk = w.disk ∧
      ((w.disk.isDirectory input = false ∧ (convertAndShow r c input output).run w₀ = (res, w')) ∨
      (∃ messages, (backUp r time output).run w₀ = (.error messages, w') ∧ res = .error messages) ∨
      ∃ w₁, (backUp r time output).run w₀ = (.ok (), w₁) ∧ (convertAndShow r c input output).run w₁ = (res, w')) := by
  have hask : Job.ask (fun d => treeOutput d input) w = (.ok output, w) := by rw [Job.ask_apply, houtput]
  rw [convertFolder, Job.run_orFail_ok hask, Job.run_bind, Job.run_look] at h
  simp only [hexists, if_true] at h
  rw [Job.run_bind, Job.run_lift] at h
  simp only at h
  rw [Job.run_bind, Job.run_look, r.printErr_disk] at h
  cases hdir : w.disk.isDirectory input with
  | false =>
    simp only [hdir, Bool.and_false, Bool.false_eq_true, if_false] at h
    exact ⟨_, r.printErr_disk w _, .inl ⟨rfl, h⟩⟩
  | true =>
    simp only [hdir, Bool.and_true, if_true] at h
    rcases Job.run_bind_cases h with ⟨messages, hrun, rfl⟩ | ⟨_, w₁, hrun, h⟩
    · exact ⟨_, r.printErr_disk w _, .inr (.inl ⟨messages, hrun, rfl⟩)⟩
    · exact ⟨_, r.printErr_disk w _, .inr (.inr ⟨w₁, hrun, h⟩)⟩

/-- Without an input, nothing is converted. -/
theorem convertTree_no_input {r₁ : Except ConvertError (Path × Report)} (hdir : w.disk.isDirectory input = false)
    (h : (c.convertTree input).run w = (r₁, w')) : (∃ e, r₁ = .error e) ∧ w'.disk = w.disk := by
  rw [Converter.convertTree] at h
  rcases Job.run_orFail_cases h with ⟨e, _, rfl, rfl⟩ | ⟨output, _, h⟩
  · exact ⟨⟨_, rfl⟩, rfl⟩
  rcases Job.run_orFail_cases h with ⟨e, _, rfl, rfl⟩ | ⟨_, hroots, _⟩
  · exact ⟨⟨_, rfl⟩, rfl⟩
  · obtain ⟨l, m, _, hl, hm, _⟩ := checkRoots_eq_ok hroots
    cases (isDirectory_eq_true.2 ⟨l, m, hl, hm⟩).symm.trans hdir

/-- A conversion keeps what is not in the output. -/
theorem convertTree_keeps {place k : Location} {e : Entry} {r₁ : Except ConvertError (Path × Report)}
    (hd : w.disk.WellFormed) (houtput : treeOutput w.disk input = .ok output) (hplace : w.disk.EndsAt output place)
    (hk : ¬ place <+: k) (h : (c.convertTree input).run w = (r₁, w')) (he : w.disk.get? k = some e) :
    w'.disk.get? k = some e := by
  have hspares : Spares [k] w.disk ((c.convertTree input).run w).2.disk := by
    refine Converter.convertTree_spares hd fun output' place' houtput' hplace' k' hk' => ?_
    cases houtput.symm.trans houtput'
    rw [List.mem_singleton.1 hk', hplace'.unique hplace]
    exact hk
  rw [h] at hspares
  exact hspares.keeps k List.mem_cons_self e he

theorem folderName_ne_marked (k : Name) : Path.outputMarker ++ k ≠ Text.encode folderName := by
  intro he
  have hmarker : Path.outputMarker.head? = some 99 := by decide +kernel
  have hfolder : (Text.encode folderName).head? = some 46 := by decide +kernel
  rw [← he, List.head?_append, hmarker] at hfolder
  simp at hfolder

/-- The output of a tree stands under a name of its own, in the directory of the backups. -/
theorem output_place {d : Disk} (hd : d.WellFormed) (houtput : treeOutput d input = .ok output)
    (hplace : d.EndsAt output (l ++ [n])) :
    ∃ q m, Path.IsName n ∧ output = q.join ⟨n⟩ ∧ d.Leads q l ∧ d.get? l = some (.directory m) ∧
      n ≠ Text.encode folderName := by
  obtain ⟨q, n', hn, rfl, _⟩ := treeOutput_spec hd houtput
  obtain ⟨l', m, happroach, heq⟩ := (endsAt_join hn).1 hplace
  obtain ⟨rfl, hname⟩ := List.append_inj' heq rfl
  obtain rfl : n = n' := by simpa using hname
  obtain ⟨_, hleads, henter, _⟩ := approach_join_spec hn happroach
  obtain ⟨k, hk⟩ := treeOutput_marked houtput
  rw [q.fileName?_join hn, Option.some.injEq] at hk
  exact ⟨q, m, hn, rfl, hleads, enter_directory henter, hk ▸ folderName_ne_marked k⟩

/-- A conversion has failed, and the output is as it was. -/
def Untouched (place : Location) (before after : Disk) (res : Except (List String) Nat) : Prop :=
  (∃ messages, res = .error messages) ∧ ∀ rest, after.get? (place ++ rest) = before.get? (place ++ rest)

/-- The output is not touched, or it has been saved before and the backup stays. -/
theorem convertFolder_outcome {moment : Timestamp.Moment} {res : Except (List String) Nat} (hd : w.disk.WellFormed)
    (houtput : treeOutput w.disk input = .ok output) (hexists : w.disk.exists output = true)
    (hplace : w.disk.EndsAt output (l ++ [n])) (hlink : ∀ t, w.disk.get? (folderPlace l) ≠ some (.link t))
    (h : (convertFolder r c (moment.render "-") input true).run w = (res, w')) :
    Untouched (l ++ [n]) w.disk w'.disk res ∨
    ∃ i copy files w₀ w₁, w₀.disk = w.disk ∧ (backUp r (moment.render "-") output).run w₀ = (.ok (), w₁) ∧
      Saved r output copy l n (Text.encode (sessionName (moment.render "-") i)) w₀ w₁ files ∧
      ∀ k e, folderPlace l <+: k → w₁.disk.get? k = some e → w'.disk.get? k = some e := by
  obtain ⟨q, m, hn, rfl, hleads, hl, hne⟩ := output_place hd houtput hplace
  obtain ⟨w₀, hw₀, ⟨hdir, h⟩ | ⟨messages, hrun, rfl⟩ | ⟨w₁, hrun, h⟩⟩ := convertFolder_cases houtput hexists h
  · obtain ⟨w₁, r₁, w₂, hw₁, hrun, hw', hres⟩ := convertAndShow_cases h
    rw [← hw₀, ← hw₁] at hdir
    obtain ⟨⟨e, he⟩, hsame⟩ := convertTree_no_input hdir hrun
    exact .inl ⟨hres e he, fun rest => by rw [hw', hsame, hw₁, hw₀]⟩
  · rw [← hw₀] at hd hleads hl hlink
    obtain ⟨_, hframe, _⟩ := backUp_spec hd hn hne hleads hl hlink hrun
    exact .inl ⟨⟨_, rfl⟩, fun rest => by rw [hframe _ (not_in_folder hne rest), hw₀]⟩
  · rw [← hw₀] at hd hleads hl hlink
    obtain ⟨hgrows, hframe, herror | ⟨i, copy, files, hsaved⟩⟩ :=
      backUp_spec hd hn hne hleads hl hlink hrun
    · obtain ⟨_, he⟩ := herror
      cases he
    refine .inr ⟨i, copy, files, w₀, w₁, hw₀, hrun, hsaved, fun k e hk he => ?_⟩
    obtain ⟨w₂, r₁, w₃, hw₂, hconvert, hw', _⟩ := convertAndShow_cases h
    rw [← hw₀] at houtput hplace
    rw [hw']
    rw [← hw₂] at he hgrows
    refine convertTree_keeps (hgrows.wellFormed hd) (treeOutput_mono hgrows.keeps houtput)
      (hplace.mono hn hgrows.keeps) (fun hbelow => hne ?_) hconvert he
    have hsame := (List.prefix_of_prefix_length_le hbelow hk (by simp)).eq_of_length (by simp)
    simpa using hsame

/-- What cannot be read in an output cannot be read when there is more in the backup directory, unless something was
missing there. -/
theorem Saved.read_error {copy : Path} {session : Name} {files : List Location} {p : Path} {cause : Cause}
    (h : Saved r output copy l n session w w' files) (hread : w.disk.read p = .error cause)
    (hmissing : cause = .notFound → ∀ k ∈ w.disk.pathTrail p, w.disk.get? k = none → ¬ folderPlace l <+: k) :
    w'.disk.read p = .error cause := by
  by_cases hcause : cause = .notFound
  · rw [read_congr (fun k hk => ?_) h.keeps.current h.keeps.privileged, hread]
    cases he : w.disk.get? k with
    | none => rw [h.frame k (hmissing hcause k hk he), he]
    | some e => exact h.keeps.get k e he
  · exact read_error_mono h.keeps hread hcause

/-- A directory in an output is not missed. -/
theorem list_below_ne_notFound {d : Disk} {rel : Location} {m : Mode} (hd : d.WellFormed)
    (houtput : treeOutput d input = .ok output) (hplace : d.EndsAt output (l ++ [n]))
    (hdir : d.get? (l ++ [n] ++ rel) = some (.directory m)) : d.list (output.below rel) ≠ .error .notFound := by
  obtain ⟨q, _, _, rfl, hleads, _⟩ := output_place hd houtput hplace
  rw [List.append_assoc, List.singleton_append] at hdir
  have hnames : ∀ k ∈ n :: rel, Path.IsName k := fun k hk => hd.isName hdir k (List.mem_append_right l hk)
  have hdirs : ∀ k, k <+: n :: rel → ∃ m, d.get? (l ++ k) = some (.directory m) := by
    rintro k ⟨rest, hk⟩
    rw [← hk, ← List.append_assoc] at hdir
    by_cases hrest : rest = []
    · rw [hrest, List.append_nil] at hdir
      exact ⟨m, hdir⟩
    · exact hd.above hdir hrest
  obtain ⟨q', n', hn', hjoin, hsteps⟩ := q.below_eq_join (by simp) hnames
  obtain ⟨k, _, hwalk⟩ := walk_append hleads (n :: rel)
  have hstart : d.start (q.below (n :: rel)) = d.start q := by rw [start, start, (q.steps_below hnames).2]
  show d.list (q.below (n :: rel)) ≠ _
  rw [list, locate, hsteps, hstart, hwalk]
  cases hcheck : checkPath (q.below (n :: rel)) with
  | error c =>
    rintro he
    obtain rfl : c = .notFound := Except.error.inj he
    exact checkPath_join_ne_notFound q' hn' (hjoin ▸ hcheck)
  | ok u =>
    rcases walk_directories .whole k hnames hdirs with hw | ⟨c, hc, hw⟩
    · rw [hw]
      simp only [bind, Except.bind, directoryMode_eq_ok.2 hdir]
      split <;> simp
    · rw [hw]
      simpa [bind, Except.bind] using hc

/-- No output is cleared without a complete backup. A conversion to an old output fails and leaves it as it was, or all
of it has been copied to a new directory before, with the number of files reported, and the copy stays. It fails if the
output is no directory, or if anything in it cannot be read. Only an entry that is missed in the backup directory may
be there when its turn comes. -/
theorem convertFolder_saves {moment : Timestamp.Moment} {res : Except (List String) Nat} (hd : w.disk.WellFormed)
    (houtput : treeOutput w.disk input = .ok output) (hexists : w.disk.exists output = true)
    (hplace : w.disk.EndsAt output (l ++ [n])) (hlink : ∀ t, w.disk.get? (folderPlace l) ≠ some (.link t))
    (h : (convertFolder r c (moment.render "-") input true).run w = (res, w')) :
    (Untouched (l ++ [n]) w.disk w'.disk res ∨
      ∃ i copy files w₀ w₁, w₀.disk = w.disk ∧ (backUp r (moment.render "-") output).run w₀ = (.ok (), w₁) ∧
        Saved r output copy l n (Text.encode (sessionName (moment.render "-") i)) w₀ w₁ files ∧
        ∀ k e, folderPlace l <+: k → w₁.disk.get? k = some e → w'.disk.get? k = some e) ∧
    ((∀ m, w.disk.get? (l ++ [n]) ≠ some (.directory m)) → Untouched (l ++ [n]) w.disk w'.disk res) ∧
    (∀ rel m cause, w.disk.get? (l ++ [n] ++ rel) = some (.directory m) →
      w.disk.list (output.below rel) = .error cause → Untouched (l ++ [n]) w.disk w'.disk res) ∧
    ∀ rel e cause, w.disk.get? (l ++ [n] ++ rel) = some e → (∀ m, e ≠ .directory m) →
      w.disk.read (output.below rel) = .error cause →
      (cause = .notFound → ∀ k ∈ w.disk.pathTrail (output.below rel), w.disk.get? k = none → ¬ folderPlace l <+: k) →
      Untouched (l ++ [n]) w.disk w'.disk res := by
  have hcases := convertFolder_outcome hd houtput hexists hplace hlink h
  refine ⟨hcases, fun hother => ?_, fun rel m cause hdir hlist => ?_, fun rel e cause he hother hread hmissing => ?_⟩
  · rcases hcases with hfailed | ⟨i, copy, files, w₀, w₁, hw₀, _, hsaved, _⟩
    · exact hfailed
    · obtain ⟨m, hm⟩ := hsaved.directory
      exact (hother m (hw₀ ▸ hm)).elim
  · rcases hcases with hfailed | ⟨i, copy, files, w₀, w₁, hw₀, _, hsaved, _⟩
    · exact hfailed
    · have hcause : cause ≠ .notFound := by
        rintro rfl
        exact list_below_ne_notFound hd houtput hplace hdir hlist
      rw [← hw₀] at hdir hlist
      obtain ⟨_, _, _, hlist'⟩ := hsaved.copied.folder rel m trivial hdir
      cases (list_error_mono hsaved.keeps hlist hcause).symm.trans hlist'
  · rcases hcases with hfailed | ⟨i, copy, files, w₀, w₁, hw₀, _, hsaved, _⟩
    · exact hfailed
    · rw [← hw₀] at he hread hmissing
      obtain ⟨bytes, _, _, hread', _⟩ := hsaved.copied.file rel e trivial he hother
      cases (hsaved.read_error hread hmissing).symm.trans hread'

/-- A reporter to people. -/
def plainReporter : Reporter := ⟨.text, false, false⟩

/-- The second of January 2024, at a quarter past three. -/
def quarterPastThree : Timestamp.Moment := ⟨2024, 1, 2, 3, 15, 0⟩

/-- A tree beside an old output, with a file in it and a link to that. -/
def linkedOutput : Disk where
  entries :=
    [([Text.encode "suite"], .directory 0o755),
      ([Text.encode "suite", Text.encode "a.txt"], .file (Text.encode "new") 0o644),
      ([Text.encode "converted_suite"], .directory 0o755),
      ([Text.encode "converted_suite", Text.encode "a.txt"], .file (Text.encode "old") 0o644),
      ([Text.encode "converted_suite", Text.encode "b.txt"], .link (.ofString "a.txt"))]

theorem convertFolder_saves_linkedOutput : ∃ i m,
    ((convertFolder plainReporter { registry := .empty } (quarterPastThree.render "-") (.ofString "suite") true).run
      { disk := linkedOutput }).2.disk.get?
      (folderPlace [] ++ [Text.encode (sessionName (quarterPastThree.render "-") i)] ++
        [Text.encode "converted_suite"] ++ [Text.encode "b.txt"]) = some (.file (Text.encode "old") m) := by
  have hd : linkedOutput.WellFormed := by decide +kernel
  have houtput : treeOutput linkedOutput (.ofString "suite") = .ok (.ofString "converted_suite") := by decide +kernel
  have hexists : linkedOutput.exists (.ofString "converted_suite") = true := by decide +kernel
  have hplace : linkedOutput.EndsAt (.ofString "converted_suite") ([] ++ [Text.encode "converted_suite"]) :=
    ⟨⟨[], Mode.newDirectory, some (Text.encode "converted_suite"), false⟩, _, rfl, rfl, rfl⟩
  have hvacant : linkedOutput.get? (folderPlace []) = none := by decide +kernel
  have hok : ((convertFolder plainReporter { registry := .empty } (quarterPastThree.render "-") (.ofString "suite")
      true).run { disk := linkedOutput }).1 = .ok 0 := by decide +kernel
  have hentry : linkedOutput.get? ([] ++ [Text.encode "converted_suite"] ++ [Text.encode "b.txt"]) =
      some (.link (.ofString "a.txt")) := by decide +kernel
  have hread : linkedOutput.read (Path.below (.ofString "converted_suite") [Text.encode "b.txt"]) =
      .ok (Text.encode "old") := by decide +kernel
  generalize hrun : (convertFolder plainReporter { registry := .empty } (quarterPastThree.render "-")
    (.ofString "suite") true).run { disk := linkedOutput } = result at *
  obtain ⟨res, w'⟩ := result
  obtain rfl : res = .ok 0 := hok
  have hlink : ∀ t, linkedOutput.get? (folderPlace []) ≠ some (.link t) := fun t ht => by cases hvacant.symm.trans ht
  rcases (convertFolder_saves (w := { disk := linkedOutput }) hd houtput hexists hplace hlink hrun).1 with
    ⟨⟨_, he⟩, _⟩ | ⟨i, copy, files, w₀, w₁, hw₀, _, hsaved, hkept⟩
  · cases he
  · rw [← show w₀.disk = linkedOutput from hw₀] at hentry hread
    have hmem := (hsaved.copied.mem_files [Text.encode "b.txt"]).2 ⟨trivial, _, hentry, by simp⟩
    obtain ⟨m, hm⟩ := hsaved.sameBytes _ hmem _ hread
    refine ⟨i, m, hkept _ _ ?_ hm⟩
    rw [List.append_assoc, List.append_assoc]
    exact List.prefix_append _ _

/-- A tree beside an old output, with a link that leads to a file by way of the backup directory, which is not there
yet. -/
def latecomer : Disk where
  entries :=
    [([Text.encode "suite"], .directory 0o755),
      ([Text.encode "suite", Text.encode "a.txt"], .file (Text.encode "new") 0o644),
      ([Text.encode "converted_suite"], .directory 0o755),
      ([Text.encode "converted_suite", Text.encode "a.txt"], .file (Text.encode "old") 0o644),
      ([Text.encode "converted_suite", Text.encode "b.txt"],
        .link (.ofString "../.appiumize-backup/../converted_suite/a.txt"))]

/-- A link that leads nowhere is copied and cleared, since making the backup completes it. -/
theorem convertFolder_latecomer :
    latecomer.WellFormed ∧ treeOutput latecomer (.ofString "suite") = .ok (.ofString "converted_suite") ∧
    latecomer.exists (.ofString "converted_suite") = true ∧ latecomer.get? [Text.encode folderName] = none ∧
    latecomer.get? [Text.encode "converted_suite", Text.encode "b.txt"] =
      some (.link (.ofString "../.appiumize-backup/../converted_suite/a.txt")) ∧
    latecomer.read (.ofString "converted_suite/b.txt") = .error .notFound ∧
    ((convertFolder plainReporter { registry := .empty } (quarterPastThree.render "-") (.ofString "suite") true).run
      { disk := latecomer }).1 = .ok 0 ∧
    ((convertFolder plainReporter { registry := .empty } (quarterPastThree.render "-") (.ofString "suite") true).run
      { disk := latecomer }).2.disk.get? [Text.encode "converted_suite", Text.encode "b.txt"] = none := by
  decide +kernel

end Command

end Retarget
