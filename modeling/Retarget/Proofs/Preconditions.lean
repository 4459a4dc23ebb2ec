import Retarget.Proofs.InputKept
import Retarget.Proofs.Resolution

/-!
# Errors before any effect

The roots of a conversion are checked before anything is done. A conversion to the derived output checks them again when
the old output has been cleared, and then they may no longer pass: the input went with the old output, or the old output
was a link, and a name beside the input is not the same place as what the link led to.

* `checkRoots_cleared`: what the second check can find fault with,
* `Converter.precondition_effect`: an error of a check leaves the disk as it was, but for these two cases,
* `Converter.precondition_late`: both cases happen.
-/

namespace Retarget

open Disk

variable {d d' : Disk} {input output q : Path} {n : Name} {e : ConvertError} {w w' : Workbench}

/-- Is the error one of a check, and not of an operation? -/
def ConvertError.isPrecondition : ConvertError → Bool
  | inputNotFound _ | notADirectory _ | noFolderName _ | outputInsideInput _ _ => true
  | notAFile _ | io _ _ => false

/-! ## The second check -/

/-- Where names are followed from, a directory is. -/
theorem Disk.walk_start {f : Follow} {links : Nat} {l l' : Location} {names : List Name} (hne : names ≠ [])
    (h : d.walk f links l names = .ok l') : ∃ m, d.get? l = some (.directory m) := by
  obtain ⟨k, rest, rfl⟩ := List.exists_cons_of_ne_nil hne
  rw [walk, leg] at h
  cases hu : d.mayStep f l k with
  | error c =>
    rw [hu] at h
    cases h
  | ok u => exact mayStep_directory hu

/-- The way to the directory of the output is there, also when the output has been cleared. -/
theorem Beside.way {l : Location} (hd : d.WellFormed) (hn : Path.IsName n) (hbeside : Beside d input q)
    (hcleared : Cleared q n d d') (hinput : d'.locate input = .ok l) :
    (∃ m, d'.get? (d'.start q) = some (.directory m)) ∧
      d'.walk .stepwise linkLimit (d'.start q) q.steps ≠ .error .notFound := by
  rcases hbeside with ⟨rest, _, hsteps, habs⟩ | ⟨rest, hrest, hsome, habs⟩
  · obtain ⟨_, hwalk⟩ := locate_eq_ok.1 hinput
    have hstart : d'.start input = d'.start q := by rw [start, start, habs]
    rw [hstart] at hwalk
    refine ⟨walk_start input.names_ne_nil hwalk, ?_⟩
    rw [input.names_eq, hsteps, List.append_assoc] at hwalk
    obtain ⟨l', _, hl', _⟩ := walk_left hwalk
    rw [walk_stepwise hl']
    simp
  · obtain ⟨e, he⟩ := Option.isSome_iff_exists.1 hsome
    have hname : ∀ k ∈ q.steps, Path.IsName k := fun k hk => hd.isName he k (List.mem_append_left _ hk)
    have hdirs : ∀ k, k <+: q.steps → ∃ m, d.get? ([] ++ k) = some (.directory m) := by
      rintro k ⟨r, hr⟩
      rw [← hr, List.append_assoc] at he
      exact hd.above he (by simp [hrest])
    rw [start_absolute habs]
    refine ⟨⟨_, rfl⟩, ?_⟩
    rcases walk_directories .stepwise linkLimit hname (hcleared.directories hn hname habs hdirs) with hw | ⟨c, hc, hw⟩
    · rw [hw]
      simp
    · rw [hw]
      simpa using hc

/-- The output is resolved to the place where its path ends, unless a link is there. -/
theorem resolve_output {l place : Location} {target : Path} (hd : d.WellFormed) (hd' : d'.WellFormed)
    (hless : Extends d' d) (hn : Path.IsName n) (hbeside : Beside d input q) (hcleared : Cleared q n d d')
    (hinput : d'.locate input = .ok l) (hplace : d.EndsAt (q.join ⟨n⟩) place)
    (hlink : ∀ t, d'.get? place ≠ some (.link t)) (h : d'.resolve (q.join ⟨n⟩) = .ok target) :
    target = place.toPath := by
  obtain ⟨⟨m, hm⟩, hfound⟩ := hbeside.way hd hn hcleared hinput
  obtain ⟨l', hl', htarget⟩ := resolve_join hd' hn hm hfound h
  obtain ⟨l₀, m₀, ha, rfl⟩ := (endsAt_join hn).1 hplace
  obtain ⟨_, hleads, _⟩ := approach_join_spec hn ha
  have hsame : d.walk .stepwise linkLimit (d.start q) q.steps = .ok l' := by
    rw [hless.start]
    exact walk_mono hless hl'
  cases (walk_stepwise hleads).symm.trans hsame
  exact htarget hlink

/-- A path is found where it was while nothing along its trail changes. -/
theorem Disk.metadata_agrees {p : Path} {found : Metadata} (h : d.metadata p = .ok found)
    (hagree : AgreesAt d d' (d.pathTrail p)) (hc : d'.current = d.current) (hp : d'.privileged = d.privileged) :
    d'.metadata p = .ok found := by
  obtain ⟨l, e, hl, he, rfl⟩ := metadata_eq_ok.1 h
  obtain ⟨hcheck, hwalk⟩ := locate_eq_ok.1 hl
  have hstart : d'.start p = d.start p := by rw [start, start, hc]
  refine metadata_eq_ok.2 ⟨l, e, locate_eq_ok.2 ⟨hcheck, ?_⟩, ?_, rfl⟩
  · rw [hstart, walk_congr hagree.left hp, hwalk]
  · rw [hagree.right l (by rw [hl]; exact List.mem_singleton_self l), he]

/-- What a check of the roots finds fault with. -/
theorem checkRoots_precondition (h : checkRoots d input output = .error e) (he : e.isPrecondition = true) :
    (e = .inputNotFound input ∧ d.metadata input = .error .notFound) ∨
    (e = .notADirectory input ∧ ∃ found, d.metadata input = .ok found ∧ found.isDirectory = false) ∨
    (e = .outputInsideInput input output ∧ ∃ l m target, d.locate input = .ok l ∧ d.get? l = some (.directory m) ∧
      d.resolve output = .ok target ∧ target.startsWith l.toPath = true) := by
  unfold checkRoots at h
  cases hfound : d.metadata input with
  | error c =>
    rw [hfound] at h
    obtain rfl : ConvertError.ofInput input c = e := Except.error.inj h
    cases c with
    | notFound => exact .inl ⟨rfl, rfl⟩
    | _ => cases he
  | ok found =>
    obtain ⟨l, entry, hl, hentry, rfl⟩ := metadata_eq_ok.1 hfound
    simp only [hfound, canonicalize_of_locate hl, Except.mapError, bind, Except.bind] at h
    cases entry with
    | file bytes m | link t => exact .inr (.inl ⟨(Except.error.inj h).symm, _, rfl, rfl⟩)
    | directory m =>
      simp only [Metadata.ofEntry, Bool.not_true, Bool.false_eq_true, if_false] at h
      cases htarget : d.resolve output with
      | error c =>
        rw [htarget] at h
        cases h
        cases he
      | ok target =>
        simp only [htarget] at h
        split at h
        · next hinside =>
          cases h
          exact .inr (.inr ⟨rfl, l, m, target, hl, hentry, rfl, hinside⟩)
        · cases h

/-- When the roots pass their check before the output is cleared and fail it afterwards, the input was looked up through
the output, or the output was a link that led out of the input. -/
theorem checkRoots_cleared {place : Location} (hd : d.WellFormed) (hn : Path.IsName n) (hbeside : Beside d input q)
    (hplace : d.EndsAt (q.join ⟨n⟩) place) (hprunes : Prunes place d d') (hvacated : d'.Vacated place)
    (hroots : checkRoots d input (q.join ⟨n⟩) = .ok ()) (h : checkRoots d' input (q.join ⟨n⟩) = .error e)
    (he : e.isPrecondition = true) :
    (e = .inputNotFound input ∧ ∃ k ∈ d.pathTrail input, place <+: k) ∨
    (e = .outputInsideInput input (q.join ⟨n⟩) ∧ ∃ t l, d.get? place = some (.link t) ∧ d.locate input = .ok l ∧
      l <+: place) := by
  have hcleared : Cleared q n d d' := .inr ⟨place, hplace, hprunes⟩
  obtain ⟨l₀, m₀, target₀, hl₀, hdir₀, htarget₀, hout⟩ := checkRoots_eq_ok hroots
  rcases checkRoots_precondition h he with
    ⟨rfl, hmissing⟩ | ⟨_, found, hfound, hdir⟩ | ⟨rfl, l, _, target, hl, _, htarget, hin⟩
  · refine .inl ⟨rfl, ?_⟩
    by_contra hapart
    push Not at hapart
    have hagree : AgreesAt d d' (d.pathTrail input) := fun k hk => hprunes.frame k (hapart k hk)
    cases hmissing.symm.trans (metadata_agrees (metadata_eq_ok.2 ⟨l₀, _, hl₀, hdir₀, rfl⟩) hagree
      hprunes.less.current.symm hprunes.less.privileged.symm)
  · -- What is still found is a directory as before.
    obtain ⟨l, e, hl, he, rfl⟩ := metadata_eq_ok.1 hfound
    cases hl₀.symm.trans (locate_mono hprunes.less hl)
    cases hdir₀.symm.trans (hprunes.less.get _ _ he)
    cases hdir
  · cases hl₀.symm.trans (locate_mono hprunes.less hl)
    have hnolink : ∀ t, d'.get? place ≠ some (.link t) := by
      intro t ht
      obtain ⟨m, hm⟩ := hvacated.directory _ ht
      cases hm
    obtain rfl := resolve_output hd (hprunes.wellFormed hd) hprunes.less hn hbeside hcleared hl hplace hnolink htarget
    obtain ⟨l', m', ha, rfl⟩ := (endsAt_join hn).1 hplace
    have hnames : ∀ k ∈ l' ++ [n], Path.IsName k := by
      intro k hk
      rcases List.mem_append.1 hk with hk | hk
      · exact hd.isName (approach_spec ha).1 k hk
      · exact List.mem_singleton.1 hk ▸ hn
    refine .inr ⟨rfl, ?_⟩
    by_cases hlink : ∃ t, d.get? (l' ++ [n]) = some (.link t)
    · obtain ⟨t, ht⟩ := hlink
      exact ⟨t, l₀, ht, hl₀, (Path.startsWith_toPath (hd.isName hdir₀) hnames).1 hin⟩
    · -- Without a link the first check would have found the same fault.
      obtain rfl := resolve_output hd hd (.refl d) hn hbeside (.inl rfl) hl₀ hplace
        (fun t ht => hlink ⟨t, ht⟩) htarget₀
      cases hin.symm.trans hout

/-! ## Conversions -/

/-- A conversion that stops at a check has done nothing. -/
theorem convertTree_precondition {rules : List Rule} {options : TreeOptions}
    (h : (convertTree rules options input output).run w = (.error e, w')) (he : e.isPrecondition = true) :
    checkRoots w.disk input output = .error e ∧ w'.disk = w.disk := by
  unfold convertTree at h
  rcases Job.run_orFail_cases h with ⟨e', hroots, he', rfl⟩ | ⟨u, _, h⟩
  · cases he'
    exact ⟨hroots, rfl⟩
  rcases Job.run_orFail_cases h with ⟨c, _, he', _⟩ | ⟨u, _, h⟩
  · cases he'
    cases he
  rw [Job.run_bind, Job.run_lift] at h
  rcases Job.run_orFail_cases h with ⟨c, _, he', _⟩ | ⟨root, _, h⟩
  · cases he'
    cases he
  · cases h

namespace Converter

variable {c : Converter}

/-- Clearing is an operation. -/
theorem clearOutput_error (h : (clearOutput output).run w = (.error e, w')) : e.isPrecondition = false := by
  unfold clearOutput at h
  rw [Job.run_bind, Job.run_look] at h
  simp only at h
  split at h
  · rw [Job.run_bind, Job.run_lift] at h
    simp only [Job.run_orFail, Job.act_apply] at h
    cases hclear : (w.disk.clear output).1 with
    | ok u =>
      rw [Job.notice_disk, hclear] at h
      cases h
    | error c =>
      rw [Job.notice_disk, hclear] at h
      cases h
      rfl
  · cases h

/-- A conversion to the derived output stops at a check before it does anything, or at the check after its output has
been cleared. -/
theorem convertTree_precondition_cases (h : (c.convertTree input).run w = (.error e, w'))
    (he : e.isPrecondition = true) :
    (w'.disk = w.disk ∧ (treeOutput w.disk input = .error e ∨
      ∃ output, treeOutput w.disk input = .ok output ∧ checkRoots w.disk input output = .error e)) ∨
    ∃ output w₁, treeOutput w.disk input = .ok output ∧ checkRoots w.disk input output = .ok () ∧
      (clearOutput output).run w = (.ok (), w₁) ∧ checkRoots w₁.disk input output = .error e ∧
      w'.disk = w₁.disk := by
  unfold Converter.convertTree at h
  rcases Job.run_orFail_cases h with ⟨_, houtput, he', rfl⟩ | ⟨output, houtput, h⟩
  · cases he'
    exact .inl ⟨rfl, .inl houtput⟩
  rcases Job.run_orFail_cases h with ⟨_, hroots, he', rfl⟩ | ⟨u, hroots, h⟩
  · cases he'
    exact .inl ⟨rfl, .inr ⟨output, houtput, hroots⟩⟩
  rcases Job.run_bind_cases h with ⟨e', hclear, he'⟩ | ⟨u, w₁, hclear, h⟩
  · cases he'
    rw [clearOutput_error hclear] at he
    cases he
  rcases Job.run_bind_cases h with ⟨e', hinto, he'⟩ | ⟨report, w₂, _, h⟩
  · cases he'
    obtain ⟨w₂, hrun, hdisk⟩ := convertTreeInto_run hinto
    obtain ⟨hroots', hsame⟩ := convertTree_precondition hrun he
    exact .inr ⟨output, w₁, houtput, hroots, hclear, hroots', hdisk.trans hsame⟩
  · cases h

/-- A conversion to a given output that ends with an error of a check has left the disk as it was. So has one to the
derived output, unless the old output is gone, though the roots had passed the check: then the input is not found
because it was looked up through the old output, or the output lies in the input because the old one was a link to
somewhere else. -/
theorem precondition_effect (hd : w.disk.WellFormed) (he : e.isPrecondition = true) :
    (∀ output, (c.convertTreeInto input output).run w = (.error e, w') → w'.disk = w.disk) ∧
    ((c.convertTree input).run w = (.error e, w') → w'.disk = w.disk ∨
      ∃ output place, treeOutput w.disk input = .ok output ∧ checkRoots w.disk input output = .ok () ∧
        w.disk.EndsAt output place ∧ Prunes place w.disk w'.disk ∧ w'.disk.Vacated place ∧
        ((e = .inputNotFound input ∧ ∃ k ∈ w.disk.pathTrail input, place <+: k) ∨
        (e = .outputInsideInput input output ∧ ∃ t l, w.disk.get? place = some (.link t) ∧
          w.disk.locate input = .ok l ∧ l <+: place))) := by
  refine ⟨fun output h => ?_, fun h => ?_⟩
  · obtain ⟨w₁, hrun, hdisk⟩ := convertTreeInto_run h
    exact hdisk.trans (convertTree_precondition hrun he).2
  rcases convertTree_precondition_cases h he with
    ⟨hsame, _⟩ | ⟨output, w₁, houtput, hroots, hclear, hroots', hdisk⟩
  · exact .inl hsame
  obtain ⟨q, n, hn, rfl, hbeside⟩ := treeOutput_spec hd houtput
  obtain ⟨hcleared, hvacated⟩ := clearOutput_spec hd hn hclear
  rcases hcleared with hsame | ⟨place, hplace, hprunes⟩
  · exact .inl (hdisk.trans hsame)
  · have hvacant := hvacated rfl place hplace
    rw [hdisk]
    exact .inr ⟨q.join ⟨n⟩, place, houtput, hroots, hplace, hprunes, hvacant,
      checkRoots_cleared hd hn hbeside hplace hprunes hvacant hroots hroots' he⟩

/-- A tree that is a link into its old output. -/
def sunkSuite : Disk where
  entries :=
    [([Text.encode "converted_suite"], .directory 0o755),
      ([Text.encode "converted_suite", Text.encode "real"], .directory 0o755),
      ([Text.encode "converted_suite", Text.encode "real", Text.encode "a.txt"], .file (Text.encode "a") 0o644),
      ([Text.encode "suite"], .link (.ofString "converted_suite/real"))]

/-- A tree that is a link to its own directory, beside an output that is a link to another one. -/
def loopedSuite : Disk where
  entries :=
    [([Text.encode "far"], .directory 0o755),
      ([Text.encode "far", Text.encode "a.txt"], .file (Text.encode "a") 0o644),
      ([Text.encode "work"], .directory 0o755),
      ([Text.encode "work", Text.encode "suite"], .link (.ofString ".")),
      ([Text.encode "work", Text.encode "converted_suite"], .link (.ofString "../far"))]

/-- The input is not found after it has been removed itself. -/
theorem precondition_effect_sunkSuite : ∃ k ∈ sunkSuite.pathTrail (.ofString "suite"),
    [Text.encode "converted_suite"] <+: k := by
  have hd : sunkSuite.WellFormed := by decide +kernel
  have herror : ((convertTree { registry := .empty } (.ofString "suite")).run { disk := sunkSuite }).1 =
      .error (.inputNotFound (.ofString "suite")) := by decide +kernel
  have hgone : ((convertTree { registry := .empty } (.ofString "suite")).run { disk := sunkSuite }).2.disk.get?
      [Text.encode "converted_suite", Text.encode "real"] = none := by decide +kernel
  have houtput : treeOutput sunkSuite (.ofString "suite") = .ok (.ofString "converted_suite") := by decide +kernel
  have hends : sunkSuite.EndsAt (.ofString "converted_suite") [Text.encode "converted_suite"] :=
    ⟨⟨[], Mode.newDirectory, some (Text.encode "converted_suite"), false⟩, _, rfl, rfl, rfl⟩
  generalize hrun : (convertTree { registry := .empty } (.ofString "suite")).run { disk := sunkSuite } = result at *
  obtain ⟨r, w'⟩ := result
  obtain rfl : r = .error (.inputNotFound (.ofString "suite")) := herror
  rcases (precondition_effect (w := { disk := sunkSuite }) hd rfl).2 hrun with
    hsame | ⟨output, place, ho, _, hp, _, _, ⟨_, hk⟩ | ⟨he, _⟩⟩
  · rw [hsame] at hgone
    cases hgone
  · obtain rfl := Except.ok.inj (houtput.symm.trans ho)
    obtain rfl := hends.unique hp
    exact hk
  · cases he

/-- The roots pass their check, and the error comes when the old output is gone: with the input in it, or as a link. -/
theorem precondition_late :
    (sunkSuite.WellFormed ∧ checkRoots sunkSuite (.ofString "suite") (.ofString "converted_suite") = .ok () ∧
      sunkSuite.read (.ofString "suite/a.txt") = .ok (Text.encode "a") ∧
      ((convertTree { registry := .empty } (.ofString "suite")).run { disk := sunkSuite }).1 =
        .error (.inputNotFound (.ofString "suite")) ∧
      ((convertTree { registry := .empty } (.ofString "suite")).run { disk := sunkSuite }).2.disk.get?
        [Text.encode "converted_suite", Text.encode "real"] = none) ∧
    loopedSuite.WellFormed ∧
      checkRoots loopedSuite (.ofString "work/suite") (.ofString "work/converted_suite") = .ok () ∧
      ((convertTree { registry := .empty } (.ofString "work/suite")).run { disk := loopedSuite }).1 =
        .error (.outputInsideInput (.ofString "work/suite") (.ofString "work/converted_suite")) ∧
      ((convertTree { registry := .empty } (.ofString "work/suite")).run { disk := loopedSuite }).2.disk.get?
        [Text.encode "work", Text.encode "converted_suite"] = none := by
  refine ⟨⟨?_, ?_, ?_, ?_, ?_⟩, ?_, ?_, ?_, ?_⟩ <;> decide +kernel

end Converter

end Retarget
