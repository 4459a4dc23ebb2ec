import Retarget.Proofs.TreeOutput

/-!
# What is left of the input

A conversion of a tree writes below its output only. A file of the input is safe if looking it up passes no place in the
output; the check of the roots does not see to that, since the output may contain the input.

* `Disk.Overlays`: files are put over what is below a place, and nothing else changes,
* `walkTree_overlays`: so does every walk, over any output without links,
* `Converter.input_fate`: files that are looked up outside of the output are kept, whether a conversion fails or not,
  and an input inside its derived output is lost,
* `Converter.input_damaged`: roots that are checked, and files that are lost.
-/

namespace Retarget

open Disk

/-! ## Overlays -/

namespace Disk

variable {d d' d'' : Disk} {top : Location}

/-- There is no link at a place or below it. -/
def LinkFree (d : Disk) (top : Location) : Prop := ∀ rest target, d.get? (top ++ rest) ≠ some (.link target)

/-- Nothing but directories stands at a place and below it. -/
def Hollow (d : Disk) (top : Location) : Prop := ∀ rest e, d.get? (top ++ rest) = some e → ∃ m, e = .directory m

theorem Hollow.linkFree (h : d.Hollow top) : d.LinkFree top := by
  intro rest target hlink
  obtain ⟨m, hm⟩ := h rest _ hlink
  cases hm

theorem Hollow.below {l : Location} (h : d.Hollow top) (hl : top <+: l) : d.Hollow l := by
  obtain ⟨mid, rfl⟩ := hl
  intro rest e he
  rw [List.append_assoc] at he
  exact h (mid ++ rest) e he

/-- Files and directories have been put at or below a place, in the place of nothing but files. -/
structure Overlays (top : Location) (d d' : Disk) : Prop where
  wellFormed : d'.WellFormed
  linkFree : d'.LinkFree top
  frame : ∀ k, ¬ top <+: k → d'.get? k = d.get? k
  ways : KeepsWays d d'
  current : d'.current = d.current
  privileged : d'.privileged = d.privileged

namespace Overlays

theorem refl (hd : d.WellFormed) (hfree : d.LinkFree top) : Overlays top d d :=
  ⟨hd, hfree, fun _ _ => rfl, fun _ _ h _ => h, rfl, rfl⟩

theorem trans (h : Overlays top d d') (h' : Overlays top d' d'') : Overlays top d d'' where
  wellFormed := h'.wellFormed
  linkFree := h'.linkFree
  frame k hk := (h'.frame k hk).trans (h.frame k hk)
  ways k e he hfile := h'.ways k e (h.ways k e he hfile) hfile
  current := h'.current.trans h.current
  privileged := h'.privileged.trans h.privileged

/-- A new entry that is no link, in the place of nothing but a file. -/
theorem put {l : Location} {n : Name} {m : Mode} {e : Entry} (hd : d.WellFormed) (hfree : d.LinkFree top)
    (hl : d.get? l = some (.directory m)) (htop : top <+: l) (hn : Path.IsName n) (he : ∀ target, e ≠ .link target)
    (hold : ∀ m, d.get? (l ++ [n]) ≠ some (.directory m)) : Overlays top d (d.put (l ++ [n]) e) := by
  have hbelow : top <+: l ++ [n] := htop.trans (List.prefix_append _ _)
  refine ⟨hd.put hl hn hold, fun rest target => ?_, fun k hk => ?_, fun k f hf hfile => ?_,
    put_current .., put_privileged ..⟩
  · rw [get?_put d (by simp)]
    split
    · simpa using he target
    · exact hfree rest target
  · rw [get?_put d (by simp), if_neg]
    rintro rfl
    exact hk hbelow
  · rw [get?_put d (by simp), if_neg, hf]
    rintro rfl
    obtain ⟨rest, hrest⟩ := hbelow
    cases f with
    | file bytes m' => exact hfile bytes m' rfl
    | directory m' => exact hold m' hf
    | link target => exact hfree rest target (hrest ▸ hf)

end Overlays

end Disk

theorem Site.Ready.overlay {s : Site} {d d' : Disk} {top : Location} (hs : s.Ready d) (h : Overlays top d d') :
    s.Ready d' := by
  obtain ⟨m, hm⟩ := hs.directory
  refine ⟨h.wellFormed, ?_, m, h.ways _ _ hm (by simp)⟩
  rw [Leads, start, h.current]
  exact walk_ways h.ways h.privileged hs.leads hm

/-! ## Walks -/

namespace Job

variable {α β : Type} {f : α → Job β} {I : Disk → Prop}

/-- What each job of a list keeps, all of them keep. -/
theorem mapM_disk {xs : List α} {w : Workbench} (hf : ∀ a ∈ xs, ∀ w, I w.disk → I (f a w).2.disk) (hw : I w.disk) :
    I (xs.mapM f w).2.disk := by
  induction xs generalizing w with
  | nil => exact hw
  | cons a xs ih =>
    rw [List.mapM_cons]
    exact ih (fun b hb => hf b (List.mem_cons_of_mem a hb)) (hf a List.mem_cons_self w hw)

end Job

theorem processFolders_disk {processOne : Name → Job Report} {I : Disk → Prop} {ns : List Name} {w : Workbench}
    (hone : ∀ n ∈ ns, ∀ w, I w.disk → I (processOne n w).2.disk) (hw : I w.disk) :
    I (processFolders processOne ns w).2.disk := by
  induction ns generalizing w with
  | nil => exact hw
  | cons n ns ih =>
    exact ih (fun k hk => hone k (List.mem_cons_of_mem n hk)) (hone n List.mem_cons_self w hw)

section Walk

variable {s : Site} {top : Location} {w : Workbench}

theorem processMember_overlays {m : Member} (hs : s.Ready w.disk) (hfree : w.disk.LinkFree top) (htop : top <+: s.place)
    (hn : Path.IsName m.name) :
    Overlays top w.disk (processMember s.rules s.options s.input s.output s.relative m w).2.disk := by
  unfold processMember
  cases hdir : m.isDirectory with
  | error c => exact .refl hs.wellFormed hfree
  | ok isDirectory =>
    simp only [Job.bind_apply, Job.pure_apply]
    rcases processFile_spec hs.leads hn (Prod.eta _).symm with ⟨_, hdisk⟩ | ⟨bytes, _, hput⟩
    · rw [hdisk]
      exact .refl hs.wellFormed hfree
    · obtain ⟨mode, hmode⟩ := hput.written
      obtain ⟨m', hm'⟩ := hput.directory
      rw [hmode]
      exact .put hs.wellFormed hfree hm' htop hn (by simp) hput.free

/-- A directory that is there already is ready to be filled. -/
theorem Site.Ready.into_isDirectory {d : Disk} {n : Name} (hs : s.Ready d) (hfree : d.LinkFree top)
    (htop : top <+: s.place) (hn : Path.IsName n) (h : d.isDirectory (s.output.join ⟨n⟩) = true) :
    (s.into n).Ready d := by
  obtain ⟨l', m', hl', he⟩ := isDirectory_eq_true.1 h
  obtain ⟨l, m, hl, hm, hlen, _⟩ := approach_of_locate hn hl'
  obtain rfl := hl.unique hs.leads
  obtain ⟨rest, hrest⟩ := htop.trans (List.prefix_append s.place [n])
  -- Under the name there is no link, so the way ends right there.
  obtain ⟨f, hf⟩ : ∃ f, d.get? (s.place ++ [n]) = some f := by
    cases hf : d.get? (s.place ++ [n]) with
    | none => exact (hl.locate_vacant hn hf l' hl').elim
    | some f => exact ⟨f, rfl⟩
  have hleads := hl.join hm hn hlen hf fun target ht => hfree rest target (by rw [hrest, hf, ht])
  obtain rfl := (leads_of_locate hl').unique hleads
  exact ⟨hs.wellFormed, hleads, m', he⟩

/-- The counterpart of a directory is made in a directory that is ready, or nothing happens. -/
theorem Site.Ready.makeDirectories {d : Disk} {n : Name} (hs : s.Ready d) (hfree : d.LinkFree top)
    (htop : top <+: s.place) (hn : Path.IsName n) :
    (∃ d', d.makeDirectories (s.output.join ⟨n⟩) = (.ok (), d') ∧ (s.into n).Ready d' ∧ Overlays top d d') ∨
    ∃ c, d.makeDirectories (s.output.join ⟨n⟩) = (.error c, d) := by
  obtain ⟨m, hm⟩ := hs.directory
  rcases makeDirectories_join hn (approach_join_ne_notFound hs.leads hm hn) with
    ⟨l, m', ha, hvacant, hmake⟩ | ⟨hdir, hmake⟩ | ⟨c, hmake⟩
  · obtain ⟨_, hl, hm', hlen⟩ := approach_join_spec hn ha
    obtain rfl := hl.unique hs.leads
    exact .inl ⟨_, hmake, hs.into_put hm' hn hlen hvacant,
      .put hs.wellFormed hfree hm htop hn (by simp) (by simp [hvacant])⟩
  · exact .inl ⟨d, hmake, hs.into_isDirectory hfree htop hn hdir, .refl hs.wellFormed hfree⟩
  · exact .inr ⟨c, hmake⟩

theorem processFolder_overlays {descend : Path → Path → Path → List Path → Job Report} {n : Name}
    (ancestors : List Path)
    (hdescend : ∀ ancestors w, (s.into n).Ready w.disk → w.disk.LinkFree top →
      Overlays top w.disk (descend (s.into n).input (s.into n).output (s.into n).relative ancestors w).2.disk)
    (hs : s.Ready w.disk) (hfree : w.disk.LinkFree top) (htop : top <+: s.place) (hn : Path.IsName n) :
    Overlays top w.disk (processFolder descend (s.input.join ⟨n⟩) (s.output.join ⟨n⟩) (s.relative.join ⟨n⟩)
      ancestors w).2.disk := by
  have hrefl : Overlays top w.disk w.disk := .refl hs.wellFormed hfree
  unfold processFolder
  simp only [Job.bind_apply, Job.ask_apply]
  cases hcanonical : w.disk.canonicalize (s.input.join ⟨n⟩) with
  | error c => exact hrefl
  | ok canonical =>
    simp only
    by_cases hcycle : ancestors.contains canonical = true
    · rw [if_pos hcycle]
      exact hrefl
    · rw [if_neg hcycle]
      simp only [Job.bind_apply, Job.act_apply]
      rcases hs.makeDirectories hfree htop hn with ⟨d', hmake, hready, hput⟩ | ⟨c, hmake⟩
      · simp only [hmake]
        exact hput.trans (hdescend (ancestors ++ [canonical]) { w with disk := d' } hready hput.linkFree)
      · simp only [hmake]
        exact hrefl

/-- The files of a directory are written below the output only. -/
theorem mapM_processMember_overlays {ms : List Member} (hs : s.Ready w.disk) (hfree : w.disk.LinkFree top)
    (htop : top <+: s.place) (hname : ∀ m ∈ ms, Path.IsName m.name) :
    Overlays top w.disk (ms.mapM (processMember s.rules s.options s.input s.output s.relative) w).2.disk := by
  refine (Job.mapM_disk (I := fun d => Overlays top w.disk d ∧ s.Ready d) (fun m hm w₁ hI => ?_)
    ⟨.refl hs.wellFormed hfree, hs⟩).1
  have hone := processMember_overlays hI.2 hI.1.linkFree htop (hname m hm)
  exact ⟨hI.1.trans hone, hI.2.overlay hone⟩

/-- So are its directories, if that is so for each one. -/
theorem processFolders_overlays {descend : Path → Path → Path → List Path → Job Report} {ns : List Name}
    {ancestors : List Path}
    (hdescend : ∀ n ancestors w, (s.into n).Ready w.disk → w.disk.LinkFree top →
      Overlays top w.disk (descend (s.into n).input (s.into n).output (s.into n).relative ancestors w).2.disk)
    (hs : s.Ready w.disk) (hfree : w.disk.LinkFree top) (htop : top <+: s.place) (hname : ∀ n ∈ ns, Path.IsName n) :
    Overlays top w.disk (processFolders (fun n => processFolder descend (s.input.join ⟨n⟩) (s.output.join ⟨n⟩)
      (s.relative.join ⟨n⟩) ancestors) ns w).2.disk := by
  refine (processFolders_disk (I := fun d => Overlays top w.disk d ∧ s.Ready d) (fun n hn w₁ hI => ?_)
    ⟨.refl hs.wellFormed hfree, hs⟩).1
  have hone := processFolder_overlays ancestors (hdescend n) hI.2 hI.1.linkFree htop (hname n hn)
  exact ⟨hI.1.trans hone, hI.2.overlay hone⟩

/-- A walk writes below the output only, if there are no links in it. -/
theorem walkTree_overlays (depth : Nat) (ancestors : List Path) (hs : s.Ready w.disk) (hfree : w.disk.LinkFree top)
    (htop : top <+: s.place) :
    Overlays top w.disk (walkTree s.rules s.options depth s.input s.output s.relative ancestors w).2.disk := by
  induction depth generalizing s ancestors w with
  | zero => exact .refl hs.wellFormed hfree
  | succ depth ih =>
    unfold walkTree
    simp only [Job.bind_apply, Job.ask_apply]
    cases hmembers : w.disk.members s.input with
    | error c => exact .refl hs.wellFormed hfree
    | ok ms =>
      obtain ⟨_, hname⟩ := members_spec hs.wellFormed hmembers
      have hproper : ∀ p : Member → Bool, ∀ m ∈ ms.filter p, Path.IsName m.name :=
        fun p m hm => hname _ (List.mem_map_of_mem (List.mem_filter.1 hm).1)
      have hfiles := mapM_processMember_overlays hs hfree htop (hproper fun m => !m.isFolder)
      refine hfiles.trans (processFolders_overlays
        (fun n ancestors w hs hfree => ih ancestors hs hfree (htop.trans (List.prefix_append _ _)))
        (hs.overlay hfiles) hfiles.linkFree htop fun n hn => ?_)
      obtain ⟨m, hm, rfl⟩ := List.mem_map.1 hn
      exact hproper _ m hm

end Walk

/-! ## The input -/

/-- What is along a trail stays. -/
structure Disk.Spares (trail : List Location) (d d' : Disk) : Prop where
  keeps : KeepsAt d d' trail
  current : d'.current = d.current
  privileged : d'.privileged = d.privileged

namespace Disk.Spares

variable {trail : List Location} {d d' d'' : Disk}

theorem refl (trail : List Location) (d : Disk) : Spares trail d d := ⟨fun _ _ _ h => h, rfl, rfl⟩

theorem extend (h : Spares trail d d') (h' : Extends d' d'') : Spares trail d d'' where
  keeps k hk e he := h'.get k e (h.keeps k hk e he)
  current := h'.current.trans h.current
  privileged := h'.privileged.trans h.privileged

theorem read {p : Path} {bytes : Bytes} (h : Spares (d.pathTrail p) d d') (hr : d.read p = .ok bytes) :
    d'.read p = .ok bytes :=
  read_keeps hr h.keeps h.current h.privileged

end Disk.Spares

namespace Converter

variable {c : Converter} {input output : Path} {w : Workbench} {trail : List Location}

/-- Clearing the output spares what is outside of it. -/
theorem clearOutput_spares {r : Except ConvertError Unit} {w' : Workbench} (hd : w.disk.WellFormed)
    (houtput : treeOutput w.disk input = .ok output)
    (hapart : ∀ place, w.disk.EndsAt output place → ∀ k ∈ trail, ¬ place <+: k)
    (h : (clearOutput output).run w = (r, w')) : Spares trail w.disk w'.disk := by
  obtain ⟨q, n, hn, rfl, _⟩ := treeOutput_spec hd houtput
  rcases (clearOutput_spec hd hn h).1 with he | ⟨place, hplace, hprunes⟩
  · rw [he]
    exact .refl trail w.disk
  · refine ⟨fun k hk e he => ?_, hprunes.less.current.symm, hprunes.less.privileged.symm⟩
    rw [hprunes.frame k (hapart place hplace k hk), he]

/-- A conversion to the derived output spares what is outside of the output. -/
theorem convertTree_spares (hd : w.disk.WellFormed)
    (hapart : ∀ output place, treeOutput w.disk input = .ok output → w.disk.EndsAt output place →
      ∀ k ∈ trail, ¬ place <+: k) :
    Spares trail w.disk ((c.convertTree input).run w).2.disk := by
  generalize hrun : (c.convertTree input).run w = result
  obtain ⟨r, w'⟩ := result
  rcases convertTree_derived_cases hrun with
    ⟨_, rfl, _⟩ | ⟨output, houtput, ⟨_, e, hclear⟩ | ⟨w₁, w₂, r₁, hclear, hrun, hdisk, _⟩⟩
  · exact .refl trail w'.disk
  · exact clearOutput_spares hd houtput (fun place => hapart output place houtput) hclear
  have hcleared := clearOutput_spares hd houtput (fun place => hapart output place houtput) hclear
  simp only [hdisk]
  rcases convertTree_cases hrun with ⟨_, he | ⟨_, he⟩⟩ | ⟨report, root, w₃, _, hroots, hmake, hwalk⟩
  · rw [he]
    exact hcleared
  · rw [he]
    exact hcleared.extend (makeDirectories_grows _ _).keeps
  · obtain ⟨place, hends, _, hready, hbare, hframe, hcurrent, hprivileged⟩ :=
      derived_ready hd houtput hclear hroots hmake
    obtain ⟨items, hitems⟩ := walkTree_mirrors Path.lengthLimit hready hbare hwalk
    have hstart : Spares trail w.disk w₃.disk :=
      ⟨fun k hk e he => by rw [hframe k (hapart output place houtput hends k hk), he], hcurrent, hprivileged⟩
    exact hstart.extend hitems.keeps

/-- A conversion into a given output spares what is outside of the output, if there are no links in it. -/
theorem convertTreeInto_spares {place : Location} {m : Mode} (hd : w.disk.WellFormed)
    (hplace : (w.disk.makeDirectories output).2.Leads output place)
    (hdir : (w.disk.makeDirectories output).2.get? place = some (.directory m))
    (hfree : (w.disk.makeDirectories output).2.LinkFree place) (hapart : ∀ k ∈ trail, ¬ place <+: k) :
    Spares trail w.disk ((c.convertTreeInto input output).run w).2.disk := by
  generalize hrun : (c.convertTreeInto input output).run w = result
  obtain ⟨r, w'⟩ := result
  obtain ⟨w₁, hrun, hdisk⟩ := convertTreeInto_run hrun
  have hgrows := makeDirectories_grows w.disk output
  simp only [hdisk]
  rcases convertTree_cases hrun with ⟨_, he | ⟨_, he⟩⟩ | ⟨report, root, w₂, _, _, hmake, hwalk⟩
  · rw [he]
    exact .refl trail w.disk
  · rw [he]
    exact (Spares.refl trail w.disk).extend hgrows.keeps
  · rw [hmake] at hplace hdir hfree hgrows
    have hs : (Site.mk c.registry.rules c.options input output ⟨[]⟩ place).Ready w₂.disk :=
      ⟨hgrows.wellFormed hd, hplace, m, hdir⟩
    have hover := walkTree_overlays Path.lengthLimit [root] hs hfree (List.prefix_refl place)
    rw [hwalk] at hover
    refine ⟨fun k hk e he => ?_, hover.current.trans hgrows.keeps.current,
      hover.privileged.trans hgrows.keeps.privileged⟩
    rw [hover.frame k (hapart k hk)]
    exact hgrows.keeps.get k e he

/-- When a place of the input is gone, nothing can be read through it. -/
theorem read_gone {d d' : Disk} {l : Location} {rel : List Name} {bytes : Bytes} (hless : Extends d' d)
    (hinput : d.locate input = .ok l) (hgone : d'.get? l = none) (hrel : ∀ n ∈ rel, Path.IsName n) :
    d'.read (input.below rel) ≠ .ok bytes := by
  intro hread
  obtain ⟨l', m, hl', he, _⟩ := read_eq_ok.1 hread
  have hleads := leads_of_locate hl'
  obtain ⟨hsteps, habs⟩ := input.steps_below hrel
  rw [Leads, start, habs, hsteps] at hleads
  obtain ⟨l₁, k, hl₁, hk⟩ := walk_left hleads
  have hl₁' : d'.Leads input l₁ := hl₁
  obtain rfl := (hl₁'.mono hless).unique (leads_of_locate hinput)
  cases rel with
  | nil =>
    rw [walk, leg] at hk
    cases hk
    rw [hgone] at he
    cases he
  | cons n rel =>
    obtain ⟨m', hm'⟩ := walk_enter (hrel n List.mem_cons_self).ne_nil hk
    rw [enter_directory hm'] at hgone
    cases hgone

/-- An input that is inside the output is lost when the output is cleared, though its roots have been checked. -/
theorem convertTree_loses {place l : Location} {w₁ : Workbench} {rel : List Name} {bytes : Bytes}
    (hd : w.disk.WellFormed) (houtput : treeOutput w.disk input = .ok output)
    (hroots : checkRoots w.disk input output = .ok ()) (hplace : w.disk.EndsAt output place)
    (hinput : w.disk.locate input = .ok l) (hinside : place <+: l) (hne : l ≠ place)
    (hclear : (clearOutput output).run w = (.ok (), w₁)) (hrel : ∀ n ∈ rel, Path.IsName n) :
    ((c.convertTree input).run w).2.disk.read (input.below rel) ≠ .ok bytes := by
  obtain ⟨q, n, hn, rfl, _⟩ := treeOutput_spec hd houtput
  obtain ⟨hless, _⟩ := clearOutput_less hd hn hclear
  obtain ⟨rest, rfl⟩ := hinside
  have hgone : w₁.disk.get? (place ++ rest) = none :=
    ((clearOutput_spec hd hn hclear).2 rfl place hplace).below rest fun he => hne (by rw [he, List.append_nil])
  have hstop : checkRoots w₁.disk input (q.join ⟨n⟩) ≠ .ok () := by
    intro hok
    obtain ⟨found, hfound⟩ := checkRoots_metadata hok
    obtain ⟨l₁, e, hl₁, he, _⟩ := metadata_eq_ok.1 hfound
    obtain rfl := ((leads_of_locate hl₁).mono hless).unique (leads_of_locate hinput)
    rw [hgone] at he
    cases he
  generalize hrun : (c.convertTree input).run w = result
  obtain ⟨r, w'⟩ := result
  rcases convertTree_derived_cases hrun with
    ⟨_, _, hno⟩ | ⟨output, houtput', ⟨_, e, hclear'⟩ | ⟨w₁', w₂, r₁, hclear', hrun, hdisk, _⟩⟩
  · exact (hno _ houtput hroots).elim
  · cases houtput.symm.trans houtput'
    cases hclear.symm.trans hclear'
  · cases houtput.symm.trans houtput'
    cases hclear.symm.trans hclear'
    rcases convertTree_cases hrun with ⟨_, he | ⟨hok, _⟩⟩ | ⟨_, _, _, _, hok, _⟩
    · simp only [hdisk, he]
      exact read_gone hless hinput hgone hrel
    · exact (hstop hok).elim
    · exact (hstop hok).elim

/-- What becomes of a file of the input. It is still there with the same bytes after a conversion, whether that
succeeds or fails, if looking the file up passes no place at or below the output; a given output must hold no links,
which would lead out of it. If the input itself is inside the derived output, the file is lost as soon as the output
has been cleared. -/
theorem input_fate {rel : List Name} {bytes : Bytes} (hd : w.disk.WellFormed)
    (hread : w.disk.read (input.below rel) = .ok bytes) :
    ((∀ output place, treeOutput w.disk input = .ok output → w.disk.EndsAt output place →
        ∀ k ∈ w.disk.pathTrail (input.below rel), ¬ place <+: k) →
      ((c.convertTree input).run w).2.disk.read (input.below rel) = .ok bytes) ∧
    (∀ output place m, (w.disk.makeDirectories output).2.Leads output place →
      (w.disk.makeDirectories output).2.get? place = some (.directory m) →
      (w.disk.makeDirectories output).2.LinkFree place →
      (∀ k ∈ w.disk.pathTrail (input.below rel), ¬ place <+: k) →
      ((c.convertTreeInto input output).run w).2.disk.read (input.below rel) = .ok bytes) ∧
    ∀ output place l w₁, treeOutput w.disk input = .ok output → checkRoots w.disk input output = .ok () →
      w.disk.EndsAt output place → w.disk.locate input = .ok l → place <+: l → l ≠ place →
      (clearOutput output).run w = (.ok (), w₁) → (∀ n ∈ rel, Path.IsName n) →
      ((c.convertTree input).run w).2.disk.read (input.below rel) ≠ .ok bytes := by
  refine ⟨fun hapart => ?_, fun output place m hplace hdir hfree hapart => ?_, ?_⟩
  · exact (convertTree_spares hd hapart).read hread
  · exact (convertTreeInto_spares hd hplace hdir hfree hapart).read hread
  · intro output place l w₁ houtput hroots hplace hinput hinside hne hclear hrel
    exact convertTree_loses hd houtput hroots hplace hinput hinside hne hclear hrel

/-- A tree with one file, beside an old output. -/
def apartSuite : Disk where
  entries :=
    [([Text.encode "suite"], .directory 0o755),
      ([Text.encode "suite", Text.encode "a.txt"], .file (Text.encode "tap") 0o644),
      ([Text.encode "converted_suite"], .directory 0o755),
      ([Text.encode "converted_suite", Text.encode "old.txt"], .file (Text.encode "old") 0o644)]

theorem input_fate_apartSuite :
    ((convertTree { registry := .empty } (.ofString "suite")).run { disk := apartSuite }).2.disk.read
      (Path.below (.ofString "suite") [Text.encode "a.txt"]) = .ok (Text.encode "tap") := by
  have hd : apartSuite.WellFormed := by decide +kernel
  have hread : apartSuite.read (Path.below (.ofString "suite") [Text.encode "a.txt"]) = .ok (Text.encode "tap") := by
    decide +kernel
  have houtput : treeOutput apartSuite (.ofString "suite") = .ok (.ofString "converted_suite") := by decide +kernel
  have hends : apartSuite.EndsAt (.ofString "converted_suite") [Text.encode "converted_suite"] :=
    ⟨⟨[], Mode.newDirectory, some (Text.encode "converted_suite"), false⟩, _, rfl, rfl, rfl⟩
  have htrail : ∀ k ∈ apartSuite.pathTrail (Path.below (.ofString "suite") [Text.encode "a.txt"]),
      ¬ [Text.encode "converted_suite"] <+: k := by decide +kernel
  refine (input_fate (w := { disk := apartSuite }) hd hread).1 fun output place ho hp => ?_
  obtain rfl := Except.ok.inj (houtput.symm.trans ho)
  obtain rfl := hends.unique hp
  exact htrail

/-- A tree inside a directory, with a directory of its own name. -/
def nestedSuite : Disk where
  entries :=
    [([Text.encode "out"], .directory 0o755),
      ([Text.encode "out", Text.encode "in"], .directory 0o755),
      ([Text.encode "out", Text.encode "in", Text.encode "f.txt"], .file (Text.encode "one") 0o644),
      ([Text.encode "out", Text.encode "in", Text.encode "in"], .directory 0o755),
      ([Text.encode "out", Text.encode "in", Text.encode "in", Text.encode "f.txt"], .file (Text.encode "two") 0o644)]

/-- A tree with a link to a file of its old output. -/
def linkedSuite : Disk where
  entries :=
    [([Text.encode "converted_suite"], .directory 0o755),
      ([Text.encode "converted_suite", Text.encode "a.txt"], .file (Text.encode "a") 0o644),
      ([Text.encode "suite"], .directory 0o755),
      ([Text.encode "suite", Text.encode "a.txt"], .link (.ofString "../converted_suite/a.txt"))]

/-- The roots pass their check, and a file of the input is overwritten by the counterpart of another one, or goes with
the old output. -/
theorem input_damaged :
    (nestedSuite.WellFormed ∧ checkRoots nestedSuite (.ofString "out/in") (.ofString "out") = .ok () ∧
      nestedSuite.read (.ofString "out/in/f.txt") = .ok (Text.encode "one") ∧
      ((convertTreeInto { registry := .empty } (.ofString "out/in") (.ofString "out")).run
        { disk := nestedSuite }).2.disk.read (.ofString "out/in/f.txt") = .ok (Text.encode "two")) ∧
    linkedSuite.WellFormed ∧ checkRoots linkedSuite (.ofString "suite") (.ofString "converted_suite") = .ok () ∧
      linkedSuite.read (.ofString "suite/a.txt") = .ok (Text.encode "a") ∧
      ((convertTree { registry := .empty } (.ofString "suite")).run { disk := linkedSuite }).2.disk.read
        (.ofString "suite/a.txt") = .error .notFound := by
  refine ⟨⟨?_, ?_, ?_, ?_⟩, ?_, ?_, ?_, ?_⟩ <;> decide +kernel

end Converter

end Retarget
