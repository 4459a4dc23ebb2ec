import Retarget.Proofs.PredictedOutput

/-!
# Outputs without files

An output that is made for a walk holds directories only. The walk deals with every directory in it once, so when it
comes to a directory no file has been put there before.

* `Visit.Sound.turn_frame`: what is under a name in the output stays as it is up to the turn of the name,
* `Visit.Hollow`: the counterpart of a directory that a walk comes to holds directories only, by `Visit.Hollow.step`,
* `Disk.made_hollow`: an output that was not there before its conversion is like that.
-/

namespace Retarget

open Disk

/-! ## New outputs -/

/-- A path that leads nowhere before it is made holds directories only. -/
theorem Disk.made_hollow {d d' : Disk} {p target : Path} {place : Location} {m : Mode} (hd : d.WellFormed)
    (hs : d.get? (d.start p) = some (.directory m)) (h : d.resolve p = .ok target)
    (hmake : d.makeDirectories p = (.ok (), d')) (hnew : ∀ l, ¬ d.Leads p l) (hplace : d'.Leads p place) :
    d'.Hollow place := by
  have hgrows : Grows d d' := by simpa [hmake] using makeDirectories_grows d p
  have hsteps := steps_from_root hd hs
  rcases resolveFrom_cases hd (isAbsolute_from_root d p) (by simp) h with ⟨l, hl, _⟩ | ⟨before, n, rest, l, hm, _⟩
  · -- The path is there, so it leads there unless some directory on the way may not be searched.
    exfalso
    rw [(d.currentPath.join p).names_eq, hsteps, List.append_assoc] at hl
    obtain ⟨l₁, _, hl₁, _⟩ := walk_left (by rw [← List.append_assoc] at hl; exact hl)
    have hstep : d.walk .stepwise linkLimit (d.start p) p.steps = .ok l₁ := by
      rw [← walk_from_root hd hs hl₁ p.steps]
      exact hl₁
    rcases walk_whole d linkLimit (d.start p) p.steps with hwhole | hdenied
    · exact hnew l₁ (hwhole.trans hstep)
    · have hdenied' := walk_error_mono hgrows.keeps hdenied (by simp)
      rw [Leads, hgrows.keeps.start, hdenied'] at hplace
      cases hplace
  · rw [hsteps] at hm
    obtain ⟨before', rfl, hm'⟩ := hm.from_start hd hs
    rw [hm'.made hd hmake hplace, List.append_cons]
    exact (hm'.hollow hd hmake).below (List.prefix_append _ _)

/-! ## Other names -/

theorem Disk.LinkFree.below {d : Disk} {top l : Location} (h : d.LinkFree top) (hl : top <+: l) : d.LinkFree l := by
  obtain ⟨mid, rfl⟩ := hl
  intro rest target
  rw [List.append_assoc]
  exact h (mid ++ rest) target

section Frame

variable {s : Site} {w : Workbench} {k : Location} {n : Name}

/-- A file changes its own place only. -/
theorem processMember_frame {m : Member} (hs : s.Ready w.disk) (hn : Path.IsName m.name)
    (hk : k ≠ s.place ++ [m.name]) :
    (processMember s.rules s.options s.input s.output s.relative m w).2.disk.get? k = w.disk.get? k := by
  unfold processMember
  cases hdir : m.isDirectory with
  | error c => rfl
  | ok isDirectory =>
    simp only [Job.bind_apply, Job.pure_apply]
    rcases processFile_spec hs.leads hn (Prod.eta _).symm with ⟨_, hdisk⟩ | ⟨bytes, _, hput⟩
    · rw [hdisk]
    · exact hput.frame hk

/-- So does the counterpart of a directory when it is made. -/
theorem Site.Ready.makeDirectories_frame {d : Disk} (hs : s.Ready d) (hn : Path.IsName n) (hk : k ≠ s.place ++ [n]) :
    (d.makeDirectories (s.output.join ⟨n⟩)).2.get? k = d.get? k := by
  obtain ⟨m, hm⟩ := hs.directory
  rcases makeDirectories_join hn (approach_join_ne_notFound hs.leads hm hn) with
    ⟨l, m', ha, _, hmake⟩ | ⟨_, hmake⟩ | ⟨c, hmake⟩
  · obtain ⟨_, hl, _, _⟩ := approach_join_spec hn ha
    obtain rfl := hl.unique hs.leads
    rw [hmake]
    exact (get?_put d (by simp) _ k).trans (if_neg hk)
  · rw [hmake]
  · rw [hmake]

/-- A directory changes its counterpart and what is below it only. -/
theorem processFolder_frame {depth : Nat} {ancestors : List Path} (hs : s.Ready w.disk)
    (hfree : w.disk.LinkFree s.place) (hn : Path.IsName n) (hk : ¬ s.place ++ [n] <+: k) :
    (processFolder (walkTree s.rules s.options depth) (s.input.join ⟨n⟩) (s.output.join ⟨n⟩) (s.relative.join ⟨n⟩)
      ancestors w).2.disk.get? k = w.disk.get? k := by
  have hmade : (w.disk.makeDirectories (s.output.join ⟨n⟩)).2.get? k = w.disk.get? k :=
    hs.makeDirectories_frame hn fun he => hk (he ▸ List.prefix_refl _)
  unfold processFolder
  simp only [Job.bind_apply, Job.ask_apply]
  cases hcanonical : w.disk.canonicalize (s.input.join ⟨n⟩) with
  | error c => rfl
  | ok canonical =>
    simp only
    by_cases hcycle : ancestors.contains canonical = true
    · rw [if_pos hcycle]
      rfl
    · rw [if_neg hcycle]
      simp only [Job.bind_apply, Job.act_apply]
      rcases hs.makeDirectories hfree (List.prefix_refl _) hn with ⟨d', hmake, hready, hover⟩ | ⟨c, hmake⟩
      · rw [hmake] at hmade
        simp only [hmake]
        have hwalk := walkTree_overlays depth (ancestors ++ [canonical]) (w := { w with disk := d' }) hready
          (hover.linkFree.below (List.prefix_append _ _)) (List.prefix_refl _)
        exact (hwalk.frame k hk).trans hmade
      · simp only [hmake]
        rfl

end Frame

/-! ## Hollow outputs -/

section Walk

variable {rules : List Rule} {options : TreeOptions} {v v' : Visit} {top : Location} {start : Disk} {root : Path}

/-- What is under the name of a directory in the output stays as it is until its turn has come. -/
theorem Visit.Sound.turn_frame {depth : Nat} {n : Name} {w : Workbench} {place : Location}
    (h : v.Sound rules options top start root) (hturn : v.Turn rules options (walkTree rules options depth) n w)
    (hleads : v.bench.disk.Leads v.output place) (rest : Location) :
    w.disk.get? (place ++ n :: rest) = v.bench.disk.get? (place ++ n :: rest) := by
  obtain ⟨place', htop, hs⟩ := h.ready
  obtain rfl := hs.leads.unique hleads
  have hfree := h.overlay.linkFree.below htop
  cases hturn with
  | @mk ms before after n hmembers hfolders =>
    obtain ⟨hnodup, hname⟩ := members_spec hs.wellFormed hmembers
    have hmem : ∀ p : Member → Bool, ∀ k ∈ (ms.filter p).map Member.name, Path.IsName k :=
      fun p k hk => hname k ((List.filter_sublist.map Member.name).subset hk)
    have hfile := folder_not_file hnodup (n := n) (by rw [hfolders]; simp)
    have hbefore : n ∉ before := by
      have hfolderNames : ((ms.filter Member.isFolder).map Member.name).Nodup :=
        hnodup.sublist (List.filter_sublist.map Member.name)
      rw [hfolders] at hfolderNames
      exact fun hn => (List.nodup_append.1 hfolderNames).2.2 n hn n List.mem_cons_self rfl
    -- First the files and then the directories before: all of them have other names.
    let I (d : Disk) : Prop := Overlays place' v.bench.disk d ∧
      d.get? (place' ++ n :: rest) = v.bench.disk.get? (place' ++ n :: rest)
    have hfiles : I ((ms.filter fun m => !m.isFolder).mapM
        (processMember rules options v.input v.output v.relative) v.bench).2.disk := by
      refine Job.mapM_disk (fun m hm w₁ hI => ?_) ⟨.refl hs.wellFormed hfree, rfl⟩
      have hn := hmem _ m.name (List.mem_map_of_mem hm)
      have hready := hs.overlay hI.1
      refine ⟨hI.1.trans (processMember_overlays hready hI.1.linkFree (List.prefix_refl _) hn),
        (processMember_frame hready hn fun he => hfile ?_).trans hI.2⟩
      obtain ⟨rfl, _⟩ := List.cons.inj (List.append_cancel_left he)
      exact List.mem_map_of_mem hm
    have hfolder : ∀ k ∈ before, ∀ w₁ : Workbench, I w₁.disk →
        I (v.folder (walkTree rules options depth) k w₁).2.disk := by
      intro k hk w₁ hI
      have hn := hmem _ k (by rw [hfolders]; exact List.mem_append_left _ hk)
      let s : Site := ⟨rules, options, v.input, v.output, v.relative, place'⟩
      have hready : s.Ready w₁.disk := hs.overlay hI.1
      have hover : Overlays place' w₁.disk (v.folder (walkTree rules options depth) k w₁).2.disk :=
        processFolder_overlays (s := s) v.ancestors
          (fun ancestors w hs hfree => walkTree_overlays depth ancestors hs hfree (List.prefix_append _ _)) hready
          hI.1.linkFree (List.prefix_refl _) hn
      have hframe : (v.folder (walkTree rules options depth) k w₁).2.disk.get? (place' ++ n :: rest) =
          w₁.disk.get? (place' ++ n :: rest) :=
        processFolder_frame (s := s) hready hI.1.linkFree hn (Site.not_prefix_of_ne fun he => hbefore (he ▸ hk))
      exact ⟨hI.1.trans hover, hframe.trans hI.2⟩
    exact (processFolders_disk hfolder hfiles).2

/-- The counterpart of a directory holds directories only. -/
def Visit.Hollow (v : Visit) : Prop := ∀ place, v.bench.disk.Leads v.output place → v.bench.disk.Hollow place

/-- From one directory to the next one down. -/
theorem Visit.Hollow.step (h : v.Hollow) (hs : v.Sound rules options top start root)
    (hdown : v.Descends rules options v') : v'.Hollow := by
  obtain ⟨place, htop, hready⟩ := hs.ready
  cases hdown with
  | @mk depth n w canonical d hdepth hturn hcanonical hnew hmake =>
    obtain ⟨hn, hover, _⟩ := hs.turn hturn
    rcases (hready.overlay hover).makeDirectories hover.linkFree htop hn with ⟨d', hmake', hinto, _⟩ | ⟨c, hmake'⟩
    · obtain rfl : d = d' := (Prod.mk.inj (hmake.symm.trans hmake')).2
      intro place' hleads' rest e he
      obtain rfl := hleads'.unique hinto.leads
      have hadds := makeDirectoriesFrom_adds ((v.output.join ⟨n⟩).bytes.length + 1) w.disk (v.output.join ⟨n⟩)
      rw [← makeDirectories, hmake] at hadds
      rcases hadds _ _ he with hold | hdirectory
      · refine h place hready.leads (n :: rest) e ?_
        rw [← hs.turn_frame hturn hready.leads, List.append_cons]
        exact hold
      · exact hdirectory
    · cases hmake.symm.trans hmake'

theorem Visit.Hollow.reach (h : v.Hollow) (hs : v.Sound rules options top start root)
    (hreach : v.Reaches rules options v') : v'.Hollow := by
  induction hreach with
  | refl => exact h
  | tail hreach hdown ih => exact ih.step (hs.reach hreach) hdown

end Walk

end Retarget
