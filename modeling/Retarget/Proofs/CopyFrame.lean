import Retarget.Proofs.BackupCopy
import Retarget.Proofs.PredictedOutput

/-!
# Copies stay in their backup

Whatever is copied, and from wherever, a copy changes nothing outside the directory that it is made in, as long as no
link leads out of that directory. In no case does it take a directory or a link away.

* `Backup.Into`: what copying into a directory may change,
* `Backup.copyFile_into`, `Backup.makeDirectories_into`: one file, and one directory,
* `Backup.copyTree_into`: all that is copied to a backup.
-/

namespace Retarget

open Disk

namespace Backup

variable {session p : Path} {names : List Name} {top : Location} {m : Mode} {d d' d'' : Disk}

/-! ## Changes in a directory -/

/-- What copying into a directory may change: directories and links are kept, and if no link stands in the directory,
files and directories are put in it alone. -/
structure Into (session : Path) (d d' : Disk) : Prop where
  ways : KeepsWays d d'
  current : d'.current = d.current
  privileged : d'.privileged = d.privileged
  refuses : d'.refuses = d.refuses
  wellFormed : d.WellFormed → d'.WellFormed
  overlays : ∀ top m, d.WellFormed → d.Leads session top → d.get? top = some (.directory m) → d.LinkFree top →
    Overlays top d d'

namespace Into

/-- The way to a directory is kept. -/
theorem leads (h : Into session d d') (hp : d.Leads p top) (htop : d.get? top = some (.directory m)) :
    d'.Leads p top := by
  rw [Leads, start, h.current]
  exact walk_ways h.ways h.privileged hp htop

theorem isDirectory (h : Into session d d') (hdir : d.isDirectory p = true) : d'.isDirectory p = true := by
  obtain ⟨l, m, hl, hm⟩ := isDirectory_eq_true.1 hdir
  exact isDirectory_eq_true.2 ⟨l, m, locate_ways h.ways h.current h.privileged hl hm, h.ways l _ hm (by simp)⟩

theorem refl (session : Path) (d : Disk) : Into session d d where
  ways _ _ he _ := he
  current := rfl
  privileged := rfl
  refuses := rfl
  wellFormed := id
  overlays _ _ hd _ _ hfree := .refl hd hfree

theorem trans (h : Into session d d') (h' : Into session d' d'') : Into session d d'' where
  ways k e he hother := h'.ways k e (h.ways k e he hother) hother
  current := h'.current.trans h.current
  privileged := h'.privileged.trans h.privileged
  refuses := h'.refuses.trans h.refuses
  wellFormed hd := h'.wellFormed (h.wellFormed hd)
  overlays top m hd hs htop hfree :=
    have hfirst := h.overlays top m hd hs htop hfree
    hfirst.trans (h'.overlays top m hfirst.wellFormed (h.leads hs htop) (h.ways _ _ htop (by simp)) hfirst.linkFree)

end Into

/-! ## Paths into a directory -/

/-- A path goes on from another one by names. -/
structure GoesOn (session p : Path) (names : List Name) : Prop where
  steps : p.steps = session.steps ++ names
  isAbsolute : p.isAbsolute = session.isAbsolute
  isName : ∀ k ∈ names, Path.IsName k

theorem GoesOn.leads (h : GoesOn session p []) (hs : d.Leads session top) : d.Leads p top := by
  rw [Leads, start, h.steps, h.isAbsolute, List.append_nil]
  exact hs

/-- Such a path ends below the directory. -/
theorem GoesOn.approach {a : Approach} {n last : Name} {ks : List Name} (h : GoesOn session p (ks ++ [last]))
    (hs : d.Leads session top) (hfree : d.LinkFree top) (ha : d.approach p = .ok a) (hn : a.name = some n) :
    a.directory = top ++ ks ∧ n = last := by
  obtain ⟨before, hsteps, _, hway, _⟩ := approach_name ha hn
  rw [h.steps, ← List.append_assoc] at hsteps
  obtain ⟨rfl, he⟩ := List.append_inj' hsteps rfl
  have hks : ∀ k ∈ ks, Path.IsName k := fun k hk => h.isName k (List.mem_append_left _ hk)
  obtain ⟨top', i, htop, hi⟩ := walk_left hway
  rw [Leads, start, ← h.isAbsolute] at hs
  obtain rfl : top' = top := Except.ok.inj (htop.symm.trans hs)
  refine ⟨?_, (List.singleton_inj.1 he).symm⟩
  rw [walk_named hfree (fun k hk => (hks k hk).ne_above) hi, Path.named_of_isName hks]

/-- One step up, such a path still goes on from the other one, which ends in a name. -/
theorem GoesOn.parent {before ks : List Name} {n last : Name} {q : Path} (h : GoesOn session p (ks ++ [last]))
    (hsession : session.steps = before ++ [n]) (hn : Path.IsName n) (hq : p.parent? = some q) :
    GoesOn session q ks := by
  have hks : ∀ k ∈ ks, Path.IsName k := fun k hk => h.isName k (List.mem_append_left _ hk)
  have hlast : Path.IsName last := h.isName last (by simp)
  have hsteps : p.steps = before ++ n :: (ks ++ [last]) := by rw [h.steps, hsession]; simp
  obtain ⟨k, hk⟩ := Path.fileName?_of_steps hsteps hn fun j hj => (h.isName j hj).ne_above
  obtain ⟨q', dots, dots', hq', habs, hdots, hdots', hcut⟩ := Path.steps_parent hk
  obtain rfl : q' = q := Option.some.inj (hq'.symm.trans hq)
  refine ⟨?_, habs.trans h.isAbsolute, hks⟩
  have hall : (q'.steps ++ dots) ++ k :: dots' = (session.steps ++ ks) ++ [last] := by
    rw [List.append_assoc, ← hcut, h.steps, List.append_assoc]
  -- Neither the last name nor the one before it is a full stop.
  rcases dots'.eq_nil_or_concat' with rfl | ⟨xs, x, rfl⟩
  · obtain ⟨hinit, -⟩ := List.append_inj' hall rfl
    rcases dots.eq_nil_or_concat' with rfl | ⟨ys, y, rfl⟩
    · rwa [List.append_nil] at hinit
    · exfalso
      obtain ⟨zs, z, hz, hzs⟩ : ∃ zs z, Path.IsName z ∧ session.steps ++ ks = zs ++ [z] := by
        rcases ks.eq_nil_or_concat' with rfl | ⟨zs, z, rfl⟩
        · exact ⟨before, n, hn, by rw [List.append_nil, hsession]⟩
        · exact ⟨session.steps ++ zs, z, hks z (by simp), by rw [List.append_assoc]⟩
      rw [hzs, ← List.append_assoc] at hinit
      obtain ⟨-, he⟩ := List.append_inj' hinit rfl
      exact hz.ne_here (List.singleton_inj.1 he ▸ hdots y (by simp))
  · exfalso
    rw [← List.cons_append, ← List.append_assoc] at hall
    obtain ⟨-, he⟩ := List.append_inj' hall rfl
    exact hlast.ne_here (List.singleton_inj.1 he ▸ hdots' x (by simp))

/-- The paths of copies go on from the directory that they are made in. -/
theorem goesOn_destOf {n : Name} {relative : List Name} (hn : Path.IsName n) (h : ∀ k ∈ relative, Path.IsName k) :
    GoesOn session (destOf (session.join ⟨n⟩) relative) (n :: relative) where
  steps := by
    rw [(steps_destOf _ relative).1, (Path.steps_below _ h).1, session.steps_join hn, List.append_assoc]
    rfl
  isAbsolute := by rw [(steps_destOf _ relative).2, (Path.steps_below _ h).2, session.isAbsolute_join hn]
  isName := List.forall_mem_cons.2 ⟨hn, h⟩

/-! ## One entry -/

theorem copyFile_into {source dest : Path} {ks : List Name} {last : Name} (h : GoesOn session dest (ks ++ [last]))
    (hcopy : d.copyFile source dest = .ok d') : Into session d d' := by
  obtain ⟨bytes, l, m, mode, _, hopen, hold, rfl⟩ := copyFile_eq_ok hcopy
  obtain ⟨⟨k, n, rfl, hn, hk⟩, hlink⟩ := openEnd_spec hopen
  refine ⟨fun j e he hother => ?_, put_current .., put_privileged .., put_refuses .., fun hd => hd.put hk hn hold,
    fun top m hd hs _ hfree => ?_⟩
  · rw [get?_put d (by simp), if_neg, he]
    rintro rfl
    cases e with
    | file bytes m => exact hother bytes m rfl
    | directory m => exact hold m he
    | link target => exact hlink target he
  · obtain ⟨a, n', ha, hn', _, hend⟩ := openEnd_cases hopen
    obtain ⟨hplace, rfl⟩ := h.approach hs hfree ha hn'
    rcases hend with ⟨he, _⟩ | ⟨target, _, _, he, _⟩
    · obtain ⟨rfl, _⟩ := List.append_inj' he rfl
      exact .put hd hfree hk (hplace ▸ List.prefix_append _ _) hn (by simp) hold
    · rw [hplace, List.append_assoc] at he
      exact (hfree _ target he).elim

theorem makeDirectory_overlays (h : GoesOn session p names) (hmake : d.makeDirectory p = .ok d') (hd : d.WellFormed)
    (hs : d.Leads session top) (htop : d.get? top = some (.directory m)) (hfree : d.LinkFree top) :
    Overlays top d d' := by
  obtain ⟨a, n, ha, hn, hdir, hname, hvacant, rfl⟩ := makeDirectory_eq_ok hmake
  rcases names.eq_nil_or_concat' with rfl | ⟨ks, last, rfl⟩
  · -- The directory itself is there.
    obtain ⟨before, _, hcheck, _⟩ := approach_name ha hn
    obtain ⟨c, _, hno⟩ := makeDirectory_there (h.leads hs) (by rw [htop]; rfl) (checkPath_eq_ok hcheck).1
    cases hno.symm.trans hmake
  · obtain ⟨hplace, _⟩ := h.approach hs hfree ha hn
    exact .put hd hfree hdir (hplace ▸ List.prefix_append _ _) hname (by simp) (by simp [hvacant])

/-- The directories above that are missing are in the directory as well. -/
theorem makeDirectories_overlays {before : List Name} {n : Name} (h : GoesOn session p names)
    (hsession : session.steps = before ++ [n]) (hn : Path.IsName n) (hd : d.WellFormed) (hs : d.Leads session top)
    (htop : d.get? top = some (.directory m)) (hfree : d.LinkFree top) :
    Overlays top d (d.makeDirectories p).2 := by
  refine (makeDirectoriesFrom_keeps
    (P := fun d' => Overlays top d d' ∧ d'.Leads session top ∧ d'.get? top = some (.directory m))
    (Q := fun p => ∃ names, GoesOn session p names) (fun d' p q ⟨_, hs', htop'⟩ ⟨names, hp⟩ hmissing hq => ?_)
    (fun d₁ p d₂ ⟨hover, hs', htop'⟩ ⟨_, hp⟩ hmake => ?_) _ ⟨.refl hd hfree, hs, htop⟩ ⟨names, h⟩).1
  · rcases names.eq_nil_or_concat' with rfl | ⟨ks, last, rfl⟩
    · -- The directory itself is not missing.
      have hbytes : p.bytes ≠ [] := bytes_ne_nil (by rw [hp.steps, List.append_nil, hsession])
      obtain ⟨c, hc, hno⟩ := makeDirectory_there (hp.leads hs') (by rw [htop']; rfl) hbytes
      cases hno.symm.trans hmissing
      exact (hc rfl).elim
    · exact ⟨ks, hp.parent hsession hn hq⟩
  · have hgrows := makeDirectory_grows hmake
    exact ⟨hover.trans (makeDirectory_overlays hp hmake hover.wellFormed hs' htop' hover.linkFree),
      hs'.mono hgrows.keeps, hgrows.keeps.get _ _ htop'⟩

theorem makeDirectories_into {before : List Name} {n : Name} (h : GoesOn session p names)
    (hsession : session.steps = before ++ [n]) (hn : Path.IsName n) : Into session d (d.makeDirectories p).2 := by
  have hgrows := makeDirectories_grows d p
  exact ⟨fun k e he _ => hgrows.keeps.get k e he, hgrows.keeps.current, hgrows.keeps.privileged, hgrows.keeps.refuses,
    hgrows.wellFormed, fun top m hd hs htop hfree => makeDirectories_overlays h hsession hn hd hs htop hfree⟩

/-! ## Whole copies -/

variable {w w' : Workbench} {n : Name} {r : Except BackupError Nat}

theorem copyMembers_into {copyMember : Name × Bool → ExceptT BackupError Job Nat} {ms : List (Name × Bool)}
    (hone : ∀ k ∈ ms, ∀ w r w', w.disk.WellFormed → (copyMember k).run w = (r, w') → Into session w.disk w'.disk)
    (hd : w.disk.WellFormed) (h : (copyMembers copyMember ms).run w = (r, w')) : Into session w.disk w'.disk := by
  induction ms generalizing w r with
  | nil =>
    cases h
    exact .refl session _
  | cons k ms ih =>
    rcases Job.run_bind_cases h with ⟨e, hfirst, _⟩ | ⟨count, w₁, hfirst, h⟩
    · exact hone k List.mem_cons_self w _ _ hd hfirst
    have hinto := hone k List.mem_cons_self w _ _ hd hfirst
    have hrest : ∀ {r}, (copyMembers copyMember ms).run w₁ = (r, w') → Into session w₁.disk w'.disk :=
      ih (fun k hk => hone k (List.mem_cons_of_mem _ hk)) (hinto.wellFormed hd)
    rcases Job.run_bind_cases h with ⟨e, hnext, _⟩ | ⟨count', w₂, hnext, h⟩
    · exact hinto.trans (hrest hnext)
    · cases h
      exact hinto.trans (hrest hnext)

/-- Whatever stands at a path is copied into the directory. -/
theorem copyFrom_into (root source : Path) (depth : Nat) {relative : List Name} {isDirectory : Bool}
    {before : List Name} {k : Name} (hsession : session.steps = before ++ [k]) (hk : Path.IsName k)
    (hn : Path.IsName n) (hrelative : ∀ k ∈ relative, Path.IsName k) (hd : w.disk.WellFormed)
    (h : (copyFrom root (session.join ⟨n⟩) depth source relative isDirectory).run w = (r, w')) :
    Into session w.disk w'.disk := by
  induction depth generalizing source relative isDirectory w r w' with
  | zero =>
    cases h
    exact .refl session _
  | succ depth ih =>
    have hdest : GoesOn session (destOf (session.join ⟨n⟩) relative) (n :: relative) := goesOn_destOf hn hrelative
    rw [copyFrom] at h
    cases isDirectory with
    | true =>
      have hmake : Into session w.disk (w.disk.makeDirectories (destOf (session.join ⟨n⟩) relative)).2 :=
        makeDirectories_into hdest hsession hk
      rcases Job.run_orFail_cases h with ⟨c, _, _, rfl⟩ | ⟨u, _, h⟩
      · exact hmake
      rcases Job.run_orFail_cases h with ⟨c, _, _, rfl⟩ | ⟨ms, hms, h⟩
      · exact hmake
      obtain ⟨l, _, _, rfl⟩ := listKinds_eq_ok hms
      refine hmake.trans (copyMembers_into (fun m hm w₁ r₁ w₂ hd₁ hrun => ?_) (hmake.wellFormed hd) h)
      obtain ⟨j, hj, rfl⟩ := List.mem_map.1 hm
      refine ih _ (fun i hi => ?_) hd₁ hrun
      rcases List.mem_append.1 hi with hi | hi
      · exact hrelative i hi
      · exact List.mem_singleton.1 hi ▸ (hmake.wellFormed hd).isName_of_mem_names hj
    | false =>
      simp only [Bool.false_eq_true, if_false, copyOne] at h
      rcases Job.change_cases (fun d => d.copyFile source (destOf (session.join ⟨n⟩) relative)) w with
        ⟨c, hjob⟩ | ⟨d, hcopy, hjob⟩
      · rw [Job.run_orFail_error hjob] at h
        cases h
        exact .refl session _
      · rw [Job.run_orFail_ok hjob] at h
        cases h
        obtain ⟨ks, last, hks⟩ : ∃ ks last, n :: relative = ks ++ [last] := by
          simpa using (n :: relative).eq_nil_or_concat'
        exact copyFile_into (hks ▸ hdest) hcopy

/-- A backup changes nothing outside its directory, if there are no links in that. -/
theorem copyTree_into {root : Path} {before : List Name} {k : Name} {r : Except BackupError (Path × Nat)}
    (hsession : session.steps = before ++ [k]) (hk : Path.IsName k) (hd : w.disk.WellFormed)
    (h : (copyTree session root).run w = (r, w')) : Into session w.disk w'.disk := by
  rw [copyTree] at h
  split at h
  · cases h
    exact .refl session _
  · next n hn =>
    rcases Job.run_orFail_cases h with ⟨c, _, _, rfl⟩ | ⟨found, _, h⟩
    · exact .refl session _
    have hname := Path.isName_of_fileName? hn
    rcases Job.run_bind_cases h with ⟨c, hrun, _⟩ | ⟨count, w₁, hrun, h⟩
    · exact copyFrom_into _ _ _ hsession hk hname (by simp) hd hrun
    · cases h
      exact copyFrom_into _ _ _ hsession hk hname (by simp) hd hrun

end Backup

end Retarget
