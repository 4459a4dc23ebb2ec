import Retarget.Proofs.CopyFrame

/-!
# Backups one after another

However many backups are made in a backup directory, of whatever and at whatever times, each of them gets a directory
that was not there before, and what it copies is put nowhere else. So no backup touches an earlier one.

* `Disk.Straight`: a path goes on from something that is there without going up,
* `Disk.makeDirectories_fresh`: such a path is made at a place where nothing stood,
* `Backup.make`, `Backup.makeAll`: one backup, and backups one after another,
* `Backup.make_grows`: one backup leaves all that is on the disk as it is,
* `Backup.Shelved`: what holds of the directories of backups, kept by each backup (`Backup.Shelved.make`),
* `Backup.makeAll_apart`: what that means after any number of backups.
-/

namespace Retarget

/-! ## New directories -/

namespace Disk

variable {d d' : Disk} {p : Path} {place : Location}

/-- From something that is there, a path goes on without going up. -/
def Straight (d : Disk) (p : Path) : Prop :=
  ∃ before rest l, p.steps = before ++ rest ∧ d.walk .whole linkLimit (d.start p) before = .ok l ∧ Path.above ∉ rest

theorem Straight.mono (h : d.Straight p) (hd : Extends d d') : d'.Straight p := by
  obtain ⟨before, rest, l, hsteps, hway, hrest⟩ := h
  exact ⟨before, rest, l, hsteps, hd.start p ▸ walk_mono hd hway, hrest⟩

theorem Straight.of_leads {l : Location} (h : d.Leads p l) : d.Straight p :=
  ⟨p.steps, [], l, (List.append_nil _).symm, h, by simp⟩

theorem Straight.join {n : Name} (h : d.Straight p) (hn : Path.IsName n) : d.Straight (p.join ⟨n⟩) := by
  obtain ⟨before, rest, l, hsteps, hway, hrest⟩ := h
  refine ⟨before, rest ++ [n], l, ?_, start_join d p hn ▸ hway, fun habove => ?_⟩
  · rw [p.steps_join hn, hsteps, List.append_assoc]
  · rcases List.mem_append.1 habove with h | h
    · exact hrest h
    · exact hn.ne_above (List.mem_singleton.1 h).symm

/-- Names lead somewhere, or there is a first one that does not. -/
theorem walk_first_error {links : Nat} {s l : Location} {xs : List Name} (h : d.walk .whole links s xs = .ok l)
    (rest : List Name) :
    (∃ l', d.walk .whole links s (xs ++ rest) = .ok l') ∨
    ∃ ys n zs l' c, rest = ys ++ n :: zs ∧ d.walk .whole links s (xs ++ ys) = .ok l' ∧
      d.walk .whole links s (xs ++ ys ++ [n]) = .error c := by
  induction rest generalizing xs l with
  | nil => exact .inl ⟨l, by rwa [List.append_nil]⟩
  | cons n rest ih =>
    cases hn : d.walk .whole links s (xs ++ [n]) with
    | error c => exact .inr ⟨[], n, rest, l, c, rfl, by rwa [List.append_nil], by rwa [List.append_nil]⟩
    | ok l' =>
      rcases ih hn with hall | ⟨ys, k, zs, l₁, c, rfl, hl₁, hc⟩
      · exact .inl (by rwa [List.append_assoc] at hall)
      · exact .inr ⟨n :: ys, k, zs, l₁, c, rfl, by rwa [List.append_assoc] at hl₁,
          by rwa [List.append_assoc xs [n]] at hc⟩

theorem exists_of_isDirectory (h : d.isDirectory p = true) : d.exists p = true := by
  obtain ⟨l, m, hl, he⟩ := isDirectory_eq_true.1 h
  rw [«exists», metadata_eq_ok.2 ⟨l, _, hl, he, rfl⟩]
  rfl

/-- Where a path leads to already, nothing can be made that is not there. -/
theorem makeDirectories_leads_nowhere (hp : p.bytes ≠ []) (hd : d.WellFormed) (hfree : d.exists p = false)
    (hmake : d.makeDirectories p = (.ok (), d')) (l : Location) : ¬ d.Leads p l := by
  intro hl
  obtain ⟨m, hm⟩ := makeDirectoriesFrom_start _ hp hmake
  obtain ⟨c, hc, herror⟩ := makeDirectory_there hl (walk_occupied hd (by rw [hm]; rfl) hl) hp
  cases (exists_of_isDirectory (isDirectory_of_made hp hc herror hmake)).symm.trans hfree

/-- A path that leads nowhere and does not go up after what is there is made at a place where nothing stood. -/
theorem makeDirectories_fresh (hd : d.WellFormed) (hp : p.bytes ≠ []) (hstraight : d.Straight p)
    (hfree : d.exists p = false) (hmake : d.makeDirectories p = (.ok (), d')) (hplace : d'.Leads p place) :
    d.get? place = none := by
  have hkeeps : Extends d d' := by simpa [hmake] using (makeDirectories_grows d p).keeps
  obtain ⟨m, hm⟩ := makeDirectoriesFrom_start _ hp hmake
  obtain ⟨before, rest, l, hsteps, hway, hrest⟩ := hstraight
  rcases walk_first_error hway rest with ⟨l', hl'⟩ | ⟨ys, n, zs, l', c, rfl, hl', hc⟩
  · rw [← hsteps] at hl'
    exact (makeDirectories_leads_nowhere hp hd hfree hmake l' hl').elim
  have hsteps' : p.steps = (before ++ ys) ++ n :: zs := by rw [hsteps, List.append_assoc]
  -- What is not merely missing stays in the way.
  obtain rfl : c = .notFound := by
    by_contra hother
    have hfail := walk_append_error (walk_error_mono hkeeps hc hother) zs
    rw [Leads, hkeeps.start, hsteps', List.append_cons, hfail] at hplace
    cases hplace
  have habove : ∀ k ∈ n :: zs, k ≠ Path.above := fun k hk he => hrest (he ▸ List.mem_append_right _ hk)
  have hname : Path.IsName n := by
    have hmem : n ∈ p.steps := by rw [hsteps']; simp
    obtain ⟨hpart, hne⟩ := List.mem_filter.1 hmem
    refine ⟨by simpa using hne, Path.slash_not_mem_of_mem_parts hpart, fun hhere => ?_, habove n List.mem_cons_self⟩
    obtain ⟨k, _, hk⟩ := walk_append hl' [n]
    rw [hk] at hc
    rcases walk_stays_cases k (walk_occupied hd (by rw [hm]; rfl) hl')
      (fun j hj => .inr ((List.mem_singleton.1 hj).trans hhere)) with hs | ⟨c, hne, hs⟩
    · cases hs.symm.trans hc
    · cases hs.symm.trans hc
      exact hne rfl
  have hmissing : d.Missing (d.start p) p.steps (before ++ ys) n zs l' := by
    refine ⟨hsteps', hname, fun k hk => habove k (List.mem_cons_of_mem _ hk), walk_stepwise hl', ?_⟩
    rcases walk_whole d linkLimit (d.start p) (before ++ ys ++ [n]) with hw | hw
    · exact hw.symm.trans hc
    · cases hw.symm.trans hc
  have hvacant := hmissing.vacant hd hmake
  rw [hmissing.made hd hmake hplace, List.append_cons]
  by_cases hnil : Path.named zs = []
  · rw [hnil, List.append_nil, hvacant]
  · exact hd.vacant_below (by simp [hvacant]) hnil

/-- A path with a name at its end leads to a directory when it has been made. -/
theorem makeDirectories_isDirectory {n : Name} (hn : Path.IsName n)
    (hmake : d.makeDirectories (p.join ⟨n⟩) = (.ok (), d')) : d'.isDirectory (p.join ⟨n⟩) = true := by
  have hp := p.join_bytes_ne_nil hn
  obtain ⟨l, m, hl, hm⟩ := makeDirectories_leads_of_ne hp hmake
  have hcheck : checkPath (p.join ⟨n⟩) = .ok () := by
    cases hc : checkPath (p.join ⟨n⟩) with
    | ok u => rfl
    | error c =>
      have herror : d.makeDirectory (p.join ⟨n⟩) = .error c := by
        rw [makeDirectory, approach, hc]
        rfl
      obtain ⟨_, _, hl, _⟩ := isDirectory_eq_true.1 (isDirectory_of_made hp (checkPath_error hp hc) herror hmake)
      cases hc.symm.trans (locate_eq_ok.1 hl).1
  refine isDirectory_eq_true.2 ⟨l, m, locate_eq_ok.2 ⟨hcheck, ?_⟩, hm⟩
  rw [p.names_join hn, ← p.steps_join hn]
  exact hl

end Disk

/-! ## One backup -/

namespace Backup

open Disk

/-- A backup that is asked for: when, and of what. -/
structure Order where
  moment : Timestamp.Moment
  root : Path

/-- Make a backup. Gives the directory that it gets, if any: that stays also if not all can be copied. -/
def make (folder : Path) (o : Order) (w : Workbench) : Option Path × Workbench :=
  match (openSession folder (o.moment.render "-")).run w with
  | (.error _, w) => (none, w)
  | (.ok session, w) => (some session, ((copyTree session o.root).run w).2)

/-- Make backups one after another. Gives the directories that they get. -/
def makeAll (folder : Path) : List Order → Workbench → List Path × Workbench
  | [], w => ([], w)
  | o :: rest, w =>
    let first := make folder o w
    let others := makeAll folder rest first.2
    (first.1.toList ++ others.1, others.2)

variable {folder session p : Path} {moment : Timestamp.Moment} {o : Order} {w w₁ : Workbench} {sessions : List Path}
  {place : Location}

/-- A backup fails before it has a directory, or it copies something there. -/
theorem make_cases (folder : Path) (o : Order) (w : Workbench) :
    (∃ e w₁, (openSession folder (o.moment.render "-")).run w = (.error e, w₁) ∧ make folder o w = (none, w₁)) ∨
    ∃ session w₁, (openSession folder (o.moment.render "-")).run w = (.ok session, w₁) ∧
      make folder o w = (some session, ((copyTree session o.root).run w₁).2) := by
  unfold make
  rcases (openSession folder (o.moment.render "-")).run w with ⟨e | session, w₁⟩
  · exact .inl ⟨e, w₁, rfl, rfl⟩
  · exact .inr ⟨session, w₁, rfl, rfl⟩

theorem openSession_grows (folder : Path) (time : String) (w : Workbench) :
    Grows w.disk ((openSession folder time).run w).2.disk := by
  rw [(openSession_run (Prod.eta _).symm).1]
  exact makeDirectories_grows _ _

/-- The directory of a backup has a free path, and is made there. -/
theorem openSession_made (h : (openSession folder (moment.render "-")).run w = (.ok session, w₁)) :
    (∃ n, Path.IsName n ∧ session = folder.join ⟨n⟩) ∧ w.disk.exists session = false ∧
      w.disk.makeDirectories session = (.ok (), w₁.disk) := by
  obtain ⟨i, hfree, _, hpath⟩ := freePath_free w.disk folder (isName_sessionName moment)
  obtain ⟨hsession, hmake⟩ := (openSession_run h).2 session rfl
  rw [hpath _ (Nat.lt_succ_self _)] at hsession
  exact ⟨⟨_, isName_sessionName moment i, hsession⟩, hsession ▸ hfree, hmake⟩

/-- The directory of a backup stands where nothing stood. -/
theorem openSession_opened (hd : w.disk.WellFormed) (hstraight : w.disk.Straight folder)
    (h : (openSession folder (moment.render "-")).run w = (.ok session, w₁)) :
    ∃ place, Opened w.disk w₁.disk session place := by
  obtain ⟨⟨n, hn, rfl⟩, hfree, hmake⟩ := openSession_made h
  have hp := folder.join_bytes_ne_nil hn
  obtain ⟨place, m, hplace, hm⟩ := makeDirectories_leads_of_ne hp hmake
  exact ⟨place, makeDirectories_fresh hd hp (hstraight.join hn) hfree hmake hplace, hplace, m, hm⟩

/-- What is copied to a backup. -/
theorem copyTree_session (hd : w.disk.WellFormed)
    (h : (openSession folder (moment.render "-")).run w = (.ok session, w₁)) (root : Path) :
    Into session w₁.disk ((copyTree session root).run w₁).2.disk := by
  obtain ⟨⟨n, hn, rfl⟩, _, hmake⟩ := openSession_made h
  have hgrows := openSession_grows folder (moment.render "-") w
  rw [h] at hgrows
  exact copyTree_into (folder.steps_join hn) hn (hgrows.wellFormed hd) (Prod.eta _).symm

/-- **A backup leaves all that is on the disk as it is.** -/
theorem make_grows (hd : w.disk.WellFormed) (hstraight : w.disk.Straight folder) (o : Order) :
    Grows w.disk (make folder o w).2.disk := by
  have hopens := openSession_grows folder (o.moment.render "-") w
  rcases make_cases folder o w with ⟨e, w₁, hopen, hmake⟩ | ⟨session, w₁, hopen, hmake⟩
  · rw [hmake]
    rwa [hopen] at hopens
  rw [hopen] at hopens
  rw [hmake]
  obtain ⟨place, hfresh, hleads, m, hm⟩ := openSession_opened hd hstraight hopen
  have hinto := copyTree_session hd hopen o.root
  have hvacant : ∀ rest, w.disk.get? (place ++ rest) = none := fun rest => by
    by_cases hrest : rest = []
    · rw [hrest, List.append_nil, hfresh]
    · exact hd.vacant_below (by simp [hfresh]) hrest
  have hadds : Adds w.disk w₁.disk := by
    have hadds := makeDirectoriesFrom_adds (session.bytes.length + 1) w.disk session
    rwa [← makeDirectories, (openSession_made hopen).2.2] at hadds
  have hfree : w₁.disk.LinkFree place := fun rest target hlink => by
    rcases hadds _ _ hlink with hold | ⟨m, he⟩
    · cases (hvacant rest).symm.trans hold
    · cases he
  have hover := hinto.overlays place m (hopens.wellFormed hd) hleads hm hfree
  refine ⟨⟨fun k e he => ?_, hinto.current.trans hopens.keeps.current, hinto.privileged.trans hopens.keeps.privileged,
    hinto.refuses.trans hopens.keeps.refuses⟩, fun _ => hover.wellFormed⟩
  rw [hover.frame k, hopens.keeps.get k e he]
  rintro ⟨rest, rfl⟩
  cases (hvacant rest).symm.trans he

/-! ## Backups one after another -/

/-- What holds of the directories of backups: they are there, and each has its own path in the backup directory. -/
structure Shelved (folder : Path) (sessions : List Path) (d : Disk) : Prop where
  wellFormed : d.WellFormed
  nodup : sessions.Nodup
  isDirectory : ∀ p ∈ sessions, d.isDirectory p = true
  named : ∀ p ∈ sessions, ∃ n, Path.IsName n ∧ p = folder.join ⟨n⟩

/-- Where there is a backup, there is the backup directory. -/
theorem Shelved.straight {d : Disk} (h : Shelved folder sessions d) (hp : p ∈ sessions) : d.Straight folder := by
  obtain ⟨n, hn, rfl⟩ := h.named p hp
  obtain ⟨l, hl, _⟩ := exists_join hn (exists_of_isDirectory (h.isDirectory _ hp))
  exact .of_leads hl

/-- The path of a backup is none of those before. -/
theorem Shelved.not_mem (h : Shelved folder sessions w.disk)
    (hopen : (openSession folder (moment.render "-")).run w = (.ok session, w₁)) : session ∉ sessions := fun hmem => by
  cases (exists_of_isDirectory (h.isDirectory _ hmem)).symm.trans (openSession_made hopen).2.1

theorem openSession_isDirectory (h : (openSession folder (moment.render "-")).run w = (.ok session, w₁)) :
    w₁.disk.isDirectory session = true := by
  obtain ⟨⟨n, hn, rfl⟩, _, hmake⟩ := openSession_made h
  exact makeDirectories_isDirectory hn hmake

/-- One more backup. -/
theorem Shelved.make (h : Shelved folder sessions w.disk) (o : Order) :
    Shelved folder (sessions ++ (make folder o w).1.toList) (make folder o w).2.disk := by
  have hopens := openSession_grows folder (o.moment.render "-") w
  have hfirst : ∀ p, w.disk.isDirectory p = true →
      ((openSession folder (o.moment.render "-")).run w).2.disk.isDirectory p = true :=
    fun p hp => isDirectory_mono hopens.keeps hp
  rcases make_cases folder o w with ⟨e, w₁, hopen, hmake⟩ | ⟨session, w₁, hopen, hmake⟩
  · rw [hopen] at hopens hfirst
    rw [hmake, Option.toList_none, List.append_nil]
    exact ⟨hopens.wellFormed h.wellFormed, h.nodup, fun p hp => hfirst p (h.isDirectory p hp), h.named⟩
  rw [hopen] at hopens hfirst
  rw [hmake, Option.toList_some]
  have hinto := copyTree_session h.wellFormed hopen o.root
  refine ⟨hinto.wellFormed (hopens.wellFormed h.wellFormed), ?_, fun p hp => hinto.isDirectory ?_, fun p hp => ?_⟩
  · refine List.nodup_append.2 ⟨h.nodup, List.nodup_singleton _, fun p hp q hq he => ?_⟩
    exact h.not_mem hopen (List.mem_singleton.1 hq ▸ he ▸ hp)
  · rcases List.mem_append.1 hp with hp | hp
    · exact hfirst p (h.isDirectory p hp)
    · exact List.mem_singleton.1 hp ▸ openSession_isDirectory hopen
  · rcases List.mem_append.1 hp with hp | hp
    · exact h.named p hp
    · exact List.mem_singleton.1 hp ▸ (openSession_made hopen).1

/-- Any more backups. -/
theorem Shelved.makeAll (h : Shelved folder sessions w.disk) (orders : List Order) :
    Shelved folder (sessions ++ (makeAll folder orders w).1) (makeAll folder orders w).2.disk := by
  induction orders generalizing sessions w with
  | nil => rwa [Backup.makeAll, List.append_nil]
  | cons o orders ih =>
    rw [Backup.makeAll, ← List.append_assoc]
    exact ih (h.make o)

/-- Backups leave all that is on the disk as it is. -/
theorem makeAll_grows (hd : w.disk.WellFormed) (hstraight : w.disk.Straight folder) (orders : List Order) :
    Grows w.disk (makeAll folder orders w).2.disk := by
  induction orders generalizing w with
  | nil => exact .refl _
  | cons o orders ih =>
    have hfirst := make_grows hd hstraight o
    exact hfirst.trans (ih (hfirst.wellFormed hd) (hstraight.mono hfirst.keeps))

/-- **Backups never touch earlier backups.** After any backups in a backup directory, of whatever and at whatever times:

* all of them have different directories,
* the search for the directory of another one ends: its path is the first that leads nowhere, however many tries there
  are,
* if a directory is made, it is at this path, which none of the backups before has; and nothing stood there before,
  unless the path of the backup directory goes up from a directory that was missing,
* whatever backups follow, each directory of a backup is found at the same place, with all that is in it. -/
theorem makeAll_apart (hd : w.disk.WellFormed) (folder : Path) (orders : List Order) :
    let sessions := (makeAll folder orders w).1
    let w₀ := (makeAll folder orders w).2
    sessions.Nodup ∧
    (∀ moment : Timestamp.Moment, ∃ i, w₀.disk.exists (sessionPath folder (moment.render "-") i) = false ∧
      (∀ j < i, w₀.disk.exists (sessionPath folder (moment.render "-") j) = true) ∧
      (∀ tries, w₀.disk.entries.length < tries →
        freePath w₀.disk folder (moment.render "-") tries 0 = sessionPath folder (moment.render "-") i) ∧
      ∀ session w₁, (openSession folder (moment.render "-")).run w₀ = (.ok session, w₁) →
        session = sessionPath folder (moment.render "-") i ∧ session ∉ sessions ∧
        w₁.disk.isDirectory session = true ∧
        (w.disk.Straight folder ∨ sessions ≠ [] → ∃ place, Opened w₀.disk w₁.disk session place)) ∧
    ∀ session ∈ sessions, ∃ place m, w₀.disk.Leads session place ∧ w₀.disk.get? place = some (.directory m) ∧
      ∀ later, (makeAll folder later w₀).2.disk.Leads session place ∧
        ∀ rest e, w₀.disk.get? (place ++ rest) = some e →
          (makeAll folder later w₀).2.disk.get? (place ++ rest) = some e := by
  have hshelved : Shelved folder ([] ++ (makeAll folder orders w).1) (makeAll folder orders w).2.disk :=
    Shelved.makeAll ⟨hd, List.nodup_nil, by simp, by simp⟩ orders
  rw [List.nil_append] at hshelved
  refine ⟨hshelved.nodup, fun moment => ?_, fun session hsession => ?_⟩
  · obtain ⟨i, hfree, htaken, hpath⟩ :=
      freePath_free (makeAll folder orders w).2.disk folder (isName_sessionName moment)
    refine ⟨i, hfree, htaken, hpath, fun session w₁ hopen => ⟨?_, hshelved.not_mem hopen,
      openSession_isDirectory hopen, fun hthere => openSession_opened hshelved.wellFormed ?_ hopen⟩⟩
    · rw [((openSession_run hopen).2 session rfl).1, hpath _ (Nat.lt_succ_self _)]
    · rcases hthere with hstraight | hsome
      · exact hstraight.mono (makeAll_grows hd hstraight orders).keeps
      · obtain ⟨p, hp⟩ := List.exists_mem_of_ne_nil _ hsome
        exact hshelved.straight hp
  · obtain ⟨place, m, hplace, hm⟩ := isDirectory_leads (hshelved.isDirectory session hsession)
    refine ⟨place, m, hplace, hm, fun later => ?_⟩
    have hkeeps := (makeAll_grows hshelved.wellFormed (hshelved.straight hsession) later).keeps
    exact ⟨hplace.mono hkeeps, fun rest e he => hkeeps.get _ e he⟩

/-- An output, and a backup directory in which the name of a backup is taken by a file. -/
def takenShelf : Disk where
  entries :=
    [([Text.encode "out"], .directory 0o755),
      ([Text.encode "out", Text.encode "a.txt"], .file [0x61] 0o644),
      ([Text.encode "saved"], .directory 0o755),
      ([Text.encode "saved", Text.encode "2024-05-06T07-08-09"], .file [] 0o644)]

/-- A backup of the output, made at that time. -/
def takenOrder : Order := ⟨⟨2024, 5, 6, 7, 8, 9⟩, .ofString "out"⟩

/-- Two backups at the same time. -/
theorem makeAll_apart_takenShelf :
    let w₀ := (makeAll (.ofString "saved") [takenOrder] ⟨takenShelf, []⟩).2
    takenShelf.WellFormed ∧
    (makeAll (.ofString "saved") [takenOrder] ⟨takenShelf, []⟩).1 = [.ofString "saved/2024-05-06T07-08-09-1"] ∧
    (∃ w₁, (openSession (.ofString "saved") (takenOrder.moment.render "-")).run w₀ =
        (.ok (.ofString "saved/2024-05-06T07-08-09-2"), w₁) ∧
      w₁.disk.isDirectory (.ofString "saved/2024-05-06T07-08-09-2") = true) ∧
    (makeAll (.ofString "saved") [takenOrder] w₀).2.disk.get?
      [Text.encode "saved", Text.encode "2024-05-06T07-08-09-1", Text.encode "out", Text.encode "a.txt"] =
        some (.file [0x61] 0o644) := by
  have hd : takenShelf.WellFormed := by decide +kernel
  have hsessions : (makeAll (.ofString "saved") [takenOrder] ⟨takenShelf, []⟩).1 =
      [.ofString "saved/2024-05-06T07-08-09-1"] := by decide +kernel
  obtain ⟨-, hnext, hkept⟩ := makeAll_apart (w := ⟨takenShelf, []⟩) hd (.ofString "saved") [takenOrder]
  refine ⟨hd, hsessions, ?_, ?_⟩
  · obtain ⟨i, -, -, -, hopened⟩ := hnext takenOrder.moment
    have hsecond : ((openSession (.ofString "saved") (takenOrder.moment.render "-")).run
        (makeAll (.ofString "saved") [takenOrder] ⟨takenShelf, []⟩).2).1 =
        .ok (.ofString "saved/2024-05-06T07-08-09-2") := by decide +kernel
    exact ⟨_, Prod.ext hsecond rfl, (hopened _ _ (Prod.ext hsecond rfl)).2.2.1⟩
  · obtain ⟨place, m, hplace, -, hlater⟩ := hkept (.ofString "saved/2024-05-06T07-08-09-1") (by rw [hsessions]; simp)
    have hfirst : (makeAll (.ofString "saved") [takenOrder] ⟨takenShelf, []⟩).2.disk.Leads
        (.ofString "saved/2024-05-06T07-08-09-1") [Text.encode "saved", Text.encode "2024-05-06T07-08-09-1"] := by
      unfold Leads
      decide +kernel
    obtain rfl := hplace.unique hfirst
    exact (hlater [takenOrder]).2 [Text.encode "out", Text.encode "a.txt"] _ (by decide +kernel)

end Backup

end Retarget
