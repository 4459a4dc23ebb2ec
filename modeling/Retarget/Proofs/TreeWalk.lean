import Retarget.Proofs.TreeFiles

/-!
# Walks through a tree

A walk gives every file and every directory that it counts a counterpart in a directory that is empty before, and puts
nothing else there.

* `Site.Mirrors`: a part of a walk has put exactly what its report says below a directory,
* `Site.Mirrors.append`: one part after another,
* `walkTree_mirrors`: the whole walk.
-/

namespace Retarget

open Disk

/-- A directory of a tree with the path and the place of its counterpart, and the path below the root of the tree. -/
structure Site where
  rules : List Rule
  options : TreeOptions
  input : Path
  output : Path
  relative : Path
  place : Location

namespace Site

/-- A directory in the directory. -/
def into (s : Site) (n : Name) : Site where
  rules := s.rules
  options := s.options
  input := s.input.join ⟨n⟩
  output := s.output.join ⟨n⟩
  relative := s.relative.join ⟨n⟩
  place := s.place ++ [n]

/-- The counterpart of the directory is there. -/
structure Ready (s : Site) (d : Disk) : Prop where
  wellFormed : d.WellFormed
  leads : d.Leads s.output s.place
  directory : ∃ m, d.get? s.place = some (.directory m)

/-- What a record says of a file below the directory is so: nothing stands for a file that failed, and the right bytes
for any other. -/
def Holds (s : Site) (d : Disk) (rel : Location) (r : FileRecord) : Prop :=
  r.path = s.relative.below rel ∧
    (((∃ error, r.outcome = .failed error) ∧ d.get? (s.place ++ rel) = none) ∨
    ∃ bytes m, Became s.rules s.options d (s.input.below rel) (s.output.below rel) r.path r.outcome bytes ∧
      d.get? (s.place ++ rel) = some (.file bytes m))

/-- There is a directory below the directory, and its counterpart is one as well. -/
def Stands (s : Site) (d : Disk) (rel : Location) : Prop :=
  d.isDirectory (s.input.below rel) = true ∧ ∃ m, d.get? (s.place ++ rel) = some (.directory m)

/-- Under some names below the directory, there is exactly what is listed and reported: for each item without a record a
directory that is the counterpart of one, and a file for each record that did not fail. All else is as before. -/
structure Mirrors (s : Site) (within : Name → Prop) (d d' : Disk) (items : List (Location × Option FileRecord))
    (report : Report) : Prop where
  keeps : Extends d d'
  wellFormed : d'.WellFormed
  frame : ∀ k, (∀ n, within n → ¬ s.place ++ [n] <+: k) → d'.get? k = d.get? k
  files : report.files = items.filterMap Prod.snd
  folders : report.folders = items.countP fun x => x.2.isNone
  nodup : (items.map Prod.fst).Nodup
  inside : ∀ rel ∈ items.map Prod.fst, ∃ n rest, rel = n :: rest ∧ within n
  folder : ∀ rel, (rel, none) ∈ items → s.Stands d' rel
  file : ∀ rel r, (rel, some r) ∈ items → s.Holds d' rel r
  nothingElse : ∀ n rest, within n → n :: rest ∉ items.map Prod.fst → d'.get? (s.place ++ n :: rest) = none

variable {s : Site} {d d' d'' : Disk} {P Q : Name → Prop} {items : List (Location × Option FileRecord)}
  {report : Report}

theorem Ready.mono (h : s.Ready d) (hk : Extends d d') (hd' : d'.WellFormed) : s.Ready d' where
  wellFormed := hd'
  leads := h.leads.mono hk
  directory := h.directory.imp fun _ hm => hk.get _ _ hm

theorem not_prefix_of_ne {place rest : Location} {n n' : Name} (h : n' ≠ n) :
    ¬ place ++ [n'] <+: place ++ n :: rest := by
  rw [List.prefix_append_right_inj, List.cons_prefix_cons]
  exact fun hp => h hp.1

namespace Mirrors

/-- Nothing happened. -/
theorem nil (hd : d.WellFormed) (hbare : ∀ n, P n → d.Bare (s.place ++ [n])) (failures : List FolderFailure) :
    s.Mirrors P d d [] { folderFailures := failures } where
  keeps := .refl d
  wellFormed := hd
  frame _ _ := rfl
  files := rfl
  folders := rfl
  nodup := List.nodup_nil
  inside := by simp
  folder := by simp
  file := by simp
  nothingElse n rest hn _ := by
    rw [List.append_cons]
    exact hbare n hn rest

/-- Names under which nothing was and nothing is may be counted in. -/
theorem widen (h : s.Mirrors P d d' items report) (hPQ : ∀ n, P n → Q n)
    (hbare : ∀ n, Q n → ¬ P n → d.Bare (s.place ++ [n])) : s.Mirrors Q d d' items report where
  keeps := h.keeps
  wellFormed := h.wellFormed
  frame k hk := h.frame k fun n hn => hk n (hPQ n hn)
  files := h.files
  folders := h.folders
  nodup := h.nodup
  inside rel hrel := by
    obtain ⟨n, rest, he, hn⟩ := h.inside rel hrel
    exact ⟨n, rest, he, hPQ n hn⟩
  folder := h.folder
  file := h.file
  nothingElse n rest hn hnot := by
    by_cases hp : P n
    · exact h.nothingElse n rest hp hnot
    · rw [h.frame _ fun n' hn' => not_prefix_of_ne (n := n) fun he => hp (he ▸ hn'), List.append_cons]
      exact hbare n hn hp rest

end Mirrors

/-- What a record says stays so when other files and directories are added. -/
theorem Holds.mono {rel : Location} {r : FileRecord} (h : s.Holds d rel r) (hk : Extends d d')
    (hframe : d'.get? (s.place ++ rel) = d.get? (s.place ++ rel)) : s.Holds d' rel r := by
  obtain ⟨hpath, ⟨hfailed, hnone⟩ | ⟨bytes, m, hbecame, hget⟩⟩ := h
  · exact ⟨hpath, .inl ⟨hfailed, hframe.trans hnone⟩⟩
  · exact ⟨hpath, .inr ⟨bytes, m, hbecame.mono hk, hk.get _ _ hget⟩⟩

theorem Stands.mono {rel : Location} (h : s.Stands d rel) (hk : Extends d d') : s.Stands d' rel :=
  ⟨isDirectory_mono hk h.1, h.2.imp fun _ hm => hk.get _ _ hm⟩

/-- One part of a walk after another, under other names. -/
theorem Mirrors.append {new : List (Location × Option FileRecord)} {report' : Report}
    (h : s.Mirrors P d d' items report) (h' : s.Mirrors Q d' d'' new report') (hPQ : ∀ n, P n → ¬ Q n) :
    s.Mirrors (fun n => P n ∨ Q n) d d'' (items ++ new) (report ++ report') := by
  -- The second part does not touch what is under the names of the first.
  have hfirst : ∀ n rest, P n → d''.get? (s.place ++ n :: rest) = d'.get? (s.place ++ n :: rest) := by
    intro n rest hn
    exact h'.frame _ fun n' hn' => not_prefix_of_ne fun he => hPQ n hn (he ▸ hn')
  refine ⟨h.keeps.trans h'.keeps, h'.wellFormed, ?frame, ?files, ?folders, ?nodup, ?inside, ?folder, ?file,
    ?nothingElse⟩
  case frame =>
    intro k hk
    rw [h'.frame k fun n hn => hk n (.inr hn), h.frame k fun n hn => hk n (.inl hn)]
  case files =>
    rw [List.filterMap_append, ← h.files, ← h'.files]
    rfl
  case folders =>
    rw [List.countP_append, ← h.folders, ← h'.folders]
    rfl
  case nodup =>
    rw [List.map_append, List.nodup_append]
    refine ⟨h.nodup, h'.nodup, fun rel hrel rel' hrel' he => ?_⟩
    obtain ⟨n, rest, rfl, hn⟩ := h.inside rel hrel
    obtain ⟨n', rest', rfl, hn'⟩ := h'.inside rel' hrel'
    obtain ⟨rfl, _⟩ := List.cons.inj he
    exact hPQ n hn hn'
  case inside =>
    intro rel hrel
    rw [List.map_append] at hrel
    rcases List.mem_append.1 hrel with hrel | hrel
    · obtain ⟨n, rest, he, hn⟩ := h.inside rel hrel
      exact ⟨n, rest, he, .inl hn⟩
    · obtain ⟨n, rest, he, hn⟩ := h'.inside rel hrel
      exact ⟨n, rest, he, .inr hn⟩
  case folder =>
    intro rel hrel
    rcases List.mem_append.1 hrel with hrel | hrel
    · exact (h.folder rel hrel).mono h'.keeps
    · exact h'.folder rel hrel
  case file =>
    intro rel r hrel
    rcases List.mem_append.1 hrel with hrel | hrel
    · obtain ⟨n, rest, rfl, hn⟩ := h.inside rel (List.mem_map_of_mem hrel)
      exact (h.file _ r hrel).mono h'.keeps (hfirst n rest hn)
    · exact h'.file rel r hrel
  case nothingElse =>
    intro n rest hn hnot
    rw [List.map_append, List.mem_append, not_or] at hnot
    by_cases hp : P n
    · rw [hfirst n rest hp]
      exact h.nothingElse n rest hp hnot.1
    · exact h'.nothingElse n rest (hn.resolve_left hp) hnot.2

/-! ## One name -/

/-- A member that is no directory gets a counterpart, or a record of its failure. -/
theorem processMember_mirrors {m : Member} {record : FileRecord} {w w' : Workbench} (hs : s.Ready w.disk)
    (hn : Path.IsName m.name) (hbare : w.disk.Bare (s.place ++ [m.name]))
    (h : processMember s.rules s.options s.input s.output s.relative m w = (record, w')) :
    s.Mirrors (· = m.name) w.disk w'.disk [([m.name], some record)] { files := [record] } := by
  have hvacant : w.disk.get? (s.place ++ [m.name]) = none := by simpa using hbare []
  have hbelow : ∀ n rest, n = m.name → n :: rest ∉ [[m.name]] → w.disk.get? (s.place ++ n :: rest) = none := by
    rintro n rest rfl _
    rw [List.append_cons]
    exact hbare rest
  have hfailed : ∀ r : FileRecord, r.path = s.relative.join ⟨m.name⟩ → (∃ error, r.outcome = .failed error) →
      s.Mirrors (· = m.name) w.disk w.disk [([m.name], some r)] { files := [r] } := by
    intro r hpath hr
    refine ⟨.refl _, hs.wellFormed, fun _ _ => rfl, rfl, rfl, by simp, by simp, by simp, ?_, by simpa using hbelow⟩
    rintro rel r' hmem
    cases List.mem_singleton.1 hmem
    exact ⟨hpath, .inl ⟨hr, hvacant⟩⟩
  unfold processMember at h
  cases hdir : m.isDirectory with
  | error c =>
    simp only [hdir] at h
    cases h
    exact hfailed _ rfl ⟨_, rfl⟩
  | ok isDirectory =>
    simp only [hdir] at h
    cases hp : processFile s.rules s.options (s.input.join ⟨m.name⟩) (s.output.join ⟨m.name⟩)
      (s.relative.join ⟨m.name⟩) w with
    | mk outcome w₁ =>
      simp only [Job.bind_apply, hp] at h
      cases h
      rcases processFile_spec hs.leads hn hp with ⟨hr, hdisk⟩ | ⟨bytes, hbecame, hput⟩
      · rw [hdisk]
        exact hfailed _ rfl hr
      · have hkeeps := hput.keeps hvacant
        refine ⟨hkeeps, hput.wellFormed hn hs.wellFormed, fun k hk => ?_, rfl, rfl, by simp, by simp, by simp, ?_, ?_⟩
        · exact hput.frame fun he => hk m.name rfl (he ▸ List.prefix_refl _)
        · rintro rel r' hmem
          cases List.mem_singleton.1 hmem
          obtain ⟨mode, hget⟩ := hput.get
          exact ⟨rfl, .inr ⟨bytes, mode, hbecame.mono hkeeps, hget⟩⟩
        · rintro n rest rfl hnot
          rw [hput.frame (by simpa using hnot)]
          exact hbelow _ rest rfl (by simpa using hnot)

/-- A new directory with all that a walk puts into it. -/
theorem Mirrors.lift {n : Name} {mode : Mode} {sub : List (Location × Option FileRecord)}
    (hvacant : d.get? (s.place ++ [n]) = none) (hdir : d.isDirectory (s.input.join ⟨n⟩) = true)
    (h : (s.into n).Mirrors (fun _ => True) (d.put (s.place ++ [n]) (.directory mode)) d' sub report) :
    s.Mirrors (· = n) d d' (([n], none) :: sub.map fun x => (n :: x.1, x.2)) ({ folders := 1 : Report } ++ report) := by
  have hkeys : (([n], none) :: sub.map fun x => (n :: x.1, x.2)).map Prod.fst =
      [n] :: (sub.map Prod.fst).map (n :: ·) := by
    simp
  have hplace : ∀ rel, s.place ++ n :: rel = (s.into n).place ++ rel := fun rel => List.append_cons ..
  have hkeeps : Extends d d' := (extends_put (by simp) hvacant _).trans h.keeps
  refine ⟨hkeeps, h.wellFormed, ?frame, ?files, ?folders, ?nodup, ?inside,
    ?folder, ?file, ?nothingElse⟩
  case frame =>
    intro k hk
    rw [h.frame k fun n' _ hp => hk n rfl ((List.prefix_append _ _).trans hp), get?_put d (by simp), if_neg]
    rintro rfl
    exact hk n rfl (List.prefix_refl _)
  case files =>
    rw [List.filterMap_cons, List.filterMap_map]
    exact h.files
  case folders =>
    rw [List.countP_cons, List.countP_map, Nat.add_comm]
    exact congrArg (1 + ·) h.folders
  case nodup =>
    rw [hkeys, List.nodup_cons]
    refine ⟨fun hmem => ?_, h.nodup.map fun _ _ he => (List.cons.inj he).2⟩
    obtain ⟨rel, hrel, he⟩ := List.mem_map.1 hmem
    obtain ⟨n', rest, rfl, _⟩ := h.inside rel hrel
    simp at he
  case inside =>
    rw [hkeys]
    intro rel hrel
    rcases List.mem_cons.1 hrel with rfl | hrel
    · exact ⟨n, [], rfl, rfl⟩
    · obtain ⟨rest, _, rfl⟩ := List.mem_map.1 hrel
      exact ⟨n, rest, rfl, rfl⟩
  case folder =>
    intro rel hrel
    rcases List.mem_cons.1 hrel with he | hrel
    · cases he
      exact ⟨isDirectory_mono hkeeps hdir, mode, h.keeps.get _ _ (by rw [get?_put d (by simp), if_pos rfl])⟩
    · obtain ⟨x, hx, he⟩ := List.mem_map.1 hrel
      obtain ⟨rest, r⟩ := x
      cases he
      obtain ⟨htree, hcounterpart⟩ := h.folder rest hx
      exact ⟨htree, hplace rest ▸ hcounterpart⟩
  case file =>
    intro rel r hrel
    rcases List.mem_cons.1 hrel with he | hrel
    · cases he
    · obtain ⟨x, hx, he⟩ := List.mem_map.1 hrel
      obtain ⟨rest, r⟩ := x
      cases he
      obtain ⟨hpath, hr⟩ := h.file rest _ hx
      refine ⟨hpath, ?_⟩
      rw [hplace]
      exact hr
  case nothingElse =>
    rintro n' rest rfl hnot
    rw [hkeys, List.mem_cons, not_or] at hnot
    rw [hplace]
    cases rest with
    | nil => exact (hnot.1 rfl).elim
    | cons k rest => exact h.nothingElse k rest trivial fun hmem => hnot.2 (List.mem_map_of_mem hmem)

/-- A new directory is ready to be filled. -/
theorem Ready.into_put {n : Name} {m : Mode} (hs : s.Ready d) (hm : d.enter s.place = .ok m) (hn : Path.IsName n)
    (hlen : n.length ≤ Path.nameLimit) (hvacant : d.get? (s.place ++ [n]) = none) :
    (s.into n).Ready (d.put (s.place ++ [n]) (.directory Mode.newDirectory)) := by
  have hget : (d.put (s.place ++ [n]) (.directory Mode.newDirectory)).get? (s.place ++ [n]) =
      some (.directory Mode.newDirectory) := by rw [get?_put d (by simp), if_pos rfl]
  exact ⟨hs.wellFormed.put (enter_directory hm) hn (by simp [hvacant]), hs.leads.join_put hm hn hlen hvacant _, _, hget⟩

/-- A directory gets a counterpart with all that is in it, or a record of its failure. -/
theorem processFolder_mirrors {descend : Path → Path → Path → List Path → Job Report} {n : Name}
    {ancestors : List Path} {w w' : Workbench}
    (hdescend : ∀ ancestors w report w', (s.into n).Ready w.disk → (∀ k, w.disk.Bare ((s.into n).place ++ [k])) →
      descend (s.into n).input (s.into n).output (s.into n).relative ancestors w = (report, w') →
      ∃ items, (s.into n).Mirrors (fun _ => True) w.disk w'.disk items report)
    (hs : s.Ready w.disk) (hn : Path.IsName n) (hbare : w.disk.Bare (s.place ++ [n]))
    (hdir : w.disk.isDirectory (s.input.join ⟨n⟩) = true)
    (h : processFolder descend (s.input.join ⟨n⟩) (s.output.join ⟨n⟩) (s.relative.join ⟨n⟩) ancestors w =
      (report, w')) :
    ∃ items, s.Mirrors (· = n) w.disk w'.disk items report := by
  have hvacant : w.disk.get? (s.place ++ [n]) = none := by simpa using hbare []
  have hfailed := fun error => Mirrors.nil (s := s) (P := (· = n)) hs.wellFormed (by rintro _ rfl; exact hbare)
    [⟨s.relative.join ⟨n⟩, error⟩]
  obtain ⟨m, hm⟩ := hs.directory
  unfold processFolder at h
  simp only [Job.bind_apply, Job.ask_apply] at h
  cases hcanonical : w.disk.canonicalize (s.input.join ⟨n⟩) with
  | error c =>
    simp only [hcanonical] at h
    cases h
    exact ⟨_, hfailed _⟩
  | ok canonical =>
    simp only [hcanonical] at h
    split at h
    · cases h
      exact ⟨_, hfailed _⟩
    · simp only [Job.bind_apply, Job.act_apply] at h
      rcases makeDirectories_join hn (approach_join_ne_notFound hs.leads hm hn) with
        ⟨l, m', ha, _, hmake⟩ | ⟨hthere, _⟩ | ⟨c, hmake⟩
      · obtain ⟨_, hl, hm', hlen⟩ := approach_join_spec hn ha
        obtain rfl := hl.unique hs.leads
        simp only [hmake] at h
        have hready := hs.into_put hm' hn hlen hvacant
        cases hdown : descend (s.input.join ⟨n⟩) (s.output.join ⟨n⟩) (s.relative.join ⟨n⟩) (ancestors ++ [canonical])
          { w with disk := w.disk.put (s.place ++ [n]) (.directory Mode.newDirectory) } with
        | mk below w₁ =>
          simp only [Job.bind_apply, hdown] at h
          cases h
          have hempty : ∀ k,
              (w.disk.put (s.place ++ [n]) (.directory Mode.newDirectory)).Bare ((s.into n).place ++ [k]) := by
            intro k rest
            rw [get?_put w.disk (by simp), if_neg (by simp [into]), List.append_assoc]
            exact hbare ([k] ++ rest)
          obtain ⟨items, hitems⟩ := hdescend _ _ _ _ hready hempty hdown
          exact ⟨_, hitems.lift hvacant hdir⟩
      · exact (hs.leads.isDirectory_vacant hn hvacant hthere).elim
      · simp only [hmake] at h
        cases h
        exact ⟨_, hfailed _⟩

/-! ## Many names -/

theorem Mirrors.bare {n : Name} (h : s.Mirrors P d d' items report) (hn : ¬ P n) (hbare : d.Bare (s.place ++ [n])) :
    d'.Bare (s.place ++ [n]) := by
  intro rest
  have hframe := h.frame (s.place ++ n :: rest) fun n' hn' => not_prefix_of_ne fun he => hn (he ▸ hn')
  rw [List.append_cons] at hframe
  exact hframe.trans (hbare rest)

/-- A name and then others. -/
theorem Mirrors.cons {n : Name} {ns : List Name} {new : List (Location × Option FileRecord)} {report' : Report}
    (h : s.Mirrors (· = n) d d' items report) (h' : s.Mirrors (· ∈ ns) d' d'' new report') (hn : n ∉ ns) :
    s.Mirrors (· ∈ n :: ns) d d'' (items ++ new) (report ++ report') := by
  refine (h.append h' fun k hk hmem => hn (hk ▸ hmem)).widen (fun k hk => List.mem_cons.2 hk) fun k hk hnot => ?_
  exact (hnot (List.mem_cons.1 hk)).elim

/-- The members that are no directories. -/
theorem mapM_processMember_mirrors {ms : List Member} {records : List FileRecord} {w w' : Workbench}
    (hs : s.Ready w.disk) (hnodup : (ms.map Member.name).Nodup) (hname : ∀ n ∈ ms.map Member.name, Path.IsName n)
    (hbare : ∀ n ∈ ms.map Member.name, w.disk.Bare (s.place ++ [n]))
    (h : ms.mapM (processMember s.rules s.options s.input s.output s.relative) w = (records, w')) :
    ∃ items, s.Mirrors (· ∈ ms.map Member.name) w.disk w'.disk items { files := records } := by
  induction ms generalizing records w with
  | nil =>
    cases h
    exact ⟨[], .nil hs.wellFormed (by simp) []⟩
  | cons m ms ih =>
    rw [List.map_cons] at hnodup hname hbare
    obtain ⟨hm, hnodup⟩ := List.nodup_cons.1 hnodup
    cases hfirst : processMember s.rules s.options s.input s.output s.relative m w with
    | mk record w₁ =>
      cases hrest : ms.mapM (processMember s.rules s.options s.input s.output s.relative) w₁ with
      | mk rest w₂ =>
        simp only [List.mapM_cons, Job.bind_apply, hfirst, hrest] at h
        cases h
        have hone := processMember_mirrors hs (hname _ List.mem_cons_self) (hbare _ List.mem_cons_self) hfirst
        obtain ⟨items, hitems⟩ := ih (hs.mono hone.keeps hone.wellFormed) hnodup
          (fun n hn => hname n (List.mem_cons_of_mem _ hn))
          (fun n hn => hone.bare (fun he => hm (he ▸ hn)) (hbare n (List.mem_cons_of_mem _ hn))) hrest
        exact ⟨_, hone.cons hitems hm⟩

/-- The members that are directories. -/
theorem processFolders_mirrors {processOne : Name → Job Report} {ns : List Name} {w w' : Workbench}
    (hone : ∀ n ∈ ns, ∀ w report w', s.Ready w.disk → w.disk.Bare (s.place ++ [n]) →
      w.disk.isDirectory (s.input.join ⟨n⟩) = true → processOne n w = (report, w') →
      ∃ items, s.Mirrors (· = n) w.disk w'.disk items report)
    (hs : s.Ready w.disk) (hnodup : ns.Nodup) (hbare : ∀ n ∈ ns, w.disk.Bare (s.place ++ [n]))
    (hdir : ∀ n ∈ ns, w.disk.isDirectory (s.input.join ⟨n⟩) = true)
    (h : processFolders processOne ns w = (report, w')) :
    ∃ items, s.Mirrors (· ∈ ns) w.disk w'.disk items report := by
  induction ns generalizing report w with
  | nil =>
    cases h
    exact ⟨[], .nil hs.wellFormed (by simp) []⟩
  | cons n ns ih =>
    obtain ⟨hn, hnodup⟩ := List.nodup_cons.1 hnodup
    cases hfirst : processOne n w with
    | mk first w₁ =>
      cases hrest : processFolders processOne ns w₁ with
      | mk rest w₂ =>
        simp only [processFolders, Job.bind_apply, hfirst, hrest] at h
        cases h
        obtain ⟨items, hitems⟩ := hone n List.mem_cons_self _ _ _ hs (hbare n List.mem_cons_self)
          (hdir n List.mem_cons_self) hfirst
        obtain ⟨new, hnew⟩ := ih (fun k hk => hone k (List.mem_cons_of_mem _ hk))
          (hs.mono hitems.keeps hitems.wellFormed) hnodup
          (fun k hk => hitems.bare (fun he => hn (he ▸ hk)) (hbare k (List.mem_cons_of_mem _ hk)))
          (fun k hk => isDirectory_mono hitems.keeps (hdir k (List.mem_cons_of_mem _ hk))) hrest
        exact ⟨_, hitems.cons hnew hn⟩

end Site

/-! ## The whole walk -/

theorem nodup_insertName {n : Name} {ns : List Name} (hn : n ∉ ns) (h : ns.Nodup) : (insertName n ns).Nodup := by
  induction ns with
  | nil => simp [insertName]
  | cons m ns ih =>
    obtain ⟨hm, hns⟩ := List.nodup_cons.1 h
    unfold insertName
    split
    · exact List.nodup_cons.2 ⟨hn, h⟩
    · refine List.nodup_cons.2 ⟨?_, ih (fun hmem => hn (List.mem_cons_of_mem _ hmem)) hns⟩
      rw [mem_insertName, not_or]
      exact ⟨fun he => hn (he ▸ List.mem_cons_self), hm⟩

theorem nodup_sortNames {ns : List Name} (h : ns.Nodup) : (sortNames ns).Nodup := by
  induction ns with
  | nil => exact List.nodup_nil
  | cons n ns ih =>
    obtain ⟨hn, hns⟩ := List.nodup_cons.1 h
    exact nodup_insertName (fun hmem => hn (mem_sortNames.1 hmem)) (ih hns)

/-- The members of a directory are its names, sorted, and what each of them leads to. -/
theorem members_eq_ok {d : Disk} {p : Path} {ms : List Member} (h : d.members p = .ok ms) :
    ∃ l mode, d.locate p = .ok l ∧ d.get? l = some (.directory mode) ∧
      ms.map Member.name = sortNames (d.names l) ∧
      ∀ m ∈ ms, m.isDirectory = (d.metadata (p.join ⟨m.name⟩)).map Metadata.isDirectory := by
  obtain ⟨_, hsorted, h⟩ := bind_eq_ok.1 h
  obtain ⟨_, hlist, he⟩ := bind_eq_ok.1 hsorted
  obtain ⟨l, mode, hl, hmode, _, rfl⟩ := list_eq_ok.1 hlist
  cases he
  cases h
  refine ⟨l, mode, hl, hmode, ?_, fun m hm => ?_⟩
  · have hnames : (Member.name ∘ fun n => ⟨n, (d.metadata (p.join ⟨n⟩)).map Metadata.isDirectory⟩) = id := rfl
    rw [List.map_map, hnames, List.map_id]
  · obtain ⟨n, _, rfl⟩ := List.mem_map.1 hm
    rfl

/-- The members of a directory have proper names, each one its own. -/
theorem members_spec {d : Disk} {p : Path} {ms : List Member} (hd : d.WellFormed) (h : d.members p = .ok ms) :
    (ms.map Member.name).Nodup ∧ ∀ n ∈ ms.map Member.name, Path.IsName n := by
  obtain ⟨l, _, _, _, hnames, _⟩ := members_eq_ok h
  rw [hnames]
  exact ⟨nodup_sortNames (hd.names_nodup l), fun n hn => hd.isName_of_mem_names (mem_sortNames.1 hn)⟩

/-- What is listed as a directory is one. -/
theorem members_isFolder {d : Disk} {p : Path} {ms : List Member} {m : Member} (h : d.members p = .ok ms) (hm : m ∈ ms)
    (hfolder : m.isFolder = true) : d.isDirectory (p.join ⟨m.name⟩) = true := by
  obtain ⟨_, _, _, _, _, hkind⟩ := members_eq_ok h
  rw [Member.isFolder, hkind m hm] at hfolder
  unfold isDirectory
  cases hmeta : d.metadata (p.join ⟨m.name⟩) with
  | error c => simp [hmeta, Except.map] at hfolder
  | ok found => simpa [hmeta, Except.map] using hfolder

/-- No name is that of a file and of a directory. -/
theorem folder_not_file {ms : List Member} (h : (ms.map Member.name).Nodup) {n : Name}
    (hn : n ∈ (ms.filter Member.isFolder).map Member.name) :
    n ∉ (ms.filter fun m => !m.isFolder).map Member.name := by
  intro hn'
  obtain ⟨m, hm, rfl⟩ := List.mem_map.1 hn
  obtain ⟨m', hm', he⟩ := List.mem_map.1 hn'
  obtain ⟨hm, hfolder⟩ := List.mem_filter.1 hm
  obtain ⟨hm', hfile⟩ := List.mem_filter.1 hm'
  cases List.inj_on_of_nodup_map h hm' hm he
  rw [hfolder] at hfile
  cases hfile

/-- A walk through a tree puts into an empty directory exactly what its report says. -/
theorem walkTree_mirrors (depth : Nat) {s : Site} {ancestors : List Path} {report : Report} {w w' : Workbench}
    (hs : s.Ready w.disk) (hbare : ∀ n, w.disk.Bare (s.place ++ [n]))
    (h : walkTree s.rules s.options depth s.input s.output s.relative ancestors w = (report, w')) :
    ∃ items, s.Mirrors (fun _ => True) w.disk w'.disk items report := by
  induction depth generalizing s ancestors report w w' with
  | zero =>
    cases h
    exact ⟨[], .nil hs.wellFormed (fun n _ => hbare n) []⟩
  | succ depth ih =>
    unfold walkTree at h
    simp only [Job.bind_apply, Job.ask_apply] at h
    cases hmembers : w.disk.members s.input with
    | error c =>
      simp only [hmembers] at h
      cases h
      exact ⟨[], .nil hs.wellFormed (fun n _ => hbare n) _⟩
    | ok ms =>
      simp only [hmembers] at h
      obtain ⟨hnodup, hname⟩ := members_spec hs.wellFormed hmembers
      have hfileNames := hnodup.sublist ((List.filter_sublist (p := fun m => !m.isFolder)).map Member.name)
      have hfolderNames := hnodup.sublist ((List.filter_sublist (p := Member.isFolder)).map Member.name)
      have hmem : ∀ p : Member → Bool, ∀ n ∈ (ms.filter p).map Member.name, n ∈ ms.map Member.name :=
        fun p n hn => ((List.filter_sublist (p := p)).map Member.name).subset hn
      have hfolder : ∀ n ∈ (ms.filter Member.isFolder).map Member.name,
          w.disk.isDirectory (s.input.join ⟨n⟩) = true := by
        intro n hn
        obtain ⟨m, hm, rfl⟩ := List.mem_map.1 hn
        obtain ⟨hm, hisFolder⟩ := List.mem_filter.1 hm
        exact members_isFolder hmembers hm hisFolder
      cases hfiles : (ms.filter fun m => !m.isFolder).mapM
        (processMember s.rules s.options s.input s.output s.relative) w with
      | mk records w₁ =>
        cases hfolders : processFolders (fun n => processFolder (walkTree s.rules s.options depth)
          (s.input.join ⟨n⟩) (s.output.join ⟨n⟩) (s.relative.join ⟨n⟩) ancestors)
          ((ms.filter Member.isFolder).map Member.name) w₁ with
        | mk below w₂ =>
          simp only [Job.bind_apply, hfiles, hfolders] at h
          cases h
          obtain ⟨items, hitems⟩ := Site.mapM_processMember_mirrors hs hfileNames
            (fun n hn => hname n (hmem _ n hn)) (fun n _ => hbare n) hfiles
          -- The names of the files are others, so the directories find their places vacant.
          obtain ⟨new, hnew⟩ := Site.processFolders_mirrors
            (fun n hn w report w' hs hbare hdir h => Site.processFolder_mirrors
              (fun ancestors w report w' hs hbare h => ih hs hbare h) hs (hname n (hmem _ n hn)) hbare hdir h)
            (hs.mono hitems.keeps hitems.wellFormed) hfolderNames
            (fun n hn => hitems.bare (folder_not_file hnodup hn) (hbare n))
            (fun n hn => isDirectory_mono hitems.keeps (hfolder n hn)) hfolders
          have hboth := hitems.append hnew fun n hn hn' => folder_not_file hnodup hn' hn
          exact ⟨items ++ new, hboth.widen (fun _ _ => trivial) fun n _ _ => hbare n⟩

end Retarget
