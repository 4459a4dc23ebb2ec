import Retarget.Proofs.Sessions

/-!
# Copies of directories

A directory is copied entry by entry: directories are made, and files and links become files with the bytes that are
read there. A copy that is reported as done is complete; one that fails has changed nothing but the place of the copy.

* `CopySite.Copied`: what there is of a copy,
* `CopySite.Effect`: what copying changes, and what it leaves,
* `Backup.copyOne_effect`, `Backup.copyMembers_effect`: one entry, and one after another,
* `Backup.copyFrom_effect`: a directory with all that is below it,
* `Backup.copyTree_effect`: the copy of a directory in a backup.
-/

namespace Retarget

open Disk

/-! ## Files -/

namespace Disk

variable {d d' : Disk}

/-- A file is opened where a path ends, or the path ends in a link. -/
theorem openEnd_cases {links : Nat} {start l : Location} {p : Path} {m : Mode}
    (h : d.openEnd links start p = .ok (l, m)) :
    ∃ a n, { d with current := start }.approach p = .ok a ∧ a.name = some n ∧ a.slash = false ∧
      ((l = a.directory ++ [n] ∧ m = a.mode ∧ ∀ target, d.get? l ≠ some (.link target)) ∨
        ∃ target fewer, links = fewer + 1 ∧ d.get? (a.directory ++ [n]) = some (.link target) ∧
          d.openEnd fewer a.directory target = .ok (l, m)) := by
  unfold openEnd at h
  obtain ⟨a, ha, h⟩ := bind_eq_ok.1 h
  split at h
  · cases h
  · next n hn =>
    split at h
    · cases h
    · next hslash =>
      refine ⟨a, n, ha, hn, by simpa using hslash, ?_⟩
      split at h
      · next target hlink =>
        cases links with
        | zero => cases h
        | succ fewer => exact .inr ⟨target, fewer, rfl, hlink, h⟩
      · next hother =>
        cases h
        exact .inl ⟨rfl, rfl, hother⟩

/-- A file is opened under a name in a directory, and not at a link. -/
theorem openEnd_spec {links : Nat} {start l : Location} {p : Path} {m : Mode}
    (h : d.openEnd links start p = .ok (l, m)) :
    (∃ k n, l = k ++ [n] ∧ Path.IsName n ∧ d.get? k = some (.directory m)) ∧
      ∀ target, d.get? l ≠ some (.link target) := by
  induction links generalizing start p with
  | zero =>
    obtain ⟨a, n, ha, hn, _, ⟨rfl, rfl, hother⟩ | ⟨_, _, hfewer, _⟩⟩ := openEnd_cases h
    · exact ⟨⟨a.directory, n, rfl, (approach_spec ha).2 n hn, (approach_spec ha).1⟩, hother⟩
    · cases hfewer
  | succ links ih =>
    obtain ⟨a, n, ha, hn, _, ⟨rfl, rfl, hother⟩ | ⟨target, fewer, hfewer, _, hnext⟩⟩ := openEnd_cases h
    · exact ⟨⟨a.directory, n, rfl, (approach_spec ha).2 n hn, (approach_spec ha).1⟩, hother⟩
    · cases hfewer
      exact ih hnext

/-- What is copied can be read, and the copy is a file where its path is opened. -/
theorem copyFile_eq_ok {source dest : Path} (h : d.copyFile source dest = .ok d') :
    ∃ bytes l m mode, d.read source = .ok bytes ∧ d.openEnd linkLimit d.current dest = .ok (l, m) ∧
      (∀ m', d.get? l ≠ some (.directory m')) ∧ d' = d.put l (.file bytes mode) := by
  unfold copyFile at h
  obtain ⟨l₀, hl₀, h⟩ := bind_eq_ok.1 h
  obtain ⟨e, he, h⟩ := bind_eq_ok.1 h
  cases e with
  | file bytes m =>
    simp only at h
    split at h
    · next hmay =>
      obtain ⟨_, hpair, h⟩ := bind_eq_ok.1 h
      obtain ⟨⟨l, inDirectory⟩, hopen, h⟩ := bind_eq_ok.1 h
      cases hpair
      have hread := read_eq_ok.2 ⟨l₀, m, hl₀, entryAt_eq_ok.1 he, hmay⟩
      simp only at h
      split at h
      · next hvacant =>
        split at h
        · exact ⟨bytes, l, inDirectory, m, hread, hopen, by simp [hvacant], (Except.ok.inj h).symm⟩
        · cases h
      · next hfile =>
        split at h
        · exact ⟨bytes, l, inDirectory, m, hread, hopen, by simp [hfile], (Except.ok.inj h).symm⟩
        · cases h
      · cases h
    · cases h
  | directory m =>
    simp only at h
    split at h <;> cases h
  | link target => cases h

/-- Nothing is copied to a path that ends in a slash. -/
theorem copyFile_slash {source dest : Path} (hslash : dest.names.getLast? = some []) :
    d.copyFile source dest ≠ .ok d' := by
  intro h
  obtain ⟨_, _, _, _, _, hopen, _⟩ := copyFile_eq_ok h
  obtain ⟨a, n, ha, hn, hno, _⟩ := openEnd_cases hopen
  obtain ⟨before, hsteps, _, _, _, _, hnames⟩ := approach_name ha hn
  have hname := (approach_spec ha).2 n hn
  rw [hnames hno, hsteps, List.getLast?_concat, Option.some.injEq] at hslash
  exact hname.ne_nil hslash

end Disk

/-! ## Parts of a copy -/

/-- Directories that correspond: one with entries, by its path and its place, and one where their copies go. -/
structure CopySite where
  source : Path
  dest : Path
  place : Location
  copy : Location

namespace CopySite

/-- One directory further down. -/
def into (s : CopySite) (n : Name) : CopySite where
  source := s.source.join ⟨n⟩
  dest := s.dest.join ⟨n⟩
  place := s.place ++ [n]
  copy := s.copy ++ [n]

/-- Both directories are there. -/
structure Ready (s : CopySite) (d : Disk) : Prop where
  wellFormed : d.WellFormed
  leads : d.Leads s.source s.place
  directory : ∃ m, d.get? s.place = some (.directory m)
  destLeads : d.Leads s.dest s.copy
  destDirectory : ∃ m, d.get? s.copy = some (.directory m)

/-- Neither directory is in the other. -/
def Apart (s : CopySite) : Prop := ∀ rel rel', s.place ++ rel ≠ s.copy ++ rel'

/-- The entries of `tree` below a directory, or some of them, have copies on a disk. The `files` are those that are
counted: all that are no directories. -/
structure Copied (s : CopySite) (within : Location → Prop) (tree d : Disk) (files : List Location) : Prop where
  nodup : files.Nodup
  mem_files : ∀ rel, rel ∈ files ↔ within rel ∧ ∃ e, tree.get? (s.place ++ rel) = some e ∧ ∀ m, e ≠ .directory m
  folder : ∀ rel m, within rel → tree.get? (s.place ++ rel) = some (.directory m) →
    ∃ m' names, d.get? (s.copy ++ rel) = some (.directory m') ∧ d.list (s.source.below rel) = .ok names
  /-- A file has the same bytes, and a link the bytes that are read there. -/
  file : ∀ rel e, within rel → tree.get? (s.place ++ rel) = some e → (∀ m, e ≠ .directory m) →
    ∃ bytes m, d.get? (s.copy ++ rel) = some (.file bytes m) ∧ d.read (s.source.below rel) = .ok bytes ∧
      ∀ old m', e = .file old m' → old = bytes

/-- Entries have been copied, if all went well, and nothing else has happened. -/
structure Effect (s : CopySite) (within : Location → Prop) (d d' : Disk) (r : Except BackupError Nat) : Prop where
  grows : Grows d d'
  frame : ∀ k, (∀ rel, within rel → k ≠ s.copy ++ rel) → d'.get? k = d.get? k
  copied : ∀ count, r = .ok count → ∃ files, files.length = count ∧ s.Copied within d' d' files

variable {s : CopySite} {d d' d'' tree tree' : Disk} {P Q : Location → Prop} {files files' : List Location}
  {r : Except BackupError Nat}

theorem Ready.mono (hs : s.Ready d) (h : Grows d d') : s.Ready d' where
  wellFormed := h.wellFormed hs.wellFormed
  leads := hs.leads.mono h.keeps
  directory := hs.directory.imp fun _ hm => h.keeps.get _ _ hm
  destLeads := hs.destLeads.mono h.keeps
  destDirectory := hs.destDirectory.imp fun _ hm => h.keeps.get _ _ hm

theorem Apart.into (h : s.Apart) (n : Name) : (s.into n).Apart := by
  intro rel rel'
  rw [CopySite.into, List.append_assoc, List.append_assoc]
  exact h _ _

/-- What is copied stays as it is. -/
theorem Effect.same (h : s.Effect P d d' r) (hapart : s.Apart) (rel : Location) :
    d'.get? (s.place ++ rel) = d.get? (s.place ++ rel) := h.frame _ fun rel' _ => hapart rel rel'

/-- Copies are kept, on a disk with more on it. -/
theorem Copied.mono (h : s.Copied P tree d files) (hd : Extends d d')
    (htree : ∀ rel, tree'.get? (s.place ++ rel) = tree.get? (s.place ++ rel)) : s.Copied P tree' d' files where
  nodup := h.nodup
  mem_files rel := by rw [htree, h.mem_files]
  folder rel m hrel hm := by
    obtain ⟨m', names, hm', hlist⟩ := h.folder rel m hrel (htree rel ▸ hm)
    obtain ⟨names', hlist'⟩ := list_mono hd hlist
    exact ⟨m', names', hd.get _ _ hm', hlist'⟩
  file rel e hrel he hother := by
    obtain ⟨bytes, m, hm, hread, hsame⟩ := h.file rel e hrel (htree rel ▸ he) hother
    exact ⟨bytes, m, hd.get _ _ hm, read_mono hd hread, hsame⟩

theorem Copied.append (h : s.Copied P tree d files) (h' : s.Copied Q tree d files') (hPQ : ∀ rel, P rel → ¬ Q rel) :
    s.Copied (fun rel => P rel ∨ Q rel) tree d (files ++ files') where
  nodup := by
    refine List.nodup_append.2 ⟨h.nodup, h'.nodup, fun rel hrel rel' hrel' he => ?_⟩
    exact hPQ rel ((h.mem_files rel).1 hrel).1 (he ▸ ((h'.mem_files rel').1 hrel').1)
  mem_files rel := by rw [List.mem_append, h.mem_files, h'.mem_files, or_and_right]
  folder rel m hrel hm := hrel.elim (fun hrel => h.folder rel m hrel hm) (fun hrel => h'.folder rel m hrel hm)
  file rel e hrel he hother :=
    hrel.elim (fun hrel => h.file rel e hrel he hother) (fun hrel => h'.file rel e hrel he hother)

/-- A copy of a directory is part of a copy of the one above. -/
theorem Copied.lift {n : Name} (h : (s.into n).Copied (fun _ => True) tree d files) :
    s.Copied (fun rel => rel.head? = some n) tree d (files.map (n :: ·)) := by
  have hcons : ∀ {l rel : Location}, rel.head? = some n → ∃ rest, rel = n :: rest ∧ l ++ rel = l ++ [n] ++ rest := by
    intro l rel hrel
    cases rel with
    | nil => cases hrel
    | cons k rest =>
      obtain rfl : k = n := by simpa using hrel
      exact ⟨rest, rfl, by simp⟩
  refine ⟨h.nodup.map fun _ _ he => (List.cons.inj he).2, fun rel => ?_, fun rel m hrel hm => ?_,
    fun rel e hrel he hother => ?_⟩
  · rw [List.mem_map]
    constructor
    · rintro ⟨rest, hrest, rfl⟩
      obtain ⟨_, e, he, hother⟩ := (h.mem_files rest).1 hrest
      exact ⟨rfl, e, by rwa [into, List.append_assoc] at he, hother⟩
    · rintro ⟨hrel, e, he, hother⟩
      obtain ⟨rest, rfl, hplace⟩ := hcons hrel
      exact ⟨rest, (h.mem_files rest).2 ⟨trivial, e, hplace ▸ he, hother⟩, rfl⟩
  · obtain ⟨rest, rfl, hplace⟩ := hcons hrel
    obtain ⟨m', names, hm', hlist⟩ := h.folder rest m trivial (hplace ▸ hm)
    exact ⟨m', names, by rwa [into, List.append_assoc] at hm', hlist⟩
  · obtain ⟨rest, rfl, hplace⟩ := hcons hrel
    obtain ⟨bytes, m, hm, hread, hsame⟩ := h.file rest e trivial (hplace ▸ he) hother
    exact ⟨bytes, m, by rwa [into, List.append_assoc] at hm, hread, hsame⟩

/-- An entry that is no directory has its copy, and nothing is below it. -/
theorem Copied.leaf {n : Name} {e : Entry} {bytes : Bytes} {m : Mode} (hd : d.WellFormed)
    (he : d.get? (s.place ++ [n]) = some e) (hother : ∀ m, e ≠ .directory m)
    (hcopy : d.get? (s.copy ++ [n]) = some (.file bytes m)) (hread : d.read (s.source.join ⟨n⟩) = .ok bytes)
    (hsame : ∀ old m', e = .file old m' → old = bytes) :
    s.Copied (fun rel => rel.head? = some n) d d [[n]] := by
  have honly : ∀ {rel : Location} {f : Entry}, rel.head? = some n → d.get? (s.place ++ rel) = some f →
      rel = [n] ∧ f = e := by
    intro rel f hrel hf
    cases rel with
    | nil => cases hrel
    | cons k rest =>
      obtain rfl : k = n := by simpa using hrel
      cases rest with
      | nil => exact ⟨rfl, Option.some.inj (hf.symm.trans he)⟩
      | cons k' rest =>
        rw [show s.place ++ k :: k' :: rest = s.place ++ [k] ++ k' :: rest by simp,
          hd.vacant_below (fun m hm => hother m (Option.some.inj (he.symm.trans hm))) (by simp)] at hf
        cases hf
  refine ⟨List.nodup_singleton _, fun rel => ?_, fun rel m' hrel hm' => ?_, fun rel f hrel hf _ => ?_⟩
  · rw [List.mem_singleton]
    constructor
    · rintro rfl
      exact ⟨rfl, e, he, hother⟩
    · rintro ⟨hrel, f, hf, _⟩
      exact (honly hrel hf).1
  · exact (hother m' (honly hrel hm').2.symm).elim
  · obtain ⟨rfl, rfl⟩ := honly hrel hf
    exact ⟨bytes, m, hcopy, hread, hsame⟩

/-- A copy of all that a directory has in it is a copy of the directory. -/
theorem Copied.whole {ns : List Name} {m m' : Mode} (h : s.Copied (fun rel => ∃ n ∈ ns, rel.head? = some n) d d files)
    (hd : d.WellFormed) (hplace : d.get? s.place = some (.directory m)) (hcopy : d.get? s.copy = some (.directory m'))
    (hlist : ∃ names, d.list s.source = .ok names) (hns : ∀ n, (d.get? (s.place ++ [n])).isSome → n ∈ ns) :
    s.Copied (fun _ => True) d d files := by
  have hwithin : ∀ {rel : Location} {e : Entry}, d.get? (s.place ++ rel) = some e →
      (rel = [] ∧ e = .directory m) ∨ ∃ n ∈ ns, rel.head? = some n := by
    intro rel e he
    cases rel with
    | nil =>
      rw [List.append_nil] at he
      exact .inl ⟨rfl, Option.some.inj (he.symm.trans hplace)⟩
    | cons n rest =>
      refine .inr ⟨n, hns n ?_, rfl⟩
      by_cases hrest : rest = []
      · rw [hrest] at he
        simp [he]
      · rw [← List.singleton_append, ← List.append_assoc] at he
        obtain ⟨m, hm⟩ := hd.above he hrest
        simp [hm]
  refine ⟨h.nodup, fun rel => ?_, fun rel m₁ _ hm₁ => ?_, fun rel e _ he hother => ?_⟩
  · rw [h.mem_files]
    refine ⟨fun ⟨_, he⟩ => ⟨trivial, he⟩, fun ⟨_, e, he, hother⟩ => ⟨?_, e, he, hother⟩⟩
    rcases hwithin he with ⟨_, rfl⟩ | hrel
    · exact (hother m rfl).elim
    · exact hrel
  · rcases hwithin hm₁ with ⟨rfl, _⟩ | hrel
    · obtain ⟨names, hlist⟩ := hlist
      exact ⟨m', names, by rwa [List.append_nil], hlist⟩
    · exact h.folder rel m₁ hrel hm₁
  · rcases hwithin he with ⟨_, rfl⟩ | hrel
    · exact (hother m rfl).elim
    · exact h.file rel e hrel he hother

/-! ## Steps of copying -/

theorem Effect.refused (s : CopySite) (P : Location → Prop) (d : Disk) (e : BackupError) :
    s.Effect P d d (.error e) := ⟨.refl d, fun _ _ => rfl, by simp⟩

/-- What fails in a part fails in the whole. -/
theorem Effect.fail {e : BackupError} (h : s.Effect P d d' (.error e)) (hPQ : ∀ rel, P rel → Q rel) :
    s.Effect Q d d' (.error e) := ⟨h.grows, fun k hk => h.frame k fun rel hrel => hk rel (hPQ rel hrel), by simp⟩

/-- Some entries after others. -/
theorem Effect.append {count : Nat} (hapart : s.Apart) (h : s.Effect P d d' (.ok count)) (h' : s.Effect Q d' d'' r)
    (hPQ : ∀ rel, P rel → ¬ Q rel) : s.Effect (fun rel => P rel ∨ Q rel) d d'' (r.map (count + ·)) where
  grows := h.grows.trans h'.grows
  frame k hk := (h'.frame k fun rel hrel => hk rel (.inr hrel)).trans (h.frame k fun rel hrel => hk rel (.inl hrel))
  copied total htotal := by
    cases r with
    | error e => cases htotal
    | ok count' =>
      obtain ⟨files, rfl, hfiles⟩ := h.copied count rfl
      obtain ⟨files', rfl, hfiles'⟩ := h'.copied count' rfl
      refine ⟨files ++ files', by rw [List.length_append]; exact Except.ok.inj htotal, ?_⟩
      exact (hfiles.mono h'.grows.keeps (h'.same hapart)).append hfiles' hPQ

theorem Effect.lift {n : Name} (h : (s.into n).Effect (fun _ => True) d d' r) :
    s.Effect (fun rel => rel.head? = some n) d d' r where
  grows := h.grows
  frame k hk := h.frame k fun rel _ => by
    rw [into, List.append_assoc]
    exact hk (n :: rel) rfl
  copied count hcount := by
    obtain ⟨files, hlen, hfiles⟩ := h.copied count hcount
    exact ⟨files.map (n :: ·), by rw [List.length_map, hlen], hfiles.lift⟩

/-- A directory is copied when it has been made and all that is in it has been copied. -/
theorem Effect.whole {ns : List Name} (hs : s.Ready d') (hapart : s.Apart) (hgrows : Grows d d')
    (hmade : ∀ k, k ≠ s.copy → d'.get? k = d.get? k) {names : List Name} (hlist : d'.list s.source = .ok names)
    (hns : ∀ n, (d'.get? (s.place ++ [n])).isSome → n ∈ ns)
    (h : s.Effect (fun rel => ∃ n ∈ ns, rel.head? = some n) d' d'' r) : s.Effect (fun _ => True) d d'' r where
  grows := hgrows.trans h.grows
  frame k hk := by
    rw [h.frame k fun rel _ => hk rel trivial]
    exact hmade k (by simpa using hk [] trivial)
  copied count hcount := by
    obtain ⟨files, hlen, hfiles⟩ := h.copied count hcount
    have hs'' := hs.mono h.grows
    obtain ⟨m, hm⟩ := hs''.directory
    obtain ⟨m', hm'⟩ := hs''.destDirectory
    refine ⟨files, hlen, hfiles.whole hs''.wellFormed hm hm' (list_mono h.grows.keeps hlist) fun n hn => hns n ?_⟩
    rwa [← h.same hapart]

end CopySite

theorem Job.change_cases (f : Disk → Except Cause Disk) (w : Workbench) :
    (∃ c, Job.change f w = (.error c, w)) ∨
    ∃ d, f w.disk = .ok d ∧ Job.change f w = (.ok (), { w with disk := d }) := by
  rw [Job.change, Job.act_apply]
  cases f w.disk with
  | error c => exact .inl ⟨c, rfl⟩
  | ok d => exact .inr ⟨d, rfl, rfl⟩

namespace Backup

open CopySite

variable {s : CopySite} {r : Except BackupError Nat} {w w' : Workbench}

/-- One file or link. -/
theorem copyOne_effect {n : Name} {e : Entry} (hs : s.Ready w.disk) (hn : Path.IsName n)
    (he : w.disk.get? (s.place ++ [n]) = some e) (hother : ∀ m, e ≠ .directory m)
    (hvacant : w.disk.get? (s.copy ++ [n]) = none)
    (h : (copyOne (s.source.join ⟨n⟩) (s.dest.join ⟨n⟩)).run w = (r, w')) :
    s.Effect (fun rel => rel.head? = some n) w.disk w'.disk r := by
  rcases Job.change_cases (fun d => d.copyFile (s.source.join ⟨n⟩) (s.dest.join ⟨n⟩)) w with
    ⟨c, hjob⟩ | ⟨d, hcopy, hjob⟩
  · rw [copyOne, Job.run_orFail_error hjob] at h
    cases h
    exact .refused s _ w.disk _
  rw [copyOne, Job.run_orFail_ok hjob] at h
  cases h
  obtain ⟨bytes, place, _, mode, hread, hopen, _, rfl⟩ := copyFile_eq_ok hcopy
  obtain ⟨a, n', ha, hn', _, hend⟩ := openEnd_cases hopen
  obtain ⟨l, m, _, hl, hm, _, rfl⟩ := (approach_join_eq_ok hn).1 ha
  cases hn'
  obtain rfl := hl.unique hs.destLeads
  obtain rfl : place = s.copy ++ [n] := by
    rcases hend with ⟨hplace, _, _⟩ | ⟨target, _, _, hlink, _⟩
    · exact hplace
    · cases hvacant.symm.trans hlink
  have hkeeps := extends_put (by simp) hvacant (.file bytes mode)
  have hd := hs.wellFormed.put (enter_directory hm) hn (e := .file bytes mode) (by simp [hvacant])
  have hget : (w.disk.put (s.copy ++ [n]) (.file bytes mode)).get? (s.copy ++ [n]) = some (.file bytes mode) := by
    rw [get?_put _ (by simp), if_pos rfl]
  refine ⟨⟨hkeeps, fun _ => hd⟩, fun k hk => ?_, fun count hcount => ⟨[[n]], Except.ok.inj hcount, ?_⟩⟩
  · exact (get?_put _ (by simp) _ k).trans (if_neg (hk [n] rfl))
  · refine .leaf hd (hkeeps.get _ e he) hother hget (read_mono hkeeps hread) ?_
    rintro old m' rfl
    -- A file is read at its own place.
    obtain ⟨l', _, hl', hfile, _⟩ := read_eq_ok.1 hread
    obtain ⟨m₀, hm₀⟩ := hs.directory
    obtain rfl := hs.leads.join_unique (leads_of_locate hl') hm₀ hn (by simp [he])
    cases hfile.symm.trans he
    rfl

/-- The members of a directory, one after another. -/
theorem copyMembers_effect {copyMember : Name × Bool → ExceptT BackupError Job Nat} {tree : Disk}
    {ms : List (Name × Bool)}
    (hone : ∀ m ∈ ms, ∀ w r w', s.Ready w.disk → (∀ rel, w.disk.get? (s.place ++ rel) = tree.get? (s.place ++ rel)) →
      w.disk.Bare (s.copy ++ [m.1]) → (copyMember m).run w = (r, w') →
      s.Effect (fun rel => rel.head? = some m.1) w.disk w'.disk r)
    (hs : s.Ready w.disk) (hapart : s.Apart) (hsame : ∀ rel, w.disk.get? (s.place ++ rel) = tree.get? (s.place ++ rel))
    (hnodup : (ms.map Prod.fst).Nodup) (hbare : ∀ m ∈ ms, w.disk.Bare (s.copy ++ [m.1]))
    (h : (copyMembers copyMember ms).run w = (r, w')) :
    s.Effect (fun rel => ∃ n ∈ ms.map Prod.fst, rel.head? = some n) w.disk w'.disk r := by
  induction ms generalizing w r with
  | nil =>
    cases h
    exact ⟨.refl _, fun _ _ => rfl, fun count hcount => ⟨[], Except.ok.inj hcount, by simp, by simp, by simp, by simp⟩⟩
  | cons m ms ih =>
    obtain ⟨hm, hnodup⟩ := List.nodup_cons.1 hnodup
    have hwithin : (fun rel : Location => ∃ n ∈ (m :: ms).map Prod.fst, rel.head? = some n) =
        fun rel => rel.head? = some m.1 ∨ ∃ n ∈ ms.map Prod.fst, rel.head? = some n := by
      funext rel
      simp
    rw [hwithin]
    rcases Job.run_bind_cases h with ⟨e, hfirst, rfl⟩ | ⟨count, w₁, hfirst, h⟩
    · exact (hone m List.mem_cons_self w _ _ hs hsame (hbare m List.mem_cons_self) hfirst).fail fun _ => .inl
    have hstep := hone m List.mem_cons_self w _ _ hs hsame (hbare m List.mem_cons_self) hfirst
    have hbare₁ : ∀ m' ∈ ms, w₁.disk.Bare (s.copy ++ [m'.1]) := by
      intro m' hm' rest
      rw [hstep.frame _ fun rel hrel he => ?_]
      · exact hbare m' (List.mem_cons_of_mem _ hm') rest
      · rw [List.append_assoc, List.append_cancel_left_eq] at he
        rw [← he] at hrel
        exact hm (List.mem_map.2 ⟨m', hm', by simpa using hrel⟩)
    have hrest : ∀ {r}, (copyMembers copyMember ms).run w₁ = (r, w') →
        s.Effect (fun rel => ∃ n ∈ ms.map Prod.fst, rel.head? = some n) w₁.disk w'.disk r := fun hr =>
      ih (fun m' hm' => hone m' (List.mem_cons_of_mem _ hm')) (hs.mono hstep.grows)
        (fun rel => (hstep.same hapart rel).trans (hsame rel)) hnodup hbare₁ hr
    have hdisjoint : ∀ rel : Location, rel.head? = some m.1 → ¬ ∃ n ∈ ms.map Prod.fst, rel.head? = some n := by
      rintro rel hrel ⟨n, hn, hn'⟩
      obtain rfl : m.1 = n := by simpa [hrel] using hn'
      exact hm hn
    rcases Job.run_bind_cases h with ⟨e, hnext, rfl⟩ | ⟨count', w₂, hnext, h⟩
    · exact hstep.append hapart (hrest hnext) hdisjoint
    · cases h
      exact hstep.append hapart (hrest hnext) hdisjoint

/-! ## Directories -/

theorem destOf_concat (target : Path) (relative : List Name) (n : Name) :
    destOf target (relative ++ [n]) = target.below (relative ++ [n]) := by
  cases relative <;> rfl

/-- The path of a copy has the names below the target, and perhaps a slash at the end. -/
theorem steps_destOf (target : Path) (relative : List Name) :
    (destOf target relative).steps = (target.below relative).steps ∧
      (destOf target relative).isAbsolute = (target.below relative).isAbsolute := by
  cases relative with
  | nil =>
    have hempty : Path.isAbsolute ⟨[]⟩ = false := rfl
    refine ⟨?_, ?_⟩
    · rw [destOf, Path.steps_join_path _ hempty]
      simp [Path.steps, Path.parts]
    · rw [destOf, Path.isAbsolute, Path.join_bytes _ hempty]
      obtain ⟨bytes⟩ := target
      cases bytes <;> simp [Path.isAbsolute]
  | cons n rest => exact ⟨rfl, rfl⟩

theorem listKinds_eq_ok {d : Disk} {p : Path} {ms : List (Name × Bool)} (h : d.listKinds p = .ok ms) :
    ∃ l, d.locate p = .ok l ∧ d.list p = .ok (d.names l) ∧
      ms = (d.names l).map fun n => (n, d.isDirectoryAt (l ++ [n])) := by
  obtain ⟨names, hnames, h⟩ := bind_eq_ok.1 h
  obtain ⟨l, hl, h⟩ := bind_eq_ok.1 h
  obtain ⟨l', _, hl', _, _, rfl⟩ := list_eq_ok.1 hnames
  cases hl.symm.trans hl'
  cases h
  exact ⟨l, hl, hnames, rfl⟩

/-- A new directory for the copies of what is in a directory. -/
theorem makeDirectories_dest {d d' : Disk} {n : Name} {p : Path} {u : Except Cause Unit} (hs : s.Ready d)
    (hn : Path.IsName n) (hvacant : d.get? (s.copy ++ [n]) = none) (hsteps : p.steps = s.dest.steps ++ [n])
    (habs : p.isAbsolute = s.dest.isAbsolute) (h : d.makeDirectories p = (u, d')) :
    (u = .ok () ∧ Grows d d' ∧ (∀ k, k ≠ s.copy ++ [n] → d'.get? k = d.get? k) ∧
      d'.Leads (s.dest.join ⟨n⟩) (s.copy ++ [n]) ∧ ∃ m, d'.get? (s.copy ++ [n]) = some (.directory m)) ∨
    ∃ c, u = .error c ∧ d' = d := by
  obtain ⟨m, hm⟩ := hs.destDirectory
  have hstart : d.start p = d.start s.dest := by rw [start, start, habs]
  have hway : d.walk .whole linkLimit (d.start p) s.dest.steps = .ok s.copy := hstart ▸ hs.destLeads
  have hgrows := makeDirectories_grows d p
  rw [h] at hgrows
  rcases makeDirectoriesFrom_vacant p.bytes.length hsteps hn hway hm hvacant with ⟨m', hm', hlen, hmake⟩ | ⟨c, hmake⟩
  · cases hmake.symm.trans h
    refine .inl ⟨rfl, hgrows, fun k hk => ?_, hs.destLeads.join_put hm' hn hlen hvacant _, Mode.newDirectory, ?_⟩
    · rw [get?_put d (by simp), if_neg hk]
    · rw [get?_put d (by simp), if_pos rfl]
  · cases hmake.symm.trans h
    exact .inr ⟨c, rfl, rfl⟩

/-- The members of a directory as they are listed. -/
theorem copyListed_effect {copyMember : Name × Bool → ExceptT BackupError Job Nat} (hs : s.Ready w.disk)
    (hapart : s.Apart) (hbare : ∀ k, w.disk.Bare (s.copy ++ [k]))
    (hfolder : ∀ k w r w', Path.IsName k → s.Ready w.disk → (∃ m, w.disk.get? (s.place ++ [k]) = some (.directory m)) →
      w.disk.Bare (s.copy ++ [k]) → (copyMember (k, true)).run w = (r, w') →
      (s.into k).Effect (fun _ => True) w.disk w'.disk r)
    (hfile : ∀ k w r w' e, Path.IsName k → s.Ready w.disk → w.disk.get? (s.place ++ [k]) = some e →
      (∀ m, e ≠ .directory m) → w.disk.Bare (s.copy ++ [k]) → (copyMember (k, false)).run w = (r, w') →
      s.Effect (fun rel => rel.head? = some k) w.disk w'.disk r)
    (h : (copyMembers copyMember
      ((w.disk.names s.place).map fun n => (n, w.disk.isDirectoryAt (s.place ++ [n])))).run w = (r, w')) :
    s.Effect (fun rel => ∃ n ∈ w.disk.names s.place, rel.head? = some n) w.disk w'.disk r := by
  have hnames : ((w.disk.names s.place).map fun n => (n, w.disk.isDirectoryAt (s.place ++ [n]))).map Prod.fst =
      w.disk.names s.place := by
    rw [List.map_map]
    exact List.map_id _
  have heffect := copyMembers_effect ?hone hs hapart (fun _ => rfl)
    (by rw [hnames]; exact hs.wellFormed.names_nodup s.place) (fun m _ => hbare m.1) h
  case hone =>
    intro m hm w₁ r₁ w₂ hs₁ hsame hbare₁ hrun
    obtain ⟨k, hk, rfl⟩ := List.mem_map.1 hm
    obtain ⟨e, he⟩ := Option.isSome_iff_exists.1 (mem_names.1 hk)
    have hname := hs.wellFormed.isName_of_mem_names hk
    rw [← hsame] at he
    cases hkind : w.disk.isDirectoryAt (s.place ++ [k]) with
    | true =>
      rw [hkind] at hrun
      obtain ⟨m, hm⟩ := isDirectoryAt_iff.1 hkind
      exact (hfolder k w₁ r₁ w₂ hname hs₁ ⟨m, (hsame [k]).trans hm⟩ hbare₁ hrun).lift
    | false =>
      rw [hkind] at hrun
      refine hfile k w₁ r₁ w₂ e hname hs₁ he (fun m hm => ?_) hbare₁ hrun
      rw [isDirectoryAt_iff.2 ⟨m, by rw [← hsame, he, hm]⟩] at hkind
      cases hkind
  rwa [hnames] at heffect

/-- A directory, with all that is below it. A path is longer than that of the directory above and may not reach the
limit, so no directory is too deep. -/
theorem copyFrom_effect (root target : Path) (depth : Nat) {n : Name} {relative : List Name} (hs : s.Ready w.disk)
    (hapart : (s.into n).Apart) (hn : Path.IsName n) (hdir : ∃ m, w.disk.get? (s.place ++ [n]) = some (.directory m))
    (hbare : w.disk.Bare (s.copy ++ [n])) (hdest : target.below relative = s.dest.join ⟨n⟩) (hpos : 0 < depth)
    (hdeep : Path.lengthLimit < (s.source.join ⟨n⟩).bytes.length + depth)
    (h : (copyFrom root target depth (s.source.join ⟨n⟩) relative true).run w = (r, w')) :
    (s.into n).Effect (fun _ => True) w.disk w'.disk r := by
  induction depth generalizing s n relative w r w' with
  | zero => omega
  | succ depth ih =>
    have hvacant : w.disk.get? (s.copy ++ [n]) = none := by simpa using hbare []
    obtain ⟨hsteps, habs⟩ := steps_destOf target relative
    rw [hdest, s.dest.steps_join hn] at hsteps
    rw [hdest, s.dest.isAbsolute_join hn] at habs
    rw [copyFrom, if_pos rfl] at h
    obtain ⟨⟨u, d⟩, hmake⟩ : ∃ made, w.disk.makeDirectories (destOf target relative) = made := ⟨_, rfl⟩
    have hjob : Job.act (fun d => d.makeDirectories (destOf target relative)) w = (u, { w with disk := d }) := by
      rw [Job.act_apply, hmake]
    rcases makeDirectories_dest hs hn hvacant hsteps habs hmake with
      ⟨rfl, hfirst, hmade, hleads, hcopy⟩ | ⟨c, rfl, rfl⟩
    · rw [Job.run_orFail_ok hjob] at h
      rcases Job.run_orFail_cases h with ⟨c, _, rfl, rfl⟩ | ⟨ms, hms, h⟩
      · exact ⟨hfirst, fun k hk => hmade k (by simpa [into] using hk [] trivial), by simp⟩
      obtain ⟨l, hl, hlist, rfl⟩ := listKinds_eq_ok hms
      have hs' := hs.mono hfirst
      obtain ⟨m, hm⟩ := hs'.directory
      obtain ⟨m', hm'⟩ := hdir.imp fun _ hm => hfirst.keeps.get _ _ hm
      obtain rfl := hs'.leads.join_unique (leads_of_locate hl) hm hn (by simp [hm'])
      have hready : (s.into n).Ready d := ⟨hs'.wellFormed, leads_of_locate hl, ⟨m', hm'⟩, hleads, hcopy⟩
      have hlimit := (checkPath_eq_ok (locate_eq_ok.1 hl).1).2
      have hbelow : ∀ k, target.below (relative ++ [k]) = (s.into n).dest.join ⟨k⟩ := by
        intro k
        rw [Path.below_concat, hdest]
        rfl
      refine .whole hready hapart hfirst hmade hlist (fun k hk => mem_names.2 hk)
        (copyListed_effect (w := { w with disk := d }) hready hapart ?bare ?folder ?file h)
      case bare =>
        intro k rest
        show d.get? (s.copy ++ [n] ++ [k] ++ rest) = none
        rw [hmade _ (by simp), List.append_assoc]
        exact hbare _
      case folder =>
        intro k w r w' hk hs hdir hbare hrun
        have hlen : (s.source.join ⟨n⟩).bytes.length < ((s.into n).source.join ⟨k⟩).bytes.length :=
          (s.source.join ⟨n⟩).length_lt_join hk
        exact ih hs (hapart.into k) hk hdir hbare (hbelow k) (by omega) (by omega) hrun
      case file =>
        intro k w r w' e hk hs he hother hbare hrun
        obtain ⟨depth, rfl⟩ : ∃ fuel, depth = fuel + 1 := Nat.exists_eq_succ_of_ne_zero (by omega)
        simp only [copyFrom, Bool.false_eq_true, if_false, destOf_concat, hbelow k] at hrun
        exact copyOne_effect hs hk he hother (by simpa using hbare []) hrun
    · rw [Job.run_orFail_error hjob] at h
      cases h
      exact .refused _ _ _ _

/-- The target itself is never a file. -/
theorem copyFrom_target_file (root source p : Path) (depth : Nat) {n : Name} (hn : Path.IsName n) (w : Workbench) :
    ∃ e, (copyFrom root (p.join ⟨n⟩) (depth + 1) source [] false).run w = (.error e, w) := by
  simp only [copyFrom, Bool.false_eq_true, if_false, copyOne, destOf]
  rcases Job.change_cases (fun d => d.copyFile source ((p.join ⟨n⟩).join ⟨[]⟩)) w with ⟨c, hjob⟩ | ⟨d, hcopy, _⟩
  · exact ⟨_, Job.run_orFail_error hjob _ _⟩
  · exact (copyFile_slash (p.getLast?_names_join_empty hn) hcopy).elim

theorem findRoot_linkMetadata {d : Disk} {root : Path} {found : Metadata} (h : findRoot d root = .ok found) :
    d.linkMetadata root = .ok found := by
  obtain ⟨found', hfound, h⟩ := bind_eq_ok.1 h
  simp only at h
  split at h
  · obtain ⟨_, _, h⟩ := bind_eq_ok.1 h
    cases h
    exact hfound
  · cases h
    exact hfound

/-- A directory is copied whole, and nothing else is copied at all. -/
theorem copyTree_effect {n : Name} {r : Except BackupError (Path × Nat)} (hs : s.Ready w.disk)
    (hapart : (s.into n).Apart) (hn : Path.IsName n) (hbare : w.disk.Bare (s.copy ++ [n]))
    (h : (copyTree s.dest (s.source.join ⟨n⟩)).run w = (r, w')) :
    (s.into n).Effect (fun _ => True) w.disk w'.disk (r.map Prod.snd) ∧
      ∀ copy count, r = .ok (copy, count) →
        copy = s.dest.join ⟨n⟩ ∧ ∃ m, w.disk.get? (s.place ++ [n]) = some (.directory m) := by
  simp only [copyTree, Path.fileName?_join _ hn] at h
  rcases Job.run_orFail_cases h with ⟨c, _, rfl, rfl⟩ | ⟨found, hfound, h⟩
  · exact ⟨.refused _ _ _ _, by simp⟩
  obtain ⟨l, m, e, _, hl, _, _, he, rfl⟩ := linkMetadata_join hn (findRoot_linkMetadata hfound)
  obtain rfl := hl.unique hs.leads
  cases e with
  | directory m =>
    have heffect : ∀ {r w'}, (copyFrom (s.source.join ⟨n⟩) (s.dest.join ⟨n⟩) Path.lengthLimit (s.source.join ⟨n⟩) []
        true).run w = (r, w') → (s.into n).Effect (fun _ => True) w.disk w'.disk r := by
      intro r w' hrun
      have hlen := s.source.length_lt_join hn
      exact copyFrom_effect _ _ Path.lengthLimit hs hapart hn ⟨m, he⟩ hbare rfl (by decide) (by omega) hrun
    rcases Job.run_bind_cases h with ⟨c, hrun, rfl⟩ | ⟨count, w₁, hrun, h⟩
    · exact ⟨heffect hrun, by simp⟩
    · cases h
      exact ⟨heffect hrun, fun copy count hr => ⟨(Prod.mk.inj (Except.ok.inj hr)).1.symm, m, he⟩⟩
  | file bytes m | link target =>
    obtain ⟨c, hrun⟩ := copyFrom_target_file (s.source.join ⟨n⟩) (s.source.join ⟨n⟩) s.dest 4095 hn w
    rcases Job.run_bind_cases h with ⟨c', hrun', rfl⟩ | ⟨count, w₁, hrun', _⟩
    · cases hrun.symm.trans hrun'
      exact ⟨.refused _ _ _ _, by simp⟩
    · cases hrun.symm.trans hrun'

end Backup

end Retarget
