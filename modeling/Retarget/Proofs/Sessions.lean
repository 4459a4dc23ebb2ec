import Mathlib.Data.Nat.Find
import Retarget.Backup
import Retarget.Proofs.Resolution
import Retarget.Timestamp

/-!
# Directories for backups

A backup gets a directory of its own in the backup directory: the path of it leads nowhere before, and to an empty
directory afterwards.

* `Backup.isName_sessionName`: a backup has a proper name,
* `Backup.freePath_free`: one of the numbered names is free,
* `Disk.makeDirectories_pair`: a directory appears, with the one above it if need be,
* `Backup.openSession_spec`: the directory of a backup is new.
-/

namespace Retarget

/-! ## Names -/

namespace Text

/-- Only a slash has the byte of a slash. -/
theorem eq_slash_of_mem {c : Char} (h : Path.slash ∈ String.utf8EncodeChar c) : c = '/' := by
  have key : ∀ v : Nat, Path.slash = UInt8.ofNat v → v % 256 = 47 := by
    intro v hv
    simpa [Path.slash] using (congrArg UInt8.toNat hv).symm
  unfold String.utf8EncodeChar at h
  simp only at h
  split at h
  · have hval := key _ (List.mem_singleton.1 h)
    exact Char.ext (UInt32.toNat_inj.1 (show c.val.toNat = 47 by omega))
  -- The bytes of longer characters are all above those of short ones.
  · split at h
    · simp only [List.mem_cons, List.not_mem_nil, or_false] at h
      rcases h with h | h <;> exact absurd (key _ h) (by omega)
    · split at h
      · simp only [List.mem_cons, List.not_mem_nil, or_false] at h
        rcases h with h | h | h <;> exact absurd (key _ h) (by omega)
      · simp only [List.mem_cons, List.not_mem_nil, or_false] at h
        rcases h with h | h | h | h <;> exact absurd (key _ h) (by omega)

/-- A text without slashes is a name, if it has anything but full stops. -/
theorem isName_encode {s : String} {c : Char} (hc : c ∈ s.toList) (hdot : c ≠ '.') (hslash : '/' ∉ s.toList) :
    Path.IsName (encode s) := by
  have hne : ∀ t : String, c ∉ t.toList → encode s ≠ encode t := by
    intro t ht he
    rw [encode_injective he] at hc
    exact ht hc
  refine ⟨hne "" (by simp), fun hmem => ?_, hne "." (by simpa using hdot), hne ".." (by simpa using hdot)⟩
  obtain ⟨c', hc', hbyte⟩ := List.mem_flatMap.1 hmem
  exact hslash (eq_slash_of_mem hbyte ▸ hc')

end Text

theorem slash_not_mem_digits (n : Nat) : '/' ∉ Nat.toDigits 10 n := by
  intro h
  have hdigit := Nat.isDigit_of_mem_toDigits (by omega) (by omega) h
  revert hdigit
  decide

namespace Timestamp

theorem slash_not_mem_padded (width n : Nat) : '/' ∉ (padded width n).toList := by
  simp [padded, slash_not_mem_digits]

theorem toList_render (m : Moment) : (m.render "-").toList =
    (padded 4 m.year).toList ++ ['-'] ++ (padded 2 m.month).toList ++ ['-'] ++ (padded 2 m.day).toList ++ ['T'] ++
      ((padded 2 m.hour).toList ++ ['-'] ++ (padded 2 m.minute).toList ++ ['-'] ++ (padded 2 m.second).toList) := by
  simp [Moment.render]

theorem mark_mem_render (m : Moment) : 'T' ∈ (m.render "-").toList := by simp [toList_render]

theorem slash_not_mem_render (m : Moment) : '/' ∉ (m.render "-").toList := by
  simp [toList_render, slash_not_mem_padded]

end Timestamp

namespace Backup

theorem toList_sessionName (time : String) (n : Nat) :
    (sessionName time (n + 1)).toList = time.toList ++ '-' :: Nat.toDigits 10 (n + 1) := by
  rw [show sessionName time (n + 1) = time ++ "-" ++ toString (n + 1) from rfl]
  simp

theorem sessionName_injective {time : String} {i j : Nat} (h : sessionName time i = sessionName time j) : i = j := by
  have hlists := congrArg String.toList h
  cases i with
  | zero =>
    cases j with
    | zero => rfl
    | succ j =>
      rw [toList_sessionName, sessionName] at hlists
      simp at hlists
  | succ i =>
    cases j with
    | zero =>
      rw [toList_sessionName, sessionName] at hlists
      simp at hlists
    | succ j =>
      rw [toList_sessionName, toList_sessionName, List.append_cancel_left_eq, List.cons.injEq] at hlists
      have hdigits := congrArg (fun cs => Nat.ofDigitChars 10 cs 0) hlists.2
      simpa only [Nat.ofDigitChars_ten_toDigits] using hdigits

/-- A backup has a proper name. -/
theorem isName_sessionName (m : Timestamp.Moment) (i : Nat) :
    Path.IsName (Text.encode (sessionName (m.render "-") i)) := by
  have hmark := Timestamp.mark_mem_render m
  have hslash := Timestamp.slash_not_mem_render m
  cases i with
  | zero => exact Text.isName_encode hmark (by decide) hslash
  | succ i =>
    have hlist := toList_sessionName (m.render "-") i
    refine Text.isName_encode (c := 'T') ?_ (by decide) ?_
    · rw [hlist]
      exact List.mem_append_left _ hmark
    · rw [hlist]
      simp [hslash, slash_not_mem_digits]

end Backup

/-! ## A free name -/

namespace Disk

variable {d : Disk} {q : Path}

/-- What is found under a name stands in the directory that the path before it leads to. -/
theorem exists_join {n : Name} (hn : Path.IsName n) (h : d.exists (q.join ⟨n⟩) = true) :
    ∃ l, d.Leads q l ∧ (d.get? (l ++ [n])).isSome := by
  unfold «exists» at h
  cases hm : d.metadata (q.join ⟨n⟩) with
  | error c => simp [hm, Except.isOk, Except.toBool] at h
  | ok found =>
    obtain ⟨l', _, hl', _, _⟩ := metadata_eq_ok.1 hm
    obtain ⟨l, _, hl, _, _, _⟩ := approach_of_locate hn hl'
    refine ⟨l, hl, Option.isSome_iff_ne_none.2 fun hvacant => ?_⟩
    exact hl.locate_vacant hn hvacant l' hl'

end Disk

namespace Backup

open Disk

variable {d : Disk} {folder : Path} {time : String}

/-- The path of a backup with a number. -/
abbrev sessionPath (folder : Path) (time : String) (i : Nat) : Path := folder.join (.ofString (sessionName time i))

/-- There are more names than entries, so one of the first names is free. -/
theorem exists_free (d : Disk) (folder : Path) (hname : ∀ i, Path.IsName (Text.encode (sessionName time i))) :
    ∃ i ≤ d.entries.length, d.exists (sessionPath folder time i) = false := by
  by_contra hall
  have htaken : ∀ i ≤ d.entries.length, d.exists (sessionPath folder time i) = true := fun i hi => by
    rw [← Bool.not_eq_false]
    exact fun hfree => hall ⟨i, hi, hfree⟩
  obtain ⟨l, hl, _⟩ := exists_join (hname _) (htaken 0 (Nat.zero_le _))
  have hmany := @not_all_occupied (fun i => Text.encode (sessionName time i))
    (fun he => sessionName_injective (Text.encode_injective he)) d l
  refine hmany fun i hi => ?_
  obtain ⟨l', hl', hsome⟩ := exists_join (hname _) (htaken i hi)
  exact hl.unique hl' ▸ hsome

/-- The first free path is found, if there are tries enough to come to it. -/
theorem freePath_least {tries n i : Nat} (hfree : d.exists (sessionPath folder time (n + i)) = false)
    (htaken : ∀ j < i, d.exists (sessionPath folder time (n + j)) = true) (htries : i < tries) :
    freePath d folder time tries n = sessionPath folder time (n + i) := by
  induction tries generalizing n i with
  | zero => omega
  | succ tries ih =>
    rw [freePath]
    cases i with
    | zero => exact if_neg (by simpa using hfree)
    | succ i =>
      have hnext : ∀ j, n + 1 + j = n + (j + 1) := fun j => by omega
      refine (if_pos (htaken 0 (Nat.succ_pos i))).trans ?_
      rw [← hnext i] at hfree ⊢
      exact ih hfree (fun j hj => hnext j ▸ htaken (j + 1) (by omega)) (by omega)

/-- The search for a free path ends by itself: however many tries there are, from some number on, they end at the first
free path. -/
theorem freePath_free (d : Disk) (folder : Path) (hname : ∀ i, Path.IsName (Text.encode (sessionName time i))) :
    ∃ i, d.exists (sessionPath folder time i) = false ∧ (∀ j < i, d.exists (sessionPath folder time j) = true) ∧
      ∀ tries, d.entries.length < tries → freePath d folder time tries 0 = sessionPath folder time i := by
  obtain ⟨k, hk, hfree⟩ := exists_free d folder hname
  have hsome : ∃ i, d.exists (sessionPath folder time i) = false := ⟨k, hfree⟩
  have htaken : ∀ j < Nat.find hsome, d.exists (sessionPath folder time j) = true := fun j hj => by
    rw [← Bool.not_eq_false]
    exact Nat.find_min hsome hj
  refine ⟨Nat.find hsome, Nat.find_spec hsome, htaken, fun tries htries => ?_⟩
  have hle := Nat.find_min' hsome hfree
  simpa using freePath_least (n := 0) (by simpa using Nat.find_spec hsome) (by simpa using htaken) (by omega)

end Backup

/-! ## A directory and the one above it -/

namespace Disk

variable {d d' : Disk} {q : Path} {l : Location} {n₁ n₂ : Name} {m : Mode}

/-- A new directory in another one, which may be new as well. -/
structure Opened (d d' : Disk) (p : Path) (place : Location) : Prop where
  fresh : d.get? place = none
  leads : d'.Leads p place
  directory : ∃ m, d'.get? place = some (.directory m)

theorem Opened.of_put {d₁ : Disk} {p : Path} {place : Location} {n : Name} (hp : d₁.Leads p place)
    (hm : d₁.enter place = .ok m) (hn : Path.IsName n) (hlen : n.length ≤ Path.nameLimit)
    (hvacant : d₁.get? (place ++ [n]) = none) (hkeeps : Extends d d₁) :
    Opened d (d₁.put (place ++ [n]) (.directory Mode.newDirectory)) (p.join ⟨n⟩) (place ++ [n]) where
  fresh := by
    cases he : d.get? (place ++ [n]) with
    | none => rfl
    | some e => cases hvacant.symm.trans (hkeeps.get _ e he)
  leads := hp.join_put hm hn hlen hvacant _
  directory := ⟨_, by rw [get?_put d₁ (by simp), if_pos rfl]⟩

/-- If the way to a name in a directory misses something, it is the directory. -/
theorem Leads.vacant_of_missed {e : Entry} (hq : d.Leads q l) (hl : d.get? l = some e) (hn₁ : Path.IsName n₁)
    (hn₂ : Path.IsName n₂) (hlink : ∀ t, d.get? (l ++ [n₁]) ≠ some (.link t))
    (hmiss : d.approach ((q.join ⟨n₁⟩).join ⟨n₂⟩) = .error .notFound) : d.get? (l ++ [n₁]) = none := by
  have hway := walk_name_cases hq (by simp [hl]) hn₁ hlink
  rw [← q.steps_join hn₁, ← start_join d q hn₁] at hway
  rcases hway with ⟨hw, hsome⟩ | ⟨_, _, hnone⟩ | ⟨c, hne, hw⟩
  · obtain ⟨e', he'⟩ := Option.isSome_iff_exists.1 hsome
    exact (approach_join_ne_notFound hw he' hn₂ hmiss).elim
  · exact hnone
  · rw [approach_join d _ hn₂, hw] at hmiss
    cases hc : checkPath ((q.join ⟨n₁⟩).join ⟨n₂⟩) with
    | error c' =>
      simp only [hc, bind, Except.bind, Except.error.injEq] at hmiss
      exact (checkPath_join_ne_notFound _ hn₂ (hmiss ▸ hc)).elim
    | ok u =>
      simp only [hc, bind, Except.bind, Except.error.injEq] at hmiss
      exact (hne hmiss).elim

/-- Two directories are made, one in the other. -/
theorem makeDirectories_both {r : Except Cause Unit} (hd : d.WellFormed) (hq : d.Leads q l)
    (hl : d.get? l = some (.directory m)) (hn₁ : Path.IsName n₁) (hn₂ : Path.IsName n₂)
    (hvacant : d.get? (l ++ [n₁]) = none) (hmiss : d.approach ((q.join ⟨n₁⟩).join ⟨n₂⟩) = .error .notFound)
    (h : d.makeDirectories ((q.join ⟨n₁⟩).join ⟨n₂⟩) = (r, d')) :
    (∀ k, k ≠ l ++ [n₁] → k ≠ l ++ [n₁] ++ [n₂] → d'.get? k = d.get? k) ∧
      (r = .ok () → Opened d d' ((q.join ⟨n₁⟩).join ⟨n₂⟩) (l ++ [n₁] ++ [n₂])) := by
  have hsteps := (q.join ⟨n₁⟩).steps_join hn₂
  obtain ⟨parent, hparent, habs, hparentSteps⟩ := q.parent?_join_join hn₁ hn₂
  obtain ⟨fuel, hfuel⟩ := Nat.exists_eq_succ_of_ne_zero (n := ((q.join ⟨n₁⟩).join ⟨n₂⟩).bytes.length)
    (by simpa using (q.join ⟨n₁⟩).join_bytes_ne_nil hn₂)
  have hmake : d.makeDirectory ((q.join ⟨n₁⟩).join ⟨n₂⟩) = .error .notFound := by
    rw [makeDirectory, hmiss]
    rfl
  have hstart : d.start parent = d.start q := by rw [start, start, habs]
  rw [makeDirectories, makeDirectoriesFrom, components_of_steps hsteps, hmake, hparent, hfuel] at h
  simp only [Bool.false_eq_true, if_false] at h
  rcases makeDirectoriesFrom_vacant fuel hparentSteps hn₁ (hstart ▸ hq) hl hvacant with
    ⟨m', hm', hlen, hfirst⟩ | ⟨c, hfirst⟩
  · rw [hfirst] at h
    simp only at h
    have hkeeps := extends_put (by simp) hvacant (.directory Mode.newDirectory)
    have hfolder := hq.join_put hm' hn₁ hlen hvacant Mode.newDirectory
    have hget : (d.put (l ++ [n₁]) (.directory Mode.newDirectory)).get? (l ++ [n₁]) =
        some (.directory Mode.newDirectory) := by rw [get?_put d (by simp), if_pos rfl]
    have hvacant₂ : (d.put (l ++ [n₁]) (.directory Mode.newDirectory)).get? (l ++ [n₁] ++ [n₂]) = none := by
      rw [get?_put d (by simp), if_neg (by simp)]
      exact hd.vacant_below (by simp [hvacant]) (by simp)
    rw [Leads, ← start_join _ _ hn₂] at hfolder
    rcases makeDirectory_vacant hsteps hn₂ hfolder hget hvacant₂ with ⟨m₂, hm₂, hlen₂, hsecond⟩ | ⟨c, _, hsecond, hdir⟩
    · rw [ensureDirectory, hsecond] at h
      cases h
      refine ⟨fun k hk hk₂ => ?_, fun _ => .of_put ?_ hm₂ hn₂ hlen₂ hvacant₂ hkeeps⟩
      · rw [get?_put _ (by simp), if_neg hk₂, get?_put d (by simp), if_neg hk]
      · rwa [start_join _ _ hn₂] at hfolder
    · rw [ensureDirectory, hsecond, hdir] at h
      cases h
      exact ⟨fun k hk _ => by rw [get?_put d (by simp), if_neg hk], by simp⟩
  · rw [hfirst] at h
    cases h
    exact ⟨fun _ _ _ => rfl, by simp⟩

/-- A directory appears under a name in another one, which is made before if need be. Nothing else happens. -/
theorem makeDirectories_pair {r : Except Cause Unit} (hd : d.WellFormed) (hq : d.Leads q l)
    (hl : d.get? l = some (.directory m)) (hn₁ : Path.IsName n₁) (hn₂ : Path.IsName n₂)
    (hlink : ∀ t, d.get? (l ++ [n₁]) ≠ some (.link t)) (hfree : d.exists ((q.join ⟨n₁⟩).join ⟨n₂⟩) = false)
    (h : d.makeDirectories ((q.join ⟨n₁⟩).join ⟨n₂⟩) = (r, d')) :
    (∀ k, k ≠ l ++ [n₁] → k ≠ l ++ [n₁] ++ [n₂] → d'.get? k = d.get? k) ∧
      (r = .ok () → Opened d d' ((q.join ⟨n₁⟩).join ⟨n₂⟩) (l ++ [n₁] ++ [n₂])) := by
  by_cases hmiss : d.approach ((q.join ⟨n₁⟩).join ⟨n₂⟩) = .error .notFound
  · exact makeDirectories_both hd hq hl hn₁ hn₂ (hq.vacant_of_missed hl hn₁ hn₂ hlink hmiss) hmiss h
  · rcases makeDirectories_join hn₂ hmiss with ⟨l', m', ha, hvacant, hmake⟩ | ⟨hdir, _⟩ | ⟨c, hmake⟩
    · obtain ⟨_, hl', hm', hlen⟩ := approach_join_spec hn₂ ha
      obtain rfl := hq.join_unique hl' hl hn₁ hlink
      cases hmake.symm.trans h
      refine ⟨fun k _ hk => ?_, fun _ => .of_put hl' hm' hn₂ hlen hvacant (.refl d)⟩
      rw [get?_put d (by simp), if_neg hk]
    · obtain ⟨l', m', hl', he⟩ := isDirectory_eq_true.1 hdir
      rw [«exists», metadata_eq_ok.2 ⟨l', _, hl', he, rfl⟩] at hfree
      cases hfree
    · cases hmake.symm.trans h
      exact ⟨fun _ _ _ => rfl, by simp⟩

/-- The parent of a name after a path leads to where the path leads. -/
theorem Leads.parent (h : d.Leads q l) {n : Name} (hn : Path.IsName n) :
    ∃ p, (q.join ⟨n⟩).parent? = some p ∧ d.Leads p l := by
  obtain ⟨p, dots, hp, habs, hdots, hsteps⟩ := q.parent?_join hn
  rw [Leads, start, ← habs, hsteps] at h
  obtain ⟨l', k, hl', hk⟩ := walk_left h
  obtain rfl := walk_stays (fun n hn => .inr (hdots n hn)) hk
  exact ⟨p, hp, hl'⟩

end Disk

/-! ## A new directory for each backup -/

namespace Backup

open Disk

/-- The place of the backup directory in a directory. -/
abbrev folderPlace (l : Location) : Location := l ++ [Text.encode folderName]

theorem isName_folderName : Path.IsName (Text.encode folderName) := by decide +kernel

/-- What is made for a backup is the first free path. -/
theorem openSession_run {folder : Path} {time : String} {r : Except BackupError Path} {w w' : Workbench}
    (h : (openSession folder time).run w = (r, w')) :
    w'.disk = (w.disk.makeDirectories (freePath w.disk folder time (w.disk.entries.length + 1) 0)).2 ∧
      ∀ session, r = .ok session → session = freePath w.disk folder time (w.disk.entries.length + 1) 0 ∧
        w.disk.makeDirectories session = (.ok (), w'.disk) := by
  rw [openSession, Job.run_bind] at h
  simp only [Job.run_look] at h
  generalize freePath w.disk folder time (w.disk.entries.length + 1) 0 = p at h ⊢
  rcases Job.run_orFail_cases h with ⟨e, _, rfl, rfl⟩ | ⟨u, hu, h⟩
  · exact ⟨rfl, by simp⟩
  · cases h
    refine ⟨rfl, fun session hsession => ?_⟩
    cases hsession
    exact ⟨rfl, Prod.ext hu rfl⟩

/-- A backup gets a new and empty directory in the backup directory, and nothing happens elsewhere. -/
theorem openSession_spec {q : Path} {l : Location} {m : Mode} {moment : Timestamp.Moment}
    {r : Except BackupError Path} {w w' : Workbench} (hd : w.disk.WellFormed) (hq : w.disk.Leads q l)
    (hl : w.disk.get? l = some (.directory m)) (hlink : ∀ t, w.disk.get? (folderPlace l) ≠ some (.link t))
    (h : (openSession (q.join (.ofString folderName)) (moment.render "-")).run w = (r, w')) :
    Grows w.disk w'.disk ∧ (∀ k, ¬ folderPlace l <+: k → w'.disk.get? k = w.disk.get? k) ∧
      ∀ p, r = .ok p → ∃ i,
        Opened w.disk w'.disk p (folderPlace l ++ [Text.encode (sessionName (moment.render "-") i)]) ∧
        ∀ n, w'.disk.Bare (folderPlace l ++ [Text.encode (sessionName (moment.render "-") i)] ++ [n]) := by
  obtain ⟨i, hfree, _, hpath⟩ := freePath_free w.disk (q.join (.ofString folderName)) (isName_sessionName moment)
  obtain ⟨hdisk, hok⟩ := openSession_run h
  rw [hpath _ (Nat.lt_succ_self _)] at hdisk hok
  have hgrows := makeDirectories_grows w.disk (sessionPath (q.join (.ofString folderName)) (moment.render "-") i)
  generalize hmake : w.disk.makeDirectories (sessionPath (q.join (.ofString folderName)) (moment.render "-") i) = made
    at hgrows hdisk
  obtain ⟨hframe, hopened⟩ := makeDirectories_pair hd hq hl isName_folderName (isName_sessionName moment i) hlink hfree
    hmake
  rw [hdisk]
  refine ⟨hgrows, fun k hk => hframe k ?_ ?_, fun p hp => ?_⟩
  · rintro rfl
    exact hk (List.prefix_refl _)
  · rintro rfl
    exact hk (List.prefix_append _ _)
  · obtain ⟨rfl, hmade⟩ := hok p hp
    have hopen := hopened (congrArg Prod.fst (hmake.symm.trans hmade))
    refine ⟨i, hopen, fun n rest => ?_⟩
    rw [hframe _ (fun he => ?_) (fun he => ?_)]
    · rw [List.append_assoc]
      exact hd.vacant_below (fun m hm => by cases hopen.fresh.symm.trans hm) (by simp)
    · simpa using congrArg List.length he
    · simpa using congrArg List.length he

end Backup

end Retarget
