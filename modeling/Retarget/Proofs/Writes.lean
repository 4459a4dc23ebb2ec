import Mathlib.Data.List.Perm.Subperm
import Retarget.Disk.Write
import Retarget.Proofs.WellFormed

/-!
# What writing changes

A file is written at one place or the disk stays as it is, and new directories leave all that was there.

* `Disk.get?_freshName`: a temporary file gets a place of its own,
* `Disk.replaceFile_cases`: a file appears at the end of its path, or a step is refused and nothing happens,
* `Disk.makeDirectories_join`: a directory appears at the end of its path, or nothing happens,
* `Disk.makeDirectories_grows`: new directories take nothing away.
-/

namespace Retarget

/-- Different texts have different bytes. -/
theorem Text.encode_injective {s t : String} (h : encode s = encode t) : s = t := by
  have hlists : s.toList.utf8Encode = t.toList.utf8Encode := congrArg List.toByteArray h
  rw [← String.ofList_toList (s := s), ← String.ofList_toList (s := t), ← String.toByteArray_inj,
    String.toByteArray_ofList, String.toByteArray_ofList, hlists]

namespace Disk

variable {d : Disk}

/-! ## Temporary files -/

theorem temporaryName_injective {i j : Nat} (h : temporaryName i = temporaryName j) : i = j := by
  have hlists := String.ofList_injective (Text.encode_injective h)
  rw [List.append_assoc, List.append_assoc] at hlists
  have hdigits := congrArg (fun cs => Nat.ofDigitChars 10 cs 0) (List.append_cancel_left hlists)
  simpa only [Nat.ofDigitChars_append, Nat.ofDigitChars_replicate_zero, Nat.mul_zero,
    Nat.ofDigitChars_ten_toDigits] using hdigits

/-- A name is free, or all that were tried are in use. -/
theorem freshFrom_free (d : Disk) (l : Location) (tries number : Nat) :
    d.get? (l ++ [d.freshFrom l tries number]) = none ∨
      ∀ i ≤ tries, (d.get? (l ++ [temporaryName (number + i)])).isSome := by
  induction tries generalizing number with
  | zero =>
    rw [freshFrom]
    cases hg : d.get? (l ++ [temporaryName number]) with
    | none => exact .inl rfl
    | some e =>
      refine .inr fun i hi => ?_
      rw [Nat.le_zero.1 hi, Nat.add_zero, hg]
      rfl
  | succ tries ih =>
    rw [freshFrom]
    split
    · next hg => exact .inl (Option.isNone_iff_eq_none.1 hg)
    · next hg =>
      rcases ih (number + 1) with h | h
      · exact .inl h
      · refine .inr fun i hi => ?_
        cases i with
        | zero => simpa [Option.isSome_iff_ne_none] using hg
        | succ i =>
          have hi' := h i (by omega)
          rwa [show number + 1 + i = number + (i + 1) by omega] at hi'

/-- There are more names than entries, so they are not all in use. -/
theorem not_all_occupied {name : Nat → Name} (hname : ∀ {i j}, name i = name j → i = j) (d : Disk) (l : Location) :
    ¬ ∀ i ≤ d.entries.length, (d.get? (l ++ [name i])).isSome := by
  intro h
  let tried := (List.range (d.entries.length + 1)).map fun i => l ++ [name i]
  have hnodup : tried.Nodup := by
    refine List.Nodup.map (fun i j hij => hname ?_) List.nodup_range
    simpa using hij
  have hsub : tried ⊆ d.entries.map Prod.fst := by
    intro k hk
    obtain ⟨i, hi, rfl⟩ := List.mem_map.1 hk
    exact (get?_isSome_iff (by simp)).1 (h i (by have := List.mem_range.1 hi; omega))
  have hle := (List.subperm_of_subset hnodup hsub).length_le
  simp only [tried, List.length_map, List.length_range] at hle
  omega

theorem get?_freshName (d : Disk) (l : Location) : d.get? (l ++ [d.freshName l]) = none := by
  rcases d.freshFrom_free l d.entries.length 0 with h | h
  · exact h
  · refine absurd (fun i hi => ?_) (not_all_occupied temporaryName_injective d l)
    have hi' := h i hi
    rwa [Nat.zero_add] at hi'

/-- A temporary file is put at a vacant place. -/
theorem createTemporary_eq_ok {folder : Path} {temp : Location} {made : Disk}
    (h : d.createTemporary folder = .ok (temp, made)) :
    temp ≠ [] ∧ d.get? temp = none ∧ made = d.put temp (.file [] Mode.temporary) := by
  unfold createTemporary at h
  simp only at h
  split at h
  · next r hr =>
    cases h
    split at hr
    · cases hr
    · obtain ⟨l, _, hr⟩ := bind_eq_ok.1 hr
      obtain ⟨m, _, hr⟩ := bind_eq_ok.1 hr
      split at hr
      · cases hr
      · obtain ⟨_, _, hr⟩ := bind_eq_ok.1 hr
        cases hr
        exact ⟨by simp, d.get?_freshName l, rfl⟩
  · cases h

/-! ## One file -/

theorem extends_put {l : Location} (hl : l ≠ []) (hvacant : d.get? l = none) (e : Entry) :
    Extends d (d.put l e) where
  get k f hk := by
    rw [get?_put d hl, if_neg fun he => ?_, hk]
    rw [he, hvacant] at hk
    cases hk
  current := d.put_current l e
  privileged := d.put_privileged l e
  refuses := d.put_refuses l e

/-- A new directory is found by the way to the one that it is in, and its name. -/
theorem walk_put_directory {f : Follow} {links : Nat} {l l' : Location} {xs : List Name} {n : Name} {m : Mode}
    (h : d.walk f links l xs = .ok l') (hm : d.enter l' = .ok m) (hn : Path.IsName n)
    (hlen : n.length ≤ Path.nameLimit) (hvacant : d.get? (l' ++ [n]) = none) (mode : Mode) :
    (d.put (l' ++ [n]) (.directory mode)).walk f links l (xs ++ [n]) = .ok (l' ++ [n]) := by
  have henter : (d.put (l' ++ [n]) (.directory mode)).enter l' = .ok m := by
    rw [enter_congr (by rw [get?_put d (by simp), if_neg (by simp)]) (put_privileged ..), hm]
  have hget : (d.put (l' ++ [n]) (.directory mode)).get? (l' ++ [n]) = some (.directory mode) := by
    rw [get?_put d (by simp), if_pos rfl]
  exact walk_name (walk_mono (extends_put (by simp) hvacant _) h) henter hn hlen hget (by simp)

theorem Leads.join_put {q : Path} {l : Location} {n : Name} {m : Mode} (h : d.Leads q l) (hm : d.enter l = .ok m)
    (hn : Path.IsName n) (hlen : n.length ≤ Path.nameLimit) (hvacant : d.get? (l ++ [n]) = none) (mode : Mode) :
    (d.put (l ++ [n]) (.directory mode)).Leads (q.join ⟨n⟩) (l ++ [n]) := by
  rw [Leads, start_join _ q hn, q.steps_join hn, (extends_put (by simp) hvacant _).start]
  exact walk_put_directory h hm hn hlen hvacant mode

/-- A file has been written under a name in a directory, where no other directory stood. -/
structure FilePut (d : Disk) (l : Location) (n : Name) (bytes : Bytes) (d' : Disk) : Prop where
  entered : ∃ m, d.enter l = .ok m
  short : n.length ≤ Path.nameLimit
  free : ∀ m, d.get? (l ++ [n]) ≠ some (.directory m)
  written : ∃ m, d' = d.put (l ++ [n]) (.file bytes m)

/-! ### The steps of writing -/

theorem keepsWays_put_file {l : Location} (hl : l ≠ []) (bytes : Bytes) (m : Mode) :
    KeepsWays (d.put l (.file bytes m)) d := by
  intro k e he hfile
  rw [get?_put d hl] at he
  split at he
  · cases he
    exact (hfile bytes m rfl).elim
  · exact he

/-- A temporary file is on no way. -/
theorem approach_put_file {temp : Location} (htemp : temp ≠ []) (hvacant : d.get? temp = none) (bytes : Bytes)
    (m : Mode) {p : Path} {a : Approach} :
    (d.put temp (.file bytes m)).approach p = .ok a ↔ d.approach p = .ok a := by
  have hext := extends_put htemp hvacant (.file bytes m)
  constructor
  · exact approach_ways (keepsWays_put_file htemp bytes m) hext.current.symm hext.privileged.symm
  · exact approach_ways (fun k e he _ => hext.get k e he) hext.current hext.privileged

theorem allows_eq_ok {s : WriteStep} : d.allows s = .ok () ↔ d.refuses s = none := by
  unfold allows
  split <;> simp_all

/-- A file may be moved to the end of a path. -/
def MayMove (d : Disk) (dest : Path) (place : Location) : Prop :=
  ∃ a n, d.approach dest = .ok a ∧ a.name = some n ∧ a.slash = false ∧ place = a.directory ++ [n] ∧
    d.mayChange a.mode = true ∧ (∀ m, d.get? place ≠ some (.directory m)) ∧ d.refuses (.rename place) = none

/-- A temporary file is moved to the end of a path, and nothing is left of it elsewhere. -/
theorem rename_eq_ok {temp : Location} {dest : Path} {bytes : Bytes} {m : Mode} (htemp : temp ≠ [])
    (hvacant : d.get? temp = none) {d' : Disk} :
    (d.put temp (.file bytes m)).rename temp dest = .ok d' ↔
      ∃ place, d.MayMove dest place ∧ d' = d.put place (.file bytes m) := by
  have hext := extends_put htemp hvacant (.file bytes m)
  have hchange : (d.put temp (.file bytes m)).mayChange = d.mayChange := by
    funext m'
    rw [mayChange, mayChange, put_privileged]
  -- The end of the path holds a directory exactly if it did before the temporary file was there.
  have hold : ∀ k m', (d.put temp (.file bytes m)).get? k = some (.directory m') ↔ d.get? k = some (.directory m') :=
    fun k m' => ⟨fun h => keepsWays_put_file htemp bytes m k _ h (by simp), hext.get k _⟩
  have hentry : (d.put temp (.file bytes m)).entryAt temp = .ok (.file bytes m) := by
    rw [entryAt_eq_ok, get?_put d htemp, if_pos rfl]
  constructor
  · intro h
    obtain ⟨a, ha, h⟩ := bind_eq_ok.1 h
    split at h
    · cases h
    · next n hn =>
      simp only at h
      split at h
      · cases h
      · next hslash =>
        split at h
        · cases h
        · next hmay =>
          split at h
          · cases h
          · next hother =>
            obtain ⟨_, hallow, h⟩ := bind_eq_ok.1 h
            obtain ⟨e, he, h⟩ := bind_eq_ok.1 h
            rw [hentry] at he
            cases he
            cases h
            refine ⟨a.directory ++ [n], ⟨a, n, (approach_put_file htemp hvacant bytes m).1 ha, hn,
              by simpa using hslash, rfl, by simpa [hchange] using hmay,
              fun m' hm' => hother m' ((hold _ _).2 hm'), ?_⟩, ?_⟩
            · rw [← hext.refuses]
              exact allows_eq_ok.1 hallow
            · rw [erase_put htemp hvacant]
  · rintro ⟨place, ⟨a, n, ha, hn, hslash, rfl, hmay, hfree, hallow⟩, rfl⟩
    refine bind_eq_ok.2 ⟨a, (approach_put_file htemp hvacant bytes m).2 ha, ?_⟩
    simp only [hn, hslash, hchange, hmay, Bool.false_eq_true, if_false, Bool.not_true]
    split
    · next m' hm' => exact (hfree m' ((hold _ _).1 hm')).elim
    · refine bind_eq_ok.2 ⟨(), allows_eq_ok.2 (by rw [hext.refuses, hallow]), bind_eq_ok.2 ⟨_, hentry, ?_⟩⟩
      rw [erase_put htemp hvacant]
      rfl

/-- The permission bits that a file is written with. -/
def writtenMode (m : Option Mode) : Mode := m.getD Mode.temporary

/-- The device goes along with filling a file, and with its permission bits if they are known. -/
def MayFill (d : Disk) (bytes : Bytes) (m : Option Mode) : Prop :=
  d.refuses (.fill bytes) = none ∧ d.refuses .sync = none ∧ ∀ m', m = some m' → d.refuses (.setMode m') = none

/-- A temporary file is filled and moved to the end of a path, or only the temporary file changes. -/
theorem finishFile_cases {temp : Location} (htemp : temp ≠ []) (hvacant : d.get? temp = none) (e : Entry)
    (dest : Path) (bytes : Bytes) (m : Option Mode) :
    (∃ c e', (d.put temp e).finishFile temp dest bytes m = (.error c, d.put temp e') ∧
      ∀ place, d.MayFill bytes m → ¬ d.MayMove dest place) ∨
    ∃ place, (d.put temp e).finishFile temp dest bytes m = (.ok (), d.put place (.file bytes (writtenMode m))) ∧
      d.MayFill bytes m ∧ d.MayMove dest place := by
  unfold finishFile
  cases hfill : (d.put temp e).fill temp bytes with
  | error c =>
    refine .inl ⟨c, e, rfl, fun _ hmay => ?_⟩
    rw [fill, allows_eq_ok.2 (by rw [put_refuses, hmay.1])] at hfill
    cases hfill
  | ok d₁ =>
    obtain ⟨_, hallow, hput⟩ := bind_eq_ok.1 hfill
    obtain rfl : (d.put temp e).put temp (.file bytes Mode.temporary) = d₁ := Except.ok.inj hput
    have hfill' : d.refuses (.fill bytes) = none := by rw [← put_refuses d temp e]; exact allows_eq_ok.1 hallow
    simp only [put_put]
    cases hsync : (d.put temp (.file bytes Mode.temporary)).allows .sync with
    | error c =>
      refine .inl ⟨c, _, rfl, fun _ hmay => ?_⟩
      rw [allows_eq_ok.2 (by rw [put_refuses, hmay.2.1])] at hsync
      cases hsync
    | ok u =>
      have hsync' : d.refuses .sync = none := by
        rw [← put_refuses d temp (.file bytes Mode.temporary)]
        exact allows_eq_ok.1 hsync
      simp only
      cases hset : (d.put temp (.file bytes Mode.temporary)).setMode temp bytes m with
      | error c =>
        refine .inl ⟨c, _, rfl, fun _ hmay => ?_⟩
        cases m with
        | none => cases hset
        | some m' =>
          rw [setMode, allows_eq_ok.2 (by rw [put_refuses, hmay.2.2 m' rfl])] at hset
          cases hset
      | ok d₂ =>
        obtain ⟨rfl, hmode⟩ : d₂ = d.put temp (.file bytes (writtenMode m)) ∧
            ∀ m', m = some m' → d.refuses (.setMode m') = none := by
          cases m with
          | none => exact ⟨(Except.ok.inj hset).symm, by simp⟩
          | some m' =>
            obtain ⟨_, hallow', hset⟩ := bind_eq_ok.1 hset
            refine ⟨(Except.ok.inj hset).symm.trans (put_put ..), fun m'' hm'' => ?_⟩
            cases hm''
            rw [← put_refuses d temp (.file bytes Mode.temporary)]
            exact allows_eq_ok.1 hallow'
        simp only
        cases hrename : (d.put temp (.file bytes (writtenMode m))).rename temp dest with
        | error c =>
          refine .inl ⟨c, _, rfl, fun place _ hmove => ?_⟩
          cases hrename.symm.trans ((rename_eq_ok htemp hvacant).2 ⟨place, hmove, rfl⟩)
        | ok d₃ =>
          obtain ⟨place, hmove, rfl⟩ := (rename_eq_ok htemp hvacant).1 hrename
          exact .inr ⟨place, rfl, ⟨hfill', hsync', hmode⟩, hmove⟩

/-- No step of writing a file is refused. -/
structure Writable (d : Disk) (dest : Path) (bytes : Bytes) (m : Option Mode) (place : Location) : Prop where
  create : ∃ made, d.createTemporary (folderOf dest) = .ok made
  fill : d.MayFill bytes m
  move : d.MayMove dest place

/-- A file is written at the end of its path, or a step is refused and nothing happens. -/
theorem replaceFile_cases (d : Disk) (dest : Path) (bytes : Bytes) (m : Option Mode) :
    (∃ r, d.replaceFile dest bytes m = (.error r, d) ∧ ∀ place, ¬ d.Writable dest bytes m place) ∨
    ∃ place, d.replaceFile dest bytes m = (.ok (), d.put place (.file bytes (writtenMode m))) ∧
      d.Writable dest bytes m place := by
  unfold replaceFile
  split
  · next r hr =>
    refine .inl ⟨r, rfl, fun place hw => ?_⟩
    obtain ⟨made, hmade⟩ := hw.create
    cases hr.symm.trans hmade
  · next temp made hmade =>
    obtain ⟨htemp, hvacant, rfl⟩ := createTemporary_eq_ok hmade
    rcases finishFile_cases htemp hvacant (.file [] Mode.temporary) dest bytes m with
      ⟨c, e, he, hno⟩ | ⟨place, he, hfill, hmove⟩
    · rw [he]
      exact .inl ⟨⟨c, none⟩, congrArg (Prod.mk _) (erase_put htemp hvacant e),
        fun place hw => hno place hw.fill hw.move⟩
    · rw [he]
      exact .inr ⟨place, rfl, ⟨_, hmade⟩, hfill, hmove⟩

/-- A file is written under a name in the directory that a path leads to, or nothing happens. -/
theorem replaceFile_join {q : Path} {l : Location} {n : Name} (hq : d.Leads q l) (hn : Path.IsName n) (bytes : Bytes)
    (m : Option Mode) :
    (∃ r, d.replaceFile (q.join ⟨n⟩) bytes m = (.error r, d)) ∨
    ∃ d', d.replaceFile (q.join ⟨n⟩) bytes m = (.ok (), d') ∧ FilePut d l n bytes d' := by
  rcases d.replaceFile_cases (q.join ⟨n⟩) bytes m with ⟨r, hr, _⟩ | ⟨place, hput, _, _, hmove⟩
  · exact .inl ⟨r, hr⟩
  · obtain ⟨a, n', ha, hn', _, rfl, _, hfree, _⟩ := hmove
    obtain ⟨l', m', _, hl', hm', hlen, rfl⟩ := (approach_join_eq_ok hn).1 ha
    obtain rfl := hl'.unique hq
    cases hn'
    exact .inr ⟨_, hput, ⟨m', hm'⟩, hlen, hfree, _, rfl⟩

namespace FilePut

variable {d' : Disk} {l : Location} {n : Name} {bytes : Bytes} (h : FilePut d l n bytes d')
include h

theorem directory : ∃ m, d.get? l = some (.directory m) := by
  obtain ⟨m, hm⟩ := h.entered
  exact ⟨m, enter_directory hm⟩

theorem get : ∃ m, d'.get? (l ++ [n]) = some (.file bytes m) := by
  obtain ⟨m, rfl⟩ := h.written
  exact ⟨m, by rw [get?_put d (by simp), if_pos rfl]⟩

theorem frame {k : Location} (hk : k ≠ l ++ [n]) : d'.get? k = d.get? k := by
  obtain ⟨m, rfl⟩ := h.written
  rw [get?_put d (by simp), if_neg hk]

theorem wellFormed (hn : Path.IsName n) (hd : d.WellFormed) : d'.WellFormed := by
  obtain ⟨m, rfl⟩ := h.written
  obtain ⟨m', hm'⟩ := h.directory
  exact hd.put hm' hn h.free

theorem keeps (hvacant : d.get? (l ++ [n]) = none) : Extends d d' := by
  obtain ⟨m, rfl⟩ := h.written
  exact extends_put (by simp) hvacant _

end FilePut

/-! ## Directories -/

/-- The end of a path is a proper name in a directory. -/
theorem approach_spec {p : Path} {a : Approach} (h : d.approach p = .ok a) :
    d.get? a.directory = some (.directory a.mode) ∧ ∀ n, a.name = some n → Path.IsName n := by
  obtain ⟨_, _, h⟩ := bind_eq_ok.1 h
  simp only [Path.filter_names] at h
  split at h
  · obtain ⟨m, hm, h⟩ := bind_eq_ok.1 h
    cases h
    exact ⟨enter_directory hm, by simp⟩
  · next last before hlast =>
    obtain ⟨l, _, h⟩ := bind_eq_ok.1 h
    obtain ⟨m, hm, h⟩ := bind_eq_ok.1 h
    split at h
    · cases h
      exact ⟨enter_directory hm, by simp⟩
    · next hdots =>
      split at h
      · cases h
      · cases h
        refine ⟨enter_directory hm, fun n hn => ?_⟩
        have hmem : last ∈ p.steps := by rw [← List.mem_reverse, hlast]; exact List.mem_cons_self
        obtain ⟨hpart, hne⟩ := List.mem_filter.1 hmem
        obtain ⟨hhere, habove⟩ : last ≠ Path.here ∧ last ≠ Path.above := by simpa using hdots
        cases hn
        exact ⟨by simpa using hne, Path.slash_not_mem_of_mem_parts hpart, hhere, habove⟩

/-- A new directory stands in a directory, at a place that was vacant. -/
theorem makeDirectory_eq_ok {p : Path} {d' : Disk} (h : d.makeDirectory p = .ok d') :
    ∃ a n, d.approach p = .ok a ∧ a.name = some n ∧ d.get? a.directory = some (.directory a.mode) ∧ Path.IsName n ∧
      d.get? (a.directory ++ [n]) = none ∧ d' = d.put (a.directory ++ [n]) (.directory Mode.newDirectory) := by
  obtain ⟨a, ha, h⟩ := bind_eq_ok.1 h
  obtain ⟨hdir, hname⟩ := approach_spec ha
  split at h
  · cases h
  · next n hn =>
    simp only at h
    split at h
    · cases h
    · next hvacant =>
      split at h
      · cases h
      · cases h
        exact ⟨a, n, ha, hn, hdir, hname n hn, by simpa using hvacant, rfl⟩

/-- What can be missing is the way to a new directory. -/
theorem approach_of_makeDirectory {p : Path} (h : d.makeDirectory p = .error .notFound) :
    d.approach p = .error .notFound := by
  cases ha : d.approach p with
  | error c =>
    rw [makeDirectory, ha] at h
    cases h
    rfl
  | ok a =>
    rw [makeDirectory, ha] at h
    simp only [bind, Except.bind] at h
    split at h
    · cases h
    · split at h
      · cases h
      · split at h <;> cases h

/-- A directory is there afterwards if it has been made or was there. -/
theorem ensureDirectory_eq_ok {p : Path} {d' : Disk} (h : d.ensureDirectory p = .ok d') :
    d.makeDirectory p = .ok d' ∨ d.isDirectory p = true ∧ d' = d := by
  unfold ensureDirectory at h
  split at h
  · next d₁ hmake =>
    cases h
    exact .inl hmake
  · split at h
    · next hdir =>
      cases h
      exact .inr ⟨hdir, rfl⟩
    · cases h

/-- What each single directory keeps is kept when a directory is made with those above it that are missing. -/
theorem makeDirectoriesFrom_keeps {P : Disk → Prop} {Q : Path → Prop}
    (hup : ∀ d p q, P d → Q p → d.makeDirectory p = .error .notFound → p.parent? = some q → Q q)
    (hone : ∀ d p d', P d → Q p → d.makeDirectory p = .ok d' → P d') (fuel : Nat) {d : Disk} {p : Path} (hd : P d)
    (hp : Q p) : P (makeDirectoriesFrom fuel d p).2 := by
  induction fuel generalizing p with
  | zero => exact hd
  | succ fuel ih =>
    unfold makeDirectoriesFrom
    split
    · exact hd
    · split
      · next d₁ hmake => exact hone d p d₁ hd hp hmake
      · next hmissing =>
        split
        · exact hd
        · next parent hparent =>
          have habove := ih (hup d p parent hd hp hmissing hparent)
          split
          · next c d₁ hd₁ => rwa [hd₁] at habove
          · next u d₁ hd₁ =>
            rw [hd₁] at habove
            split
            · next d₂ hensure =>
              rcases ensureDirectory_eq_ok hensure with hmake | ⟨_, rfl⟩
              · exact hone d₁ p d₂ habove hp hmake
              · exact habove
            · exact habove
      · exact hd

/-- A disk that is a tree and has all that was there before. -/
structure Grows (d d' : Disk) : Prop where
  keeps : Extends d d'
  wellFormed : d.WellFormed → d'.WellFormed

theorem Grows.refl (d : Disk) : Grows d d := ⟨.refl d, id⟩

theorem Grows.trans {d₁ d₂ d₃ : Disk} (h : Grows d₁ d₂) (h' : Grows d₂ d₃) : Grows d₁ d₃ :=
  ⟨h.keeps.trans h'.keeps, fun hd => h'.wellFormed (h.wellFormed hd)⟩

theorem makeDirectory_grows {p : Path} {d' : Disk} (h : d.makeDirectory p = .ok d') : Grows d d' := by
  obtain ⟨a, n, _, _, hl, hn, hvacant, rfl⟩ := makeDirectory_eq_ok h
  exact ⟨extends_put (by simp) hvacant _, fun hd => hd.put hl hn (by simp [hvacant])⟩

/-- New directories take nothing away, however far they get. -/
theorem makeDirectoriesFrom_grows (fuel : Nat) (d : Disk) (p : Path) : Grows d (makeDirectoriesFrom fuel d p).2 :=
  makeDirectoriesFrom_keeps (P := Grows d) (Q := fun _ => True) (fun _ _ _ _ _ _ _ => trivial)
    (fun _ _ _ hd _ hmake => hd.trans (makeDirectory_grows hmake)) fuel (.refl d) trivial

theorem makeDirectories_grows (d : Disk) (p : Path) : Grows d (d.makeDirectories p).2 :=
  makeDirectoriesFrom_grows _ d p

theorem checkPath_join_ne_notFound (q : Path) {n : Name} (hn : Path.IsName n) :
    checkPath (q.join ⟨n⟩) ≠ .error .notFound := by
  have hne : (q.join ⟨n⟩).bytes.isEmpty = false := by simpa using q.join_bytes_ne_nil hn
  unfold checkPath
  rw [hne]
  split
  · simp
  · simp only [Bool.false_eq_true, if_false]
    split <;> simp

/-- The end of a path is never missing on the way, if something stands where the path before it leads. -/
theorem approach_join_ne_notFound {q : Path} {l : Location} {n : Name} {e : Entry} (hq : d.Leads q l)
    (hl : d.get? l = some e) (hn : Path.IsName n) : d.approach (q.join ⟨n⟩) ≠ .error .notFound := by
  rw [approach_join d q hn, show d.walk .whole linkLimit (d.start q) q.steps = .ok l from hq]
  have hcheck := checkPath_join_ne_notFound q hn
  cases hc : checkPath (q.join ⟨n⟩) with
  | error c => simpa [bind, Except.bind, hc] using hcheck
  | ok u =>
    cases e with
    | file bytes m | link target => simp [bind, Except.bind, enter, directoryMode, hl]
    | directory m =>
      simp only [bind, Except.bind, enter, directoryMode_eq_ok.2 hl]
      by_cases hs : d.maySearch m <;> by_cases hlen : Path.nameLimit < n.length <;> simp [hs, hlen, pure, Except.pure]

/-- A directory is made at the end of a path where nothing is, or nothing happens. -/
theorem makeDirectory_vacant {p : Path} {before : List Name} {n : Name} {l : Location} {m : Mode}
    (hsteps : p.steps = before ++ [n]) (hn : Path.IsName n)
    (hw : d.walk .whole linkLimit (d.start p) before = .ok l) (hl : d.get? l = some (.directory m))
    (hvacant : d.get? (l ++ [n]) = none) :
    (∃ m', d.enter l = .ok m' ∧ n.length ≤ Path.nameLimit ∧
      d.makeDirectory p = .ok (d.put (l ++ [n]) (.directory Mode.newDirectory))) ∨
    ∃ c, c ≠ .notFound ∧ d.makeDirectory p = .error c ∧ d.isDirectory p = false := by
  have hnowhere : d.isDirectory p = false := by
    rw [Bool.eq_false_iff]
    intro hdir
    obtain ⟨l', _, hl', _⟩ := isDirectory_eq_true.1 hdir
    obtain ⟨_, hwalk⟩ := locate_eq_ok.1 hl'
    rw [p.names_eq, hsteps, List.append_assoc] at hwalk
    obtain ⟨l₁, k, hl₁, hk⟩ := walk_left hwalk
    cases hw.symm.trans hl₁
    obtain ⟨l₂, k', hl₂, _⟩ := walk_left hk
    rw [walk, leg_name hn] at hl₂
    cases hm : d.enter l with
    | error c => simp [hm] at hl₂
    | ok m' => by_cases hlen : Path.nameLimit < n.length <;> simp [hm, hvacant, hlen] at hl₂
  have hbytes : p.bytes.isEmpty = false := by
    rw [Bool.eq_false_iff, Ne, List.isEmpty_iff]
    intro hnil
    simp [Path.steps, hnil, Path.parts] at hsteps
  rw [makeDirectory, approach_steps d hsteps hn, hw]
  cases hc : checkPath p with
  | error c =>
    refine .inr ⟨c, ?_, rfl, hnowhere⟩
    rintro rfl
    unfold checkPath at hc
    rw [hbytes] at hc
    split at hc
    · cases hc
    · simp only [Bool.false_eq_true, if_false] at hc
      split at hc <;> cases hc
  | ok u =>
    simp only [bind, Except.bind, enter, directoryMode_eq_ok.2 hl]
    by_cases hs : d.maySearch m = true
    · by_cases hlen : Path.nameLimit < n.length
      · exact .inr ⟨.nameTooLong, by simp, by simp [hs, hlen], hnowhere⟩
      · by_cases hchange : d.mayChange m = true
        · exact .inl ⟨m, by simp [hs], Nat.le_of_not_lt hlen, by simp [hs, hlen, hvacant, hchange, pure, Except.pure]⟩
        · exact .inr ⟨.denied, by simp, by simp [hs, hlen, hvacant, hchange, pure, Except.pure], hnowhere⟩
    · exact .inr ⟨.denied, by simp, by simp [hs], hnowhere⟩

theorem components_of_steps {p : Path} {before : List Name} {n : Name} (hsteps : p.steps = before ++ [n]) :
    p.components.isEmpty = false := by
  rw [Bool.eq_false_iff]
  intro hempty
  simp [Path.steps, Path.bytes_of_components hempty, Path.parts] at hsteps

theorem makeDirectoriesFrom_vacant (fuel : Nat) {p : Path} {before : List Name} {n : Name} {l : Location} {m : Mode}
    (hsteps : p.steps = before ++ [n]) (hn : Path.IsName n)
    (hw : d.walk .whole linkLimit (d.start p) before = .ok l) (hl : d.get? l = some (.directory m))
    (hvacant : d.get? (l ++ [n]) = none) :
    (∃ m', d.enter l = .ok m' ∧ n.length ≤ Path.nameLimit ∧
      makeDirectoriesFrom (fuel + 1) d p = (.ok (), d.put (l ++ [n]) (.directory Mode.newDirectory))) ∨
    ∃ c, makeDirectoriesFrom (fuel + 1) d p = (.error c, d) := by
  rw [makeDirectoriesFrom, components_of_steps hsteps]
  simp only [Bool.false_eq_true, if_false]
  rcases makeDirectory_vacant hsteps hn hw hl hvacant with ⟨m', hm', hlen, hmake⟩ | ⟨c, hc, hmake, hdir⟩
  · exact .inl ⟨m', hm', hlen, by rw [hmake]⟩
  · refine .inr ⟨c, ?_⟩
    rw [hmake]
    split
    · next h => cases h
    · next h => exact (hc (Except.error.inj h)).elim
    · next c' _ h =>
      cases h
      rw [hdir]
      rfl

/-- A directory is made at the end of its path, or is there already, or nothing happens. -/
theorem makeDirectories_join {q : Path} {n : Name} (hn : Path.IsName n)
    (hfound : d.approach (q.join ⟨n⟩) ≠ .error .notFound) :
    (∃ l m, d.approach (q.join ⟨n⟩) = .ok ⟨l, m, some n, false⟩ ∧ d.get? (l ++ [n]) = none ∧
      d.makeDirectories (q.join ⟨n⟩) = (.ok (), d.put (l ++ [n]) (.directory Mode.newDirectory))) ∨
    (d.isDirectory (q.join ⟨n⟩) = true ∧ d.makeDirectories (q.join ⟨n⟩) = (.ok (), d)) ∨
    ∃ c, d.makeDirectories (q.join ⟨n⟩) = (.error c, d) := by
  rw [makeDirectories, makeDirectoriesFrom, components_of_steps (q.steps_join hn)]
  simp only [Bool.false_eq_true, if_false]
  split
  · next d' h =>
    obtain ⟨a, k, ha, hk, _, _, hvacant, rfl⟩ := makeDirectory_eq_ok h
    obtain ⟨l, m, _, _, _, _, rfl⟩ := (approach_join_eq_ok hn).1 ha
    cases hk
    exact .inl ⟨l, m, ha, hvacant, rfl⟩
  · next h => exact (hfound (approach_of_makeDirectory h)).elim
  · next c _ h =>
    split
    · next hdir => exact .inr (.inl ⟨hdir, rfl⟩)
    · exact .inr (.inr ⟨c, rfl⟩)

end Disk

end Retarget
