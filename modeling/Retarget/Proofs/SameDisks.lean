import Mathlib.Data.List.Perm.Basic
import Retarget.Proofs.TreeWalk

/-!
# Disks with the same on them

Two disks may have the same on them in tables of different order. Nothing that is done to trees shows a difference.

* `Disk.Same`: the same at every place,
* `Disk.Same.members`: a directory is listed in the same way, since names are sorted,
* `Disk.Same.makeDirectories`: new directories are made in the same way.
-/

namespace Retarget.Disk

/-! ## Sorted names -/

theorem bytesLe_total (a b : Bytes) : bytesLe a b = true ∨ bytesLe b a = true := by
  fun_induction bytesLe a b with
  | case1 => exact .inl rfl
  | case2 => exact .inr rfl
  | case3 a as b bs ih =>
    by_cases hlt : a < b
    · exact .inl (by simp [hlt])
    · rcases UInt8.lt_or_eq_of_le (UInt8.not_lt.1 hlt) with hgt | rfl
      · exact .inr (by simp [bytesLe, hgt])
      · simpa [bytesLe] using ih

theorem bytesLe_antisymm {a b : Bytes} (h : bytesLe a b = true) (h' : bytesLe b a = true) : a = b := by
  fun_induction bytesLe a b with
  | case1 b =>
    cases b with
    | nil => rfl
    | cons b bs => cases h'
  | case2 => cases h
  | case3 a as b bs ih =>
    simp only [bytesLe, Bool.or_eq_true, decide_eq_true_eq, Bool.and_eq_true, beq_iff_eq] at h h'
    rcases h with h | ⟨rfl, h⟩
    · rcases h' with h' | ⟨rfl, _⟩
      · exact (UInt8.lt_asymm h h').elim
      · exact (UInt8.lt_irrefl _ h).elim
    · rcases h' with h' | ⟨_, h'⟩
      · exact (UInt8.lt_irrefl _ h').elim
      · rw [ih h h']

theorem bytesLe_trans {a b c : Bytes} (h : bytesLe a b = true) (h' : bytesLe b c = true) : bytesLe a c = true := by
  induction a generalizing b c with
  | nil => rfl
  | cons x a ih =>
    cases b with
    | nil => cases h
    | cons y b =>
      cases c with
      | nil => cases h'
      | cons z c =>
        simp only [bytesLe, Bool.or_eq_true, decide_eq_true_eq, Bool.and_eq_true, beq_iff_eq] at h h' ⊢
        rcases h with h | ⟨rfl, h⟩
        · rcases h' with h' | ⟨rfl, _⟩
          · exact .inl (UInt8.lt_trans h h')
          · exact .inl h
        · rcases h' with h' | ⟨rfl, h'⟩
          · exact .inl h'
          · exact .inr ⟨rfl, ih h h'⟩

theorem insertName_insertName {n m : Name} (h : bytesLe n m = true) (hne : n ≠ m) (ns : List Name) :
    insertName n (insertName m ns) = insertName m (insertName n ns) := by
  have hmn : bytesLe m n = false := by
    rw [Bool.eq_false_iff]
    exact fun h' => hne (bytesLe_antisymm h h')
  induction ns with
  | nil => simp [insertName, h, hmn]
  | cons k ns ih =>
    cases hm : bytesLe m k with
    | true => simp [insertName, hm, h, hmn, bytesLe_trans h hm]
    | false => cases hn : bytesLe n k <;> simp [insertName, hm, hn, hmn, ih]

/-- The order of names does not matter before they are sorted. -/
theorem sortNames_perm {ns ns' : List Name} (h : ns.Perm ns') : sortNames ns = sortNames ns' := by
  refine h.foldr_eq' (fun n _ m _ rest => ?_) []
  by_cases hne : n = m
  · rw [hne]
  · rcases bytesLe_total n m with hle | hle
    · exact (insertName_insertName hle hne rest).symm
    · exact insertName_insertName hle (Ne.symm hne) rest

/-! ## The same at every place -/

/-- Two disks have the same on them. -/
structure Same (d d' : Disk) : Prop where
  get : ∀ k, d'.get? k = d.get? k
  current : d'.current = d.current
  privileged : d'.privileged = d.privileged
  refuses : d'.refuses = d.refuses

namespace Same

variable {d d' : Disk}

theorem refl (d : Disk) : Same d d := ⟨fun _ => rfl, rfl, rfl, rfl⟩

variable (h : Same d d')
include h

theorem put {l : Location} (hl : l ≠ []) (e : Entry) : Same (d.put l e) (d'.put l e) where
  get k := by rw [get?_put d' hl, get?_put d hl, h.get]
  current := by rw [put_current, put_current, h.current]
  privileged := by rw [put_privileged, put_privileged, h.privileged]
  refuses := by rw [put_refuses, put_refuses, h.refuses]

theorem agreesAt (trail : List Location) : AgreesAt d d' trail := fun k _ => h.get k

theorem start (p : Path) : d'.start p = d.start p := by rw [Disk.start, Disk.start, h.current]

theorem walk (f : Follow) (links : Nat) (l : Location) (names : List Name) :
    d'.walk f links l names = d.walk f links l names :=
  walk_congr (h.agreesAt _) h.privileged

theorem locate (p : Path) : d'.locate p = d.locate p := locate_congr (h.agreesAt _) h.current h.privileged

theorem metadata (p : Path) : d'.metadata p = d.metadata p := by
  simp only [Disk.metadata, h.locate, entryAt, h.get]

theorem canonicalize (p : Path) : d'.canonicalize p = d.canonicalize p := by
  simp only [Disk.canonicalize, h.start, h.walk]

theorem approach (p : Path) : d'.approach p = d.approach p := by
  have henter : ∀ l, d'.enter l = d.enter l := fun l => enter_congr (h.get l) h.privileged
  simp only [Disk.approach, h.start, h.walk, henter]

theorem isDirectory (p : Path) : d'.isDirectory p = d.isDirectory p := by
  simp only [Disk.isDirectory, h.metadata]

/-- The names in a directory are the same, but for their order. -/
theorem names_perm (hd : d.WellFormed) (hd' : d'.WellFormed) (l : Location) : (d'.names l).Perm (d.names l) := by
  refine (List.perm_ext_iff_of_nodup (hd'.names_nodup l) (hd.names_nodup l)).2 fun n => ?_
  rw [mem_names, mem_names, h.get]

/-- A directory is listed in the same way. -/
theorem members (hd : d.WellFormed) (hd' : d'.WellFormed) (p : Path) : d'.members p = d.members p := by
  have hread : d'.mayRead = d.mayRead := mayRead_congr h.privileged
  have hmode : ∀ l, d'.directoryMode l = d.directoryMode l := fun l => directoryMode_congr (h.get l)
  simp only [Disk.members, sortedList, list, h.locate, hmode, hread, h.metadata]
  cases d.locate p with
  | error c => rfl
  | ok l =>
    simp only [bind, Except.bind]
    cases d.directoryMode l with
    | error c => rfl
    | ok m =>
      by_cases hmay : d.mayRead m = true
      · simp only [hmay, if_true, pure, Except.pure, sortNames_perm (h.names_perm hd hd' l)]
      · simp only [hmay, Bool.false_eq_true, if_false]

/-- A new directory is made at the same place, or not at all for the same reason. -/
theorem makeDirectory (p : Path) :
    (∃ c, d.makeDirectory p = .error c ∧ d'.makeDirectory p = .error c) ∨
    ∃ e e', d.makeDirectory p = .ok e ∧ d'.makeDirectory p = .ok e' ∧ Same e e' := by
  have hchange : d'.mayChange = d.mayChange := mayChange_congr h.privileged
  unfold Disk.makeDirectory
  rw [h.approach]
  cases d.approach p with
  | error c => exact .inl ⟨c, rfl, rfl⟩
  | ok a =>
    simp only [bind, Except.bind]
    cases a.name with
    | none => exact .inl ⟨_, rfl, rfl⟩
    | some n =>
      simp only [h.get, hchange]
      split
      · exact .inl ⟨_, rfl, rfl⟩
      · split
        · exact .inl ⟨_, rfl, rfl⟩
        · exact .inr ⟨_, _, rfl, rfl, h.put (by simp) _⟩

theorem ensureDirectory (p : Path) :
    (∃ c, d.ensureDirectory p = .error c ∧ d'.ensureDirectory p = .error c) ∨
    ∃ e e', d.ensureDirectory p = .ok e ∧ d'.ensureDirectory p = .ok e' ∧ Same e e' := by
  unfold Disk.ensureDirectory
  rw [h.isDirectory]
  rcases h.makeDirectory p with ⟨c, hc, hc'⟩ | ⟨e, e', he, he', hsame⟩
  · rw [hc, hc']
    by_cases hdir : d.isDirectory p = true
    · exact .inr ⟨d, d', by simp [hdir], by simp [hdir], h⟩
    · exact .inl ⟨c, by simp [hdir], by simp [hdir]⟩
  · rw [he, he']
    exact .inr ⟨e, e', rfl, rfl, hsame⟩

theorem makeDirectoriesFrom (fuel : Nat) (p : Path) :
    (Disk.makeDirectoriesFrom fuel d' p).1 = (Disk.makeDirectoriesFrom fuel d p).1 ∧
      Same (Disk.makeDirectoriesFrom fuel d p).2 (Disk.makeDirectoriesFrom fuel d' p).2 := by
  induction fuel generalizing p with
  | zero => exact ⟨rfl, h⟩
  | succ fuel ih =>
    unfold Disk.makeDirectoriesFrom
    by_cases hempty : p.components.isEmpty = true
    · rw [if_pos hempty, if_pos hempty]
      exact ⟨rfl, h⟩
    · rw [if_neg hempty, if_neg hempty]
      rcases h.makeDirectory p with ⟨c, hc, hc'⟩ | ⟨e, e', he, he', hsame⟩
      · rw [hc, hc', h.isDirectory]
        cases c with
        | notFound =>
          simp only
          cases p.parent? with
          | none => exact ⟨rfl, h⟩
          | some parent =>
            -- The parent is made on both disks first, and then the directory.
            obtain ⟨hresult, hsame⟩ := ih parent
            simp only
            rcases hmade : Disk.makeDirectoriesFrom fuel d parent with ⟨r, e⟩
            rcases hmade' : Disk.makeDirectoriesFrom fuel d' parent with ⟨r', e'⟩
            rw [hmade, hmade'] at hresult hsame
            obtain rfl : r' = r := hresult
            cases r' with
            | error c => exact ⟨rfl, hsame⟩
            | ok u =>
              simp only
              rcases hsame.ensureDirectory p with ⟨c, hc, hc'⟩ | ⟨e₁, e₁', he₁, he₁', hsame₁⟩
              · rw [hc, hc']
                exact ⟨rfl, hsame⟩
              · rw [he₁, he₁']
                exact ⟨rfl, hsame₁⟩
        | _ => exact ⟨rfl, h⟩
      · rw [he, he']
        exact ⟨rfl, hsame⟩

/-- Directories are made in the same way. -/
theorem makeDirectories (p : Path) : (d'.makeDirectories p).1 = (d.makeDirectories p).1 ∧
    Same (d.makeDirectories p).2 (d'.makeDirectories p).2 :=
  h.makeDirectoriesFrom _ p

end Same

end Retarget.Disk
