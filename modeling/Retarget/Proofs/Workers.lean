import Retarget.Proofs.FileSteps

/-!
# Workers

The work on a file goes on step by step, on a disk that others may work on as well. A step changes the temporary file
and the place of the file at most, and what comes of the work stays the same as long as the disk gives the same answers.

* `Stage`, `Stage.next`: how far the work on a file has come, and the next step,
* `Stage.result`: what comes of it,
* `Stage.Effect`: what a step may change,
* `Stage.next_effect`: every step has such an effect.
-/

namespace Retarget

open Disk

/-! ## Stages -/

/-- How far the work on a file has come. -/
inductive Stage
  | ready (script : Script)
  | writing (phase : Phase) (temp : Location) (bytes : Bytes) (mode : Option Mode) (outcome : FileOutcome)
    (refused : Refusal → Script)
  /-- The temporary file is no longer needed. -/
  | discarding (temp : Location) (script : Script)

namespace Stage

/-- The temporary file that there is. -/
def temp? : Stage → Option Location
  | ready _ => none
  | writing _ temp _ _ _ _ => some temp
  | discarding temp _ => some temp

/-- The outcome of the file, when all is done. -/
def outcome? : Stage → Option FileOutcome
  | ready (.done outcome) => some outcome
  | _ => none

theorem eq_of_outcome? {st : Stage} (h : st.outcome? ≠ none) : ∃ outcome, st = ready (.done outcome) := by
  unfold outcome? at h
  split at h
  · next outcome => exact ⟨outcome, rfl⟩
  · exact (h rfl).elim

/-- Take the next step. The name is for a temporary file, should one be made. -/
def next (input dest : Path) (name : Name) (d : Disk) : Stage → Stage × Disk
  | ready (.done outcome) => (ready (.done outcome), d)
  | ready (.read next) => (ready (next (d.read input)), d)
  | ready (.findMode next) => (ready (next (d.modeOf? input)), d)
  | ready (.write bytes m outcome refused) =>
    match d.createPlace (folderOf dest) with
    | .error r => (ready (refused r), d)
    | .ok l => (writing .fill (l ++ [name]) bytes m outcome refused, d.put (l ++ [name]) (.file [] Mode.temporary))
  | writing .fill temp bytes m outcome refused =>
    match d.fill temp bytes with
    | .error c => (discarding temp (refused ⟨c, none⟩), d)
    | .ok d => (writing .sync temp bytes m outcome refused, d)
  | writing .sync temp bytes m outcome refused =>
    match d.allows .sync with
    | .error c => (discarding temp (refused ⟨c, none⟩), d)
    | .ok _ => (writing .setMode temp bytes m outcome refused, d)
  | writing .setMode temp bytes m outcome refused =>
    match d.setMode temp bytes m with
    | .error c => (discarding temp (refused ⟨c, none⟩), d)
    | .ok d => (writing .rename temp bytes m outcome refused, d)
  | writing .rename temp _ _ outcome refused =>
    match d.rename temp dest with
    | .error c => (discarding temp (refused ⟨c, none⟩), d)
    | .ok d => (ready (.done outcome), d)
  | discarding temp script => (ready script, d.erase temp)

/-- What comes of a stage, on a disk that nobody else works on. -/
def result (d : Disk) (input dest : Path) : Stage → FileOutcome × Option Entry
  | ready script => script.result d input dest
  | writing phase _ bytes m outcome refused =>
    match d.remaining dest bytes m phase with
    | .ok _ => (outcome, some (.file bytes (writtenMode m)))
    | .error c => (refused ⟨c, none⟩).result d input dest
  | discarding _ script => script.result d input dest

end Stage

/-- A temporary file before a phase. -/
def Phase.draft (bytes : Bytes) (m : Option Mode) : Phase → Entry
  | .fill => .file [] Mode.temporary
  | .sync | .setMode => .file bytes Mode.temporary
  | .rename => .file bytes (writtenMode m)

/-- The temporary file of a stage is as it should be. -/
def Stage.Holds (d : Disk) : Stage → Prop
  | .ready _ => True
  | .writing phase temp bytes m _ _ => d.get? temp = some (phase.draft bytes m)
  | .discarding temp _ => ∃ bytes m, d.get? temp = some (.file bytes m)

theorem Stage.Holds.file {d : Disk} {st : Stage} {temp : Location} (h : st.Holds d) (ht : st.temp? = some temp) :
    ∃ bytes m, d.get? temp = some (.file bytes m) := by
  cases st with
  | ready script => cases ht
  | writing phase t bytes m outcome refused =>
    cases ht
    cases phase <;> exact ⟨_, _, h⟩
  | discarding t script =>
    cases ht
    exact h

theorem Stage.Holds.congr {d d' : Disk} {st : Stage} (h : st.Holds d)
    (hk : ∀ k, st.temp? = some k → d'.get? k = d.get? k) : st.Holds d' := by
  cases st with
  | ready script => trivial
  | writing phase temp bytes m outcome refused => exact (hk temp rfl).trans h
  | discarding temp script =>
    obtain ⟨bytes, m, hfile⟩ := h
    exact ⟨bytes, m, (hk temp rfl).trans hfile⟩

/-! ## One step -/

/-- What a step may change: the temporary file and the place of the file. The result stays the same, up to the step
that puts the file at its place. -/
structure Stage.Effect (start : Disk) (input dest : Path) (place : Location) (names : List Name) (d : Disk) (st : Stage)
    (d' : Disk) (st' : Stage) : Prop where
  wellFormed : d'.WellFormed
  current : d'.current = d.current
  privileged : d'.privileged = d.privileged
  refuses : d'.refuses = d.refuses
  frame : ∀ k, st.temp? ≠ some k → st'.temp? ≠ some k → k ≠ place → d'.get? k = d.get? k
  gone : ∀ k, st.temp? = some k → st'.temp? ≠ some k → d'.get? k = none
  temp : ∀ k, st'.temp? = some k → st.temp? = some k ∨ d.get? k = none ∧ ∃ l n, k = l ++ [n] ∧ n ∉ names
  holds : st'.Holds d'
  result : (st'.result start input dest = st.result start input dest ∧ d'.get? place = d.get? place) ∨
    ∃ outcome e, st' = .ready (.done outcome) ∧ st.result start input dest = (outcome, some e) ∧
      d'.get? place = some e ∧ ∀ m, start.get? place ≠ some (.directory m)

section Step

variable {start d : Disk} {input dest : Path} {place : Location} {names : List Name} {name : Name} {st : Stage}

/-- A name that a temporary file may get. -/
structure IsFresh (d : Disk) (dest : Path) (names : List Name) (name : Name) : Prop where
  isName : Path.IsName name
  new : name ∉ names
  vacant : ∀ l, d.createPlace (folderOf dest) = .ok l → d.get? (l ++ [name]) = none

theorem createPlace_directory {folder : Path} {l : Location} (h : d.createPlace folder = .ok l) :
    ∃ m, d.get? l = some (.directory m) := by
  unfold createPlace at h
  have hfound := mapError_eq_ok.1 h
  obtain ⟨_, _, hfound⟩ := bind_eq_ok.1 hfound
  obtain ⟨l', _, hfound⟩ := bind_eq_ok.1 hfound
  obtain ⟨m, hm, hfound⟩ := bind_eq_ok.1 hfound
  simp only at hfound
  split at hfound
  · cases hfound
  · obtain ⟨_, _, hfound⟩ := bind_eq_ok.1 hfound
    cases hfound
    exact ⟨m, enter_directory hm⟩

/-- The work is in order if the disk answers as it did in the beginning, and the temporary file is one of its own. -/
structure Stage.InOrder (start : Disk) (input dest : Path) (place : Location) (names : List Name) (d : Disk)
    (st : Stage) : Prop where
  alike : Alike input dest start d
  wellFormed : d.WellFormed
  holds : st.Holds d
  named : ∃ l n, place = l ++ [n] ∧ n ∈ names
  temp : ∀ k, st.temp? = some k → ∃ l n, k = l ++ [n] ∧ n ∉ names
  target : ∀ l, start.target dest = .ok l → l = place

namespace Stage.InOrder

variable {st' : Stage} {temp : Location} {bytes : Bytes} {m : Option Mode} {outcome : FileOutcome}
  {refused : Refusal → Script}

theorem ne_place (h : st.InOrder start input dest place names d) {l : Location} {n : Name} (hn : n ∉ names) :
    l ++ [n] ≠ place := by
  obtain ⟨l', n', he, hn'⟩ := h.named
  intro heq
  obtain ⟨_, hlast⟩ := List.append_inj' (heq.trans he) rfl
  cases hlast
  exact hn hn'

/-- The temporary file is not at the place of the file. -/
theorem away (h : st.InOrder start input dest place names d) (ht : st.temp? = some temp) :
    temp ≠ [] ∧ temp ≠ place := by
  obtain ⟨l, n, rfl, hn⟩ := h.temp temp ht
  exact ⟨by simp, h.ne_place hn⟩

/-- A step that only asks something. -/
theorem quiet (h : st.InOrder start input dest place names d) (htemp : st'.temp? = st.temp?) (hholds : st'.Holds d)
    (hresult : st'.result start input dest = st.result start input dest) :
    Stage.Effect start input dest place names d st d st' where
  wellFormed := h.wellFormed
  current := rfl
  privileged := rfl
  refuses := rfl
  frame _ _ _ _ := rfl
  gone _ hk hnot := (hnot (htemp.trans hk)).elim
  temp _ hk := .inl (htemp ▸ hk)
  holds := hholds
  result := .inl ⟨hresult, rfl⟩

/-- A step that changes the temporary file. -/
theorem put {bytes : Bytes} {m : Mode} (h : st.InOrder start input dest place names d) (hst : st.temp? = some temp)
    (hst' : st'.temp? = some temp) (hholds : st'.Holds (d.put temp (.file bytes m)))
    (hresult : st'.result start input dest = st.result start input dest) :
    Stage.Effect start input dest place names d st (d.put temp (.file bytes m)) st' where
  wellFormed := by
    obtain ⟨bytes', m', hfile⟩ := h.holds.file hst
    obtain ⟨l, n, rfl, _⟩ := h.temp temp hst
    obtain ⟨mode, hdir⟩ := h.wellFormed.parent hfile
    exact h.wellFormed.put hdir (h.wellFormed.isName hfile n (by simp)) (by simp [hfile])
  current := put_current ..
  privileged := put_privileged ..
  refuses := put_refuses ..
  frame k hk _ _ := by
    rw [get?_put d (h.away hst).1, if_neg]
    rintro rfl
    exact hk hst
  gone _ hk hnot := (hnot (by rw [hst', ← hk, hst])).elim
  temp _ hk := .inl (by rw [hst, ← hk, hst'])
  holds := hholds
  result := .inl ⟨hresult, by rw [get?_put d (h.away hst).1, if_neg (h.away hst).2.symm]⟩

/-- The temporary file is made. -/
theorem create {l : Location}
    (h : (Stage.ready (.write bytes m outcome refused)).InOrder start input dest place names d)
    (hcreate : d.createPlace (folderOf dest) = .ok l) (hfresh : IsFresh d dest names name) :
    Stage.Effect start input dest place names d (.ready (.write bytes m outcome refused))
      (d.put (l ++ [name]) (.file [] Mode.temporary)) (.writing .fill (l ++ [name]) bytes m outcome refused) := by
  have hvacant := hfresh.vacant l hcreate
  obtain ⟨mode, hdir⟩ := createPlace_directory hcreate
  refine ⟨h.wellFormed.put hdir hfresh.isName (by simp [hvacant]), put_current .., put_privileged .., put_refuses ..,
    fun k _ hk _ => ?frame, by simp [temp?], fun k hk => ?temp, ?holds, .inl ⟨?result, ?place⟩⟩
  case frame =>
    rw [get?_put d (by simp), if_neg]
    rintro rfl
    exact hk rfl
  case temp =>
    cases hk
    exact .inr ⟨hvacant, l, name, rfl, hfresh.new⟩
  case holds =>
    show (d.put (l ++ [name]) _).get? (l ++ [name]) = _
    rw [get?_put d (by simp), if_pos rfl]
    rfl
  case result =>
    have hmay : start.mayWrite dest bytes m = (start.remaining dest bytes m .fill).mapError fun c => ⟨c, none⟩ := by
      rw [mayWrite, ← h.alike.create, hcreate]
      rfl
    simp only [Stage.result, Script.result, hmay]
    cases start.remaining dest bytes m .fill <;> rfl
  case place => rw [get?_put d (by simp), if_neg (h.ne_place hfresh.new).symm]

/-- The temporary file is removed. -/
theorem discard {script : Script} (h : (Stage.discarding temp script).InOrder start input dest place names d) :
    Stage.Effect start input dest place names d (.discarding temp script) (d.erase temp) (.ready script) := by
  obtain ⟨hne, hplace⟩ := h.away rfl
  obtain ⟨bytes, m, hfile⟩ := h.holds
  refine ⟨h.wellFormed.erase hne fun n => h.wellFormed.vacant_below (by simp [hfile]) (by simp), rfl, rfl, rfl,
    fun k hk _ _ => ?frame, fun k hk _ => ?gone, by simp [temp?], trivial, .inl ⟨rfl, ?place⟩⟩
  case frame =>
    rw [get?_erase d hne, if_neg]
    rintro rfl
    exact hk rfl
  case gone =>
    cases hk
    rw [get?_erase d hne, if_pos rfl]
  case place => rw [get?_erase d hne, if_neg hplace.symm]

/-- The file is put at its place. -/
theorem move (h : (Stage.writing .rename temp bytes m outcome refused).InOrder start input dest place names d)
    (htarget : start.target dest = .ok place) :
    Stage.Effect start input dest place names d (.writing .rename temp bytes m outcome refused)
      ((d.erase temp).put place (.file bytes (writtenMode m))) (.ready (.done outcome)) := by
  obtain ⟨hne, hplace⟩ := h.away rfl
  have hfile : d.get? temp = some (.file bytes (writtenMode m)) := h.holds
  obtain ⟨⟨l, n, mode, hl, hn, hdir⟩, hfree⟩ := target_spec (h.alike.target.trans htarget)
  have hget : ∀ k, ((d.erase temp).put place (.file bytes (writtenMode m))).get? k =
      if k = place then some (.file bytes (writtenMode m)) else if k = temp then none else d.get? k := by
    intro k
    rw [get?_put _ (by simp [hl]), get?_erase d hne]
  refine ⟨?wellFormed, put_current .., put_privileged .., put_refuses .., fun k hk _ hk' => ?frame, fun k hk _ => ?gone,
    by simp [temp?], trivial,
    .inr ⟨outcome, .file bytes (writtenMode m), rfl, ?result, ?place, (target_spec htarget).2⟩⟩
  case wellFormed =>
    have herased := h.wellFormed.erase hne fun n => h.wellFormed.vacant_below (by simp [hfile]) (by simp)
    subst hl
    refine herased.put (m := mode) ?_ hn fun m' hm' => ?_
    · rw [get?_erase d hne, if_neg, hdir]
      rintro rfl
      rw [hfile] at hdir
      cases hdir
    · rw [get?_erase d hne, if_neg hplace.symm] at hm'
      exact hfree m' hm'
  case frame =>
    rw [hget, if_neg hk', if_neg]
    rintro rfl
    exact hk rfl
  case gone =>
    cases hk
    rw [hget, if_neg hplace, if_pos rfl]
  case result => simp only [Stage.result, remaining, htarget]
  case place => rw [hget, if_pos rfl]

end Stage.InOrder

/-- Every step has such an effect. -/
theorem Stage.next_effect (h : st.InOrder start input dest place names d) (hopen : st.outcome? = none)
    (hfresh : IsFresh d dest names name) :
    Stage.Effect start input dest place names d st (st.next input dest name d).2 (st.next input dest name d).1 := by
  have hallows := allows_congr h.alike.refuses
  -- What the disk answers now it has answered in the beginning, so the result takes the same way.
  cases st with
  | ready script =>
    cases script with
    | done outcome => cases hopen
    | read next =>
      refine h.quiet rfl trivial ?_
      show (next (d.read input)).result start input dest = _
      rw [h.alike.read]
      rfl
    | findMode next =>
      refine h.quiet rfl trivial ?_
      show (next (d.modeOf? input)).result start input dest = _
      rw [h.alike.mode]
      rfl
    | write bytes m outcome refused =>
      rw [next]
      cases hcreate : d.createPlace (folderOf dest) with
      | ok l => exact h.create hcreate hfresh
      | error r =>
        have hmay : start.mayWrite dest bytes m = .error r := by
          rw [mayWrite, ← h.alike.create, hcreate]
          rfl
        refine h.quiet rfl trivial ?_
        simp only [result, Script.result, hmay]
  | writing phase temp bytes m outcome refused =>
    have hrefused : ∀ c, start.remaining dest bytes m phase = .error c →
        Stage.Effect start input dest place names d (writing phase temp bytes m outcome refused) d
          (discarding temp (refused ⟨c, none⟩)) := by
      intro c hc
      refine h.quiet rfl (h.holds.file rfl) ?_
      simp only [result, hc]
    have hgoes : ∀ phase', start.remaining dest bytes m phase = start.remaining dest bytes m phase' →
        (writing phase' temp bytes m outcome refused).result start input dest =
          (writing phase temp bytes m outcome refused).result start input dest := by
      intro phase' he
      rw [result, result, he]
    have hput : ∀ e, (d.put temp e).get? temp = some e := fun e => by rw [get?_put d (h.away rfl).1, if_pos rfl]
    cases phase with
    | fill =>
      rw [next, fill, hallows]
      cases hfill : start.allows (.fill bytes) with
      | error c => exact hrefused c (by rw [remaining_fill, hfill]; rfl)
      | ok u => exact h.put rfl rfl (hput _) (hgoes .sync (by rw [remaining_fill, hfill]; rfl))
    | sync =>
      rw [next, hallows]
      cases hsync : start.allows .sync with
      | error c => exact hrefused c (by rw [remaining_sync, hsync]; rfl)
      | ok u => exact h.quiet rfl h.holds (hgoes .setMode (by rw [remaining_sync, hsync]; rfl))
    | setMode =>
      rw [next]
      cases m with
      | none => exact h.quiet rfl h.holds (hgoes .rename rfl)
      | some m =>
        rw [setMode, hallows]
        cases hmode : start.allows (.setMode m) with
        | error c => exact hrefused c (by rw [remaining_setMode, allowsMode, hmode]; rfl)
        | ok u => exact h.put rfl rfl (hput _) (hgoes .rename (by rw [remaining_setMode, allowsMode, hmode]; rfl))
    | rename =>
      rw [next, rename_eq, h.alike.target, entryAt_eq_ok.2 h.holds]
      cases htarget : start.target dest with
      | error c => exact hrefused c htarget
      | ok l =>
        obtain rfl := h.target l htarget
        exact h.move htarget
  | discarding temp script => exact h.discard

end Step

end Retarget
