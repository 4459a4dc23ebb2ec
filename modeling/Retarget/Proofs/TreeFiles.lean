import Retarget.Convert.Tree
import Retarget.Proofs.Passes
import Retarget.Proofs.Writes

/-!
# Files of a tree

What becomes of a file of a tree, and what is written for it.

* `convertBytes_cases`: there is a conversion exactly of what is text,
* `Became`: the outcome of a file and the bytes of its counterpart, by what the disk has,
* `processFile_spec`: a file gets its counterpart, or fails and leaves nothing.
-/

namespace Retarget

/-! ## Jobs -/

namespace Job

variable {α β : Type}

@[simp] theorem bind_apply (x : Job α) (f : α → Job β) (w : Workbench) : (x >>= f) w = f (x w).1 (x w).2 := rfl

@[simp] theorem pure_apply (a : α) (w : Workbench) : (pure a : Job α) w = (a, w) := rfl

@[simp] theorem ask_apply (f : Disk → α) (w : Workbench) : ask f w = (f w.disk, w) := rfl

@[simp] theorem act_apply (f : Disk → α × Disk) (w : Workbench) :
    act f w = ((f w.disk).1, { w with disk := (f w.disk).2 }) := rfl

@[simp] theorem notice_disk (level : Level) (message : String) (fields : List (String × String)) (w : Workbench) :
    (notice level message fields w).2.disk = w.disk := rfl

/-- A job that may fail goes on after a result and stops at a failure. -/
theorem run_bind {ε : Type} (x : ExceptT ε Job α) (f : α → ExceptT ε Job β) (w : Workbench) :
    (x >>= f).run w = match x.run w with
      | (.ok a, w₁) => (f a).run w₁
      | (.error e, w₁) => (.error e, w₁) := by
  show (ExceptT.bindCont f (x.run w).1) (x.run w).2 = _
  rcases x.run w with ⟨_ | _, _⟩ <;> rfl

@[simp] theorem run_lift {ε : Type} (job : Job α) (w : Workbench) :
    (liftM job : ExceptT ε Job α).run w = (.ok (job w).1, (job w).2) := rfl

@[simp] theorem run_look {ε : Type} (f : Disk → α) (w : Workbench) :
    (look f : ExceptT ε Job α).run w = (.ok (f w.disk), w) := rfl

theorem run_orFail {ε ε' : Type} (job : Job (Except ε α)) (f : ε → ε') (w : Workbench) :
    (orFail job f).run w = ((job w).1.mapError f, (job w).2) := by
  unfold orFail
  rw [run_bind, run_lift]
  rcases job w with ⟨_ | _, _⟩ <;> rfl

/-- A failing job has failed in its first part, or in what follows it. -/
theorem run_bind_cases {ε : Type} {x : ExceptT ε Job α} {f : α → ExceptT ε Job β} {r : Except ε β}
    {w w' : Workbench} (h : (x >>= f).run w = (r, w')) :
    (∃ e, x.run w = (.error e, w') ∧ r = .error e) ∨ ∃ a w₁, x.run w = (.ok a, w₁) ∧ (f a).run w₁ = (r, w') := by
  rw [run_bind] at h
  rcases hx : x.run w with ⟨e | a, w₁⟩
  · rw [hx] at h
    cases h
    exact .inl ⟨e, rfl, rfl⟩
  · rw [hx] at h
    exact .inr ⟨a, w₁, rfl, h⟩

theorem run_orFail_ok {ε ε' : Type} {job : Job (Except ε α)} {w w₁ : Workbench} {a : α} (h : job w = (.ok a, w₁))
    (f : ε → ε') (g : α → ExceptT ε' Job β) : (orFail job f >>= g).run w = (g a).run w₁ := by
  rw [run_bind, run_orFail, h]
  rfl

theorem run_orFail_error {ε ε' : Type} {job : Job (Except ε α)} {w w₁ : Workbench} {e : ε}
    (h : job w = (.error e, w₁)) (f : ε → ε') (g : α → ExceptT ε' Job β) :
    (orFail job f >>= g).run w = (.error (f e), w₁) := by
  rw [run_bind, run_orFail, h]
  rfl

theorem run_orFail_cases {ε ε' : Type} {job : Job (Except ε α)} {f : ε → ε'} {g : α → ExceptT ε' Job β}
    {r : Except ε' β} {w w' : Workbench} (h : (orFail job f >>= g).run w = (r, w')) :
    (∃ e, (job w).1 = .error e ∧ r = .error (f e) ∧ w' = (job w).2) ∨
    ∃ a, (job w).1 = .ok a ∧ (g a).run (job w).2 = (r, w') := by
  rcases hj : job w with ⟨e | a, w₁⟩
  · rw [run_orFail_error hj] at h
    cases h
    exact .inl ⟨e, rfl, rfl, rfl⟩
  · rw [run_orFail_ok hj] at h
    exact .inr ⟨a, rfl, h⟩

end Job

/-! ## Conversions -/

/-- There is no conversion exactly of what is no text. -/
theorem convertBytes_cases (rules : List Rule) (bytes : Bytes) :
    (∃ f, Text.decode bytes = .error f ∧ convertBytes rules bytes = .error ("not valid UTF-8: " ++ f.message)) ∨
    ∃ text c, Text.decode bytes = .ok text ∧ convert rules text = .ok c ∧ convertBytes rules bytes = .ok c := by
  unfold convertBytes
  split
  · next f hf => exact .inl ⟨f, hf, rfl⟩
  · next text htext =>
    obtain ⟨c, hc⟩ := convert_total rules text
    exact .inr ⟨text, c, htext, hc, by rw [hc]⟩

/-! ## Outcomes -/

/-- The outcome of a file whose counterpart holds some bytes: it is copied if it is excluded, or else is no code, or
else is no text, or else cannot be written when converted; in all other cases it is converted. -/
inductive Became (rules : List Rule) (options : TreeOptions) (d : Disk) (input output relative : Path) :
    FileOutcome → Bytes → Prop
  | excluded {bytes : Bytes} (hex : options.exclude.isMatch relative = true) (hread : d.read input = .ok bytes) :
    Became rules options d input output relative (.copied .excluded) bytes
  | opaqueData {bytes : Bytes} (hex : options.exclude.isMatch relative = false)
    (hkind : FileKind.ofPath input = .opaqueData) (hread : d.read input = .ok bytes) :
    Became rules options d input output relative (.copied .opaqueData) bytes
  | notText {bytes : Bytes} {f : Text.Fault} (hex : options.exclude.isMatch relative = false)
    (hkind : FileKind.ofPath input = .transformable) (hread : d.read input = .ok bytes)
    (htext : Text.decode bytes = .error f) :
    Became rules options d input output relative (.copied (.fallback ("not valid UTF-8: " ++ f.message))) bytes
  | refused {bytes : Bytes} {text : String} {c : Conversion} {d₀ : Disk} {r : Refusal}
    (hex : options.exclude.isMatch relative = false) (hkind : FileKind.ofPath input = .transformable)
    (hread : d.read input = .ok bytes) (htext : Text.decode bytes = .ok text) (hconvert : convert rules text = .ok c)
    (hbefore : Disk.Extends d₀ d)
    (hwrite : d₀.replaceFile output (Text.encode c.text) (d₀.modeOf? input) = (.error r, d₀)) :
    Became rules options d input output relative (.copied (.fallback ("write failed: " ++ r.message))) bytes
  | converted {bytes : Bytes} {text : String} {c : Conversion} (hex : options.exclude.isMatch relative = false)
    (hkind : FileKind.ofPath input = .transformable) (hread : d.read input = .ok bytes)
    (htext : Text.decode bytes = .ok text) (hconvert : convert rules text = .ok c) :
    Became rules options d input output relative (.converted c.replacements c.hits) (Text.encode c.text)

variable {rules : List Rule} {options : TreeOptions} {input q relative : Path} {l : Location} {n : Name}
  {w : Workbench}

/-- An outcome stays right when a disk gets more on it. -/
theorem Became.mono {d d' : Disk} {output : Path} {outcome : FileOutcome} {bytes : Bytes} (h : Disk.Extends d d')
    (hb : Became rules options d input output relative outcome bytes) :
    Became rules options d' input output relative outcome bytes := by
  cases hb with
  | excluded hex hread => exact .excluded hex (Disk.read_mono h hread)
  | opaqueData hex hkind hread => exact .opaqueData hex hkind (Disk.read_mono h hread)
  | notText hex hkind hread htext => exact .notText hex hkind (Disk.read_mono h hread) htext
  | refused hex hkind hread htext hconvert hbefore hwrite =>
    exact .refused hex hkind (Disk.read_mono h hread) htext hconvert (hbefore.trans h) hwrite
  | converted hex hkind hread htext hconvert => exact .converted hex hkind (Disk.read_mono h hread) htext hconvert

/-- A copy is made of the bytes of a file, or the file fails. -/
theorem copyFile_spec {reason : CopyReason} {outcome : FileOutcome} {w' : Workbench} (hq : w.disk.Leads q l)
    (hn : Path.IsName n) (h : copyFile input (q.join ⟨n⟩) reason w = (outcome, w')) :
    ((∃ error, outcome = .failed error) ∧ w'.disk = w.disk) ∨
    ∃ bytes, w.disk.read input = .ok bytes ∧ outcome = .copied reason ∧ Disk.FilePut w.disk l n bytes w'.disk := by
  unfold copyFile Disk.copyWhole at h
  simp only [Job.bind_apply, Job.act_apply] at h
  cases hread : w.disk.read input with
  | error c =>
    simp only [hread] at h
    cases h
    exact .inl ⟨⟨_, rfl⟩, rfl⟩
  | ok bytes =>
    simp only [hread] at h
    rcases Disk.replaceFile_join hq hn bytes (w.disk.modeOf? input) with ⟨r, hr⟩ | ⟨d', hd', hput⟩
    · simp only [hr] at h
      cases h
      exact .inl ⟨⟨_, rfl⟩, rfl⟩
    · simp only [hd'] at h
      cases h
      exact .inr ⟨bytes, rfl, rfl, hput⟩

/-- A file whose conversion fails is copied for that reason, or fails. -/
theorem fallBack_spec {reason : String} {outcome : FileOutcome} {w' : Workbench} (hq : w.disk.Leads q l)
    (hn : Path.IsName n) (h : fallBack input (q.join ⟨n⟩) reason w = (outcome, w')) :
    ((∃ error, outcome = .failed error) ∧ w'.disk = w.disk) ∨
    ∃ bytes, w.disk.read input = .ok bytes ∧ outcome = .copied (.fallback reason) ∧
      Disk.FilePut w.disk l n bytes w'.disk :=
  copyFile_spec (w := (Job.noteFallback input reason w).2) hq hn h

/-- Code is converted or copied with the right outcome, or fails. -/
theorem transformFile_spec {outcome : FileOutcome} {w' : Workbench} (hq : w.disk.Leads q l) (hn : Path.IsName n)
    (hex : options.exclude.isMatch relative = false) (hkind : FileKind.ofPath input = .transformable)
    (h : transformFile rules input (q.join ⟨n⟩) w = (outcome, w')) :
    ((∃ error, outcome = .failed error) ∧ w'.disk = w.disk) ∨
    ∃ bytes, Became rules options w.disk input (q.join ⟨n⟩) relative outcome bytes ∧
      Disk.FilePut w.disk l n bytes w'.disk := by
  unfold transformFile at h
  simp only [Job.bind_apply, Job.ask_apply] at h
  cases hread : w.disk.read input with
  | error c =>
    simp only [hread] at h
    rcases fallBack_spec hq hn h with h | ⟨bytes, hread', _⟩
    · exact .inl h
    · rw [hread] at hread'
      cases hread'
  | ok bytes =>
    simp only [hread] at h
    rcases convertBytes_cases rules bytes with ⟨f, hf, hb⟩ | ⟨text, c, htext, hc, hb⟩
    · simp only [hb] at h
      rcases fallBack_spec hq hn h with h | ⟨bytes', hread', ho, hput⟩
      · exact .inl h
      · cases hread.symm.trans hread'
        exact .inr ⟨bytes, ho ▸ .notText hex hkind hread hf, hput⟩
    · simp only [hb, Job.bind_apply, Job.ask_apply, Job.write, Job.act_apply] at h
      rcases Disk.replaceFile_join hq hn (Text.encode c.text) (w.disk.modeOf? input) with ⟨r, hr⟩ | ⟨d', hd', hput⟩
      · simp only [hr] at h
        rcases fallBack_spec hq hn h with h | ⟨bytes', hread', ho, hput⟩
        · exact .inl h
        · cases hread.symm.trans hread'
          exact .inr ⟨bytes, ho ▸ .refused hex hkind hread htext hc (.refl _) hr, hput⟩
      · simp only [hd'] at h
        cases h
        exact .inr ⟨_, .converted hex hkind hread htext hc, hput⟩

/-- A file gets its counterpart, with the right outcome, or fails and leaves the disk as it is. -/
theorem processFile_spec {outcome : FileOutcome} {w' : Workbench} (hq : w.disk.Leads q l) (hn : Path.IsName n)
    (h : processFile rules options input (q.join ⟨n⟩) relative w = (outcome, w')) :
    ((∃ error, outcome = .failed error) ∧ w'.disk = w.disk) ∨
    ∃ bytes, Became rules options w.disk input (q.join ⟨n⟩) relative outcome bytes ∧
      Disk.FilePut w.disk l n bytes w'.disk := by
  unfold processFile at h
  cases hex : options.exclude.isMatch relative with
  | true =>
    simp only [hex, if_true] at h
    rcases copyFile_spec hq hn h with h | ⟨bytes, hread, ho, hput⟩
    · exact .inl h
    · exact .inr ⟨bytes, ho ▸ .excluded hex hread, hput⟩
  | false =>
    simp only [hex, Bool.false_eq_true, if_false] at h
    cases hkind : FileKind.ofPath input with
    | transformable =>
      simp only [hkind] at h
      exact transformFile_spec hq hn hex hkind h
    | opaqueData =>
      simp only [hkind] at h
      rcases copyFile_spec hq hn h with h | ⟨bytes, hread, ho, hput⟩
      · exact .inl h
      · exact .inr ⟨bytes, ho ▸ .opaqueData hex hkind hread, hput⟩

end Retarget
