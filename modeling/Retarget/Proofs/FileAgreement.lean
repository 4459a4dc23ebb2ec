import Retarget.Proofs.SingleFile

/-!
# Alone and in a tree

A file is converted on its own, where a refused write is an error, or as a file of a tree, where it is followed by
another try with the bytes of the input. On a disk that takes any bytes as readily as any others, the other try is in
vain, and both ways come to the same.

* `Disk.Impartial`: whether a file is written does not depend on its bytes,
* `transformFile_cases`: what becomes of a file of a tree that can be read,
* `convertFile_agrees`: both ways have the same outcome and the same effect.
-/

namespace Retarget

open Disk

variable {rules : List Rule} {d d' : Disk} {input output : Path} {w w' w₁ w₂ : Workbench} {bytes : Bytes} {m : Mode}

/-! ## Any bytes as readily as others -/

/-- Whether a file is written does not depend on its bytes. -/
def Disk.Impartial (d : Disk) : Prop :=
  ∀ dest m bytes bytes', (d.replaceFile dest bytes m).1.isOk = (d.replaceFile dest bytes' m).1.isOk

/-- A disk is impartial if its device is. -/
theorem Disk.impartial_of_refuses
    (h : ∀ bytes bytes', d.refuses (.fill bytes) = none → d.refuses (.fill bytes') = none) : d.Impartial := by
  have hready : ∀ dest m bytes bytes', (d.replaceFile dest bytes m).1.isOk = true →
      (d.replaceFile dest bytes' m).1.isOk = true := by
    intro dest m bytes bytes' hok
    rcases d.replaceFile_cases dest bytes m with ⟨r, hput, _⟩ | ⟨place, _, hcreate, hfill, hmove⟩
    · rw [hput] at hok
      cases hok
    rcases d.replaceFile_cases dest bytes' m with ⟨r, _, hno⟩ | ⟨_, hput, _⟩
    · exact (hno place ⟨hcreate, ⟨h bytes bytes' hfill.1, hfill.2⟩, hmove⟩).elim
    · rw [hput]
      rfl
  intro dest m bytes bytes'
  exact Bool.eq_iff_iff.2 ⟨hready dest m bytes bytes', hready dest m bytes' bytes⟩

/-- Where some bytes are refused, all are. -/
theorem Disk.Impartial.refused (h : d.Impartial) {dest : Path} {mode : Option Mode} {r : Refusal}
    (hr : d.replaceFile dest bytes mode = (.error r, d')) (bytes' : Bytes) :
    ∃ r', d.replaceFile dest bytes' mode = (.error r', d) := by
  have hsame := h dest mode bytes bytes'
  rcases d.replaceFile_cases dest bytes' mode with ⟨r', hput, _⟩ | ⟨place, hput, _⟩
  · exact ⟨r', hput⟩
  · rw [hr, hput] at hsame
    cases hsame

/-! ## Files of a tree -/

/-- A file that can be read yields something. -/
theorem Yields.of_read (rules : List Rule) (h : d.read input = .ok bytes) :
    ∃ outcome written m, Yields rules d input outcome written m := by
  obtain ⟨l, m, hl, hfile, hmay⟩ := read_eq_ok.1 h
  rcases convertBytes_cases rules bytes with ⟨f, hf, _⟩ | ⟨text, c, htext, hc, _⟩
  · exact ⟨_, _, m, .notText hl hfile hmay hf⟩
  · exact ⟨_, _, m, .text hl hfile hmay htext hc⟩

theorem modeOf?_of_file {l : Location} (hl : d.locate input = .ok l) (hfile : d.get? l = some (.file bytes m)) :
    d.modeOf? input = some m := by
  rw [modeOf?, metadata_eq_ok.2 ⟨l, _, hl, hfile, rfl⟩]
  rfl

/-- A file that can be read is copied, or the copy is refused. -/
theorem copyFile_cases {reason : CopyReason} {o : FileOutcome} (hread : w.disk.read input = .ok bytes)
    (hmode : w.disk.modeOf? input = some m) (h : copyFile input output reason w = (o, w')) :
    (o = .copied reason ∧ w.disk.replaceFile output bytes (some m) = (.ok (), w'.disk)) ∨
    (∃ r, w.disk.replaceFile output bytes (some m) = (.error r, w.disk)) ∧ o.isFailed = true ∧ w'.disk = w.disk := by
  unfold copyFile copyWhole at h
  simp only [Job.bind_apply, Job.act_apply, hread, hmode] at h
  rcases w.disk.replaceFile_cases output bytes (some m) with ⟨r, hput, _⟩ | ⟨place, hput, _⟩
  · rw [hput] at h
    cases h
    exact .inr ⟨⟨r, hput⟩, rfl, rfl⟩
  · rw [hput] at h
    cases h
    exact .inl ⟨rfl, hput⟩

/-- What a file yields is written; or that is refused, and then the file itself is written in its place or the file
fails. -/
theorem transformFile_cases {outcome o : FileOutcome} (hy : Yields rules w.disk input outcome bytes m)
    (h : transformFile rules input output w = (o, w')) :
    (o = outcome ∧ w.disk.replaceFile output bytes (some m) = (.ok (), w'.disk)) ∨
    (∃ r, w.disk.replaceFile output bytes (some m) = (.error r, w.disk)) ∧
      ((∃ source, w.disk.replaceFile output source (some m) = (.ok (), w'.disk)) ∨
        o.isFailed = true ∧ w'.disk = w.disk) := by
  unfold transformFile at h
  cases hy with
  | @notText l source m f hl hfile hmay htext =>
    have hread := read_eq_ok.2 ⟨l, m, hl, hfile, hmay⟩
    simp only [Job.bind_apply, Job.ask_apply, hread, convertBytes, htext] at h
    rcases copyFile_cases (w := (Job.noteFallback input _ w).2) hread (modeOf?_of_file hl hfile) h with
      hcopied | ⟨hrefused, hfailed⟩
    · exact .inl hcopied
    · exact .inr ⟨hrefused, .inr hfailed⟩
  | @text l source m text c hl hfile hmay htext hconvert =>
    have hread := read_eq_ok.2 ⟨l, m, hl, hfile, hmay⟩
    have hmode := modeOf?_of_file hl hfile
    simp only [Job.bind_apply, Job.ask_apply, hread, convertBytes, htext, hconvert, hmode, Job.write,
      Job.act_apply] at h
    rcases w.disk.replaceFile_cases output (Text.encode c.text) (some m) with ⟨r, hput, _⟩ | ⟨place, hput, _⟩
    · rw [hput] at h
      refine .inr ⟨⟨r, hput⟩, ?_⟩
      rcases copyFile_cases (w := (Job.noteFallback input _ w).2) hread hmode h with ⟨_, hcopied⟩ | ⟨_, hfailed⟩
      · exact .inl ⟨source, hcopied⟩
      · exact .inr hfailed
    · rw [hput] at h
      cases h
      exact .inl ⟨rfl, hput⟩

/-! ## Both ways -/

theorem Yields.not_failed {outcome : FileOutcome} (h : Yields rules d input outcome bytes m) :
    outcome.isFailed = false := by
  cases h <;> rfl

/-- **A file is converted alike on its own and in a tree.** If the input can be read, and the disk takes any bytes as
readily as others:

* a conversion on its own succeeds with an outcome exactly if the file of a tree is converted or copied with that
  outcome,
* it fails exactly if the file of a tree fails, and then both leave the disk as it was,
* the disk is the same after both. -/
theorem convertFile_agrees {r : Except ConvertError FileOutcome} {o : FileOutcome} (hd : w.disk.Impartial)
    (hread : w.disk.read input = .ok bytes) (halone : (convertFile rules input output).run w = (r, w₁))
    (htree : transformFile rules input output w = (o, w₂)) :
    (∀ outcome, r = .ok outcome ↔ o = outcome ∧ (outcome.isConverted || outcome.isCopied) = true) ∧
    ((∃ e, r = .error e) ↔ o.isFailed = true) ∧
    w₁.disk = w₂.disk ∧
    (o.isFailed = true → w₁.disk = w.disk ∧ w₂.disk = w.disk) := by
  obtain ⟨outcome, written, m, hy⟩ := Yields.of_read rules hread
  rcases convertFile_cases halone with ⟨_, _, hnone⟩ | ⟨outcome', written', m', hy', hdisk, hr⟩
  · exact (hnone outcome written m hy).elim
  obtain ⟨rfl, rfl, rfl⟩ := hy.unique hy'
  rcases transformFile_cases hy htree with ⟨rfl, hput⟩ | ⟨⟨refusal, hput⟩, hagain⟩
  · rw [hput] at hdisk hr
    obtain rfl : r = .ok o := hr
    have hfailed := hy.not_failed
    have hkind : (o.isConverted || o.isCopied) = true := by cases hy <;> rfl
    refine ⟨fun outcome => ⟨fun h => ?_, fun h => h.1 ▸ rfl⟩, by simp [hfailed], hdisk, by simp [hfailed]⟩
    cases h
    exact ⟨rfl, hkind⟩
  · rw [hput] at hdisk hr
    obtain rfl : r = .error (.io output refusal) := hr
    rcases hagain with ⟨source, hsource⟩ | ⟨hfailed, hsame⟩
    · obtain ⟨refusal', hrefused⟩ := hd.refused hput source
      cases hsource.symm.trans hrefused
    · have hkind : (o.isConverted || o.isCopied) = false := by
        cases o with
        | failed error => rfl
        | converted count hits | copied reason => cases hfailed
      refine ⟨fun outcome => ⟨fun h => (by cases h), fun ⟨ho, h⟩ => ?_⟩, by simp [hfailed],
        hdisk.trans hsame.symm, fun _ => ⟨hdisk, hsame⟩⟩
      cases (ho ▸ h).symm.trans hkind

/-- A file that is no text, and a directory that may not be changed. -/
def lockedCorner : Disk where
  privileged := false
  entries :=
    [([Text.encode "a.bin"], .file [0x74, 0xff] 0o640),
      ([Text.encode "b.bin"], .link (.ofString "a.bin")),
      ([Text.encode "shut"], .directory 0o555)]

/-- The file is copied in the place of a link, and it cannot be copied to the directory. -/
theorem convertFile_agrees_lockedCorner :
    lockedCorner.Impartial ∧ lockedCorner.read (.ofString "a.bin") = .ok [0x74, 0xff] ∧
    (∃ detail, ((convertFile [] (.ofString "a.bin") (.ofString "b.bin")).run { disk := lockedCorner }).1 =
        .ok (.copied (.fallback detail)) ∧
      (transformFile [] (.ofString "a.bin") (.ofString "b.bin") { disk := lockedCorner }).1 =
        .copied (.fallback detail)) ∧
    ((convertFile [] (.ofString "a.bin") (.ofString "b.bin")).run { disk := lockedCorner }).2.disk =
      (transformFile [] (.ofString "a.bin") (.ofString "b.bin") { disk := lockedCorner }).2.disk ∧
    (∃ e, ((convertFile [] (.ofString "a.bin") (.ofString "shut/b.bin")).run { disk := lockedCorner }).1 = .error e) ∧
    (transformFile [] (.ofString "a.bin") (.ofString "shut/b.bin") { disk := lockedCorner }).1.isFailed = true := by
  have hd : lockedCorner.Impartial := impartial_of_refuses fun _ _ h => h
  have hread : lockedCorner.read (.ofString "a.bin") = .ok [0x74, 0xff] := by decide +kernel
  obtain ⟨hlink, _, hdisk, _⟩ := @convertFile_agrees [] _ (.ofString "b.bin") { disk := lockedCorner } _ _ _ _ _ hd
    hread (Prod.eta _).symm (Prod.eta _).symm
  obtain ⟨_, hshut, _⟩ := @convertFile_agrees [] _ (.ofString "shut/b.bin") { disk := lockedCorner } _ _ _ _ _ hd hread
    (Prod.eta _).symm (Prod.eta _).symm
  have hfailed : (transformFile [] (.ofString "a.bin") (.ofString "shut/b.bin")
    { disk := lockedCorner }).1.isFailed = true := by decide +kernel
  have hcopied : (transformFile [] (.ofString "a.bin") (.ofString "b.bin") { disk := lockedCorner }).1 =
    .copied (.fallback "not valid UTF-8: invalid utf-8 sequence of 1 bytes from index 1") := by decide +kernel
  exact ⟨hd, hread, ⟨_, (hlink _).2 ⟨hcopied, rfl⟩, hcopied⟩, hdisk, hshut.2 hfailed, hfailed⟩

end Retarget
