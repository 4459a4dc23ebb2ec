import Retarget.Convert.Converter
import Retarget.Proofs.TreeOutput

/-!
# Files on their own

The conversion of a single file is all or nothing. A conversion that fails leaves the disk as it was, whichever step
of it is refused, and one that succeeds changes the place at the end of the output path and nothing else.

* `Replaced`: a file stands at the end of a path, and all else is as before,
* `convertFile_cases`: the steps of a conversion,
* `convertFile_atomic`: all or nothing, and success exactly when no step is refused.
-/

namespace Retarget

open Disk

variable {rules : List Rule} {d d' : Disk} {input output : Path} {w w' : Workbench}

/-! ## What is written -/

/-- The outcome of a file on its own, with the bytes that are written for it and the permission bits of the file: a text
is converted, and anything else is copied. -/
inductive Yields (rules : List Rule) (d : Disk) (input : Path) : FileOutcome → Bytes → Mode → Prop
  | text {l : Location} {bytes : Bytes} {m : Mode} {text : String} {c : Conversion} (hl : d.locate input = .ok l)
    (hfile : d.get? l = some (.file bytes m)) (hmay : d.mayRead m = true) (htext : Text.decode bytes = .ok text)
    (hconvert : convert rules text = .ok c) :
    Yields rules d input (.converted c.replacements c.hits) (Text.encode c.text) m
  | notText {l : Location} {bytes : Bytes} {m : Mode} {f : Text.Fault} (hl : d.locate input = .ok l)
    (hfile : d.get? l = some (.file bytes m)) (hmay : d.mayRead m = true) (htext : Text.decode bytes = .error f) :
    Yields rules d input (.copied (.fallback ("not valid UTF-8: " ++ f.message))) bytes m

namespace Yields

variable {outcome outcome' : FileOutcome} {bytes bytes' : Bytes} {m m' : Mode}

/-- Only a file that can be read yields anything. -/
theorem file (h : Yields rules d input outcome bytes m) :
    ∃ l source, d.locate input = .ok l ∧ d.get? l = some (.file source m) ∧ d.mayRead m = true := by
  cases h with
  | text hl hfile hmay _ _ => exact ⟨_, _, hl, hfile, hmay⟩
  | notText hl hfile hmay _ => exact ⟨_, _, hl, hfile, hmay⟩

/-- A file yields one thing only. -/
theorem unique (h : Yields rules d input outcome bytes m) (h' : Yields rules d input outcome' bytes' m') :
    outcome = outcome' ∧ bytes = bytes' ∧ m = m' := by
  cases h with
  | text hl hfile _ htext hconvert =>
    cases h' with
    | text hl' hfile' _ htext' hconvert' =>
      cases hl.symm.trans hl'
      cases hfile.symm.trans hfile'
      cases htext.symm.trans htext'
      cases hconvert.symm.trans hconvert'
      exact ⟨rfl, rfl, rfl⟩
    | notText hl' hfile' _ htext' =>
      cases hl.symm.trans hl'
      cases hfile.symm.trans hfile'
      cases htext.symm.trans htext'
  | notText hl hfile _ htext =>
    cases h' with
    | text hl' hfile' _ htext' _ =>
      cases hl.symm.trans hl'
      cases hfile.symm.trans hfile'
      cases htext.symm.trans htext'
    | notText hl' hfile' _ htext' =>
      cases hl.symm.trans hl'
      cases hfile.symm.trans hfile'
      cases htext.symm.trans htext'
      exact ⟨rfl, rfl, rfl⟩

end Yields

/-! ## What has changed -/

/-- A file stands at the place where a path ended before, in the place of anything but a directory, and nothing else
has changed. A link at that place is gone, and what it led to is as before. -/
structure Replaced (d d' : Disk) (output : Path) (place : Location) (bytes : Bytes) (m : Mode) : Prop where
  ends : d.EndsAt output place
  noDirectory : ∀ m', d.get? place ≠ some (.directory m')
  written : d'.get? place = some (.file bytes m)
  frame : ∀ k, k ≠ place → d'.get? k = d.get? k
  current : d'.current = d.current
  privileged : d'.privileged = d.privileged
  refuses : d'.refuses = d.refuses
  /-- The path leads to the file, unless the way there went through a link at the very place. -/
  found : place ∉ d.trail .whole linkLimit (d.start output) output.steps.dropLast →
    d'.metadata output = .ok ⟨false, true, m⟩

/-- A path that ends at a file leads to it. -/
theorem metadata_of_walk {before : List Name} {l : Location} {n : Name} {mode m : Mode} {bytes : Bytes}
    (hc : checkPath output = .ok ()) (hnames : output.names = before ++ [n])
    (hw : d.walk .whole linkLimit (d.start output) before = .ok l) (hm : d.enter l = .ok mode) (hn : Path.IsName n)
    (hlen : n.length ≤ Path.nameLimit) (hfile : d.get? (l ++ [n]) = some (.file bytes m)) :
    d.metadata output = .ok ⟨false, true, m⟩ := by
  refine metadata_eq_ok.2 ⟨l ++ [n], _, locate_eq_ok.2 ⟨hc, ?_⟩, hfile, rfl⟩
  rw [hnames]
  exact walk_name hw hm hn hlen hfile (by simp)

/-- What is written where a file may be moved to. -/
theorem replaced_put {place : Location} {bytes : Bytes} {m : Mode} (h : d.MayMove output place) :
    Replaced d (d.put place (.file bytes m)) output place bytes m := by
  obtain ⟨a, n, ha, hn, hslash, rfl, _, hfree, _⟩ := h
  have hne : a.directory ++ [n] ≠ [] := by simp
  have hget : (d.put (a.directory ++ [n]) (.file bytes m)).get? (a.directory ++ [n]) = some (.file bytes m) := by
    rw [get?_put d hne, if_pos rfl]
  have hframe : ∀ k, k ≠ a.directory ++ [n] → (d.put (a.directory ++ [n]) (.file bytes m)).get? k = d.get? k := by
    intro k hk
    rw [get?_put d hne, if_neg hk]
  refine ⟨⟨a, n, ha, hn, rfl⟩, hfree, hget, hframe, put_current .., put_privileged .., put_refuses .., ?_⟩
  intro haway
  obtain ⟨before, hsteps, hc, hw, hm, hlen, hnames⟩ := approach_name ha hn
  have hname := (approach_spec ha).2 n hn
  rw [hsteps, List.dropLast_concat] at haway
  have hway : (d.put (a.directory ++ [n]) (.file bytes m)).walk .whole linkLimit (d.start output) before =
      .ok a.directory := by
    rw [walk_congr (fun k hk => hframe k fun he => haway (he ▸ hk)) (put_privileged ..), hw]
  have henter : (d.put (a.directory ++ [n]) (.file bytes m)).enter a.directory = .ok a.mode := by
    rw [enter_congr (hframe _ (by simp)) (put_privileged ..), hm]
  refine metadata_of_walk hc ((hnames hslash).trans hsteps) ?_ henter hname hlen hget
  rw [start, put_current, ← start]
  exact hway

/-- No directory is at the end of a path that a file may be moved to. -/
theorem Disk.MayMove.not_directory {place : Location} {found : Metadata} (h : d.MayMove output place)
    (hfound : d.linkMetadata output = .ok found) : found.isDirectory ≠ true := by
  obtain ⟨a, n, ha, hn, hslash, rfl, _, hfree, _⟩ := h
  obtain ⟨a', ha', hfound⟩ := bind_eq_ok.1 hfound
  cases ha.symm.trans ha'
  simp only [hn, hslash, Bool.false_eq_true, if_false] at hfound
  obtain ⟨e, he, hfound⟩ := bind_eq_ok.1 hfound
  cases hfound
  cases e with
  | directory m => exact (hfree m (entryAt_eq_ok.1 he)).elim
  | file bytes m | link target => simp [Metadata.ofEntry]

/-! ## The conversion -/

/-- A conversion stops at its input, or writes what the input yields. -/
theorem convertFile_cases {r : Except ConvertError FileOutcome}
    (h : (convertFile rules input output).run w = (r, w')) :
    ((∃ e, r = .error e) ∧ w'.disk = w.disk ∧ ∀ outcome bytes m, ¬ Yields rules w.disk input outcome bytes m) ∨
    ∃ outcome bytes m, Yields rules w.disk input outcome bytes m ∧
      w'.disk = (w.disk.replaceFile output bytes (some m)).2 ∧
      r = ((w.disk.replaceFile output bytes (some m)).1.mapError (ConvertError.io output)).map fun _ => outcome := by
  unfold convertFile at h
  rcases Job.run_orFail_cases h with ⟨c, hc, rfl, rfl⟩ | ⟨found, hfound, h⟩
  · refine .inl ⟨⟨_, rfl⟩, rfl, fun outcome bytes m hy => ?_⟩
    obtain ⟨l, source, hl, hfile, _⟩ := hy.file
    cases hc.symm.trans (metadata_eq_ok.2 ⟨l, _, hl, hfile, rfl⟩)
  obtain ⟨l, e, hl, he, rfl⟩ := metadata_eq_ok.1 hfound
  cases e with
  | directory mode | link target =>
    cases h
    refine .inl ⟨⟨_, rfl⟩, rfl, fun outcome bytes m hy => ?_⟩
    obtain ⟨l', source, hl', hfile, _⟩ := hy.file
    cases hl.symm.trans hl'
    cases he.symm.trans hfile
  | file source mode =>
    have hread : ∀ bytes, w.disk.read input = .ok bytes → bytes = source ∧ w.disk.mayRead mode = true := by
      intro bytes hbytes
      obtain ⟨l', m, hl', hfile, hmay⟩ := read_eq_ok.1 hbytes
      cases hl.symm.trans hl'
      cases he.symm.trans hfile
      exact ⟨rfl, hmay⟩
    rcases Job.run_orFail_cases h with ⟨c, hc, rfl, rfl⟩ | ⟨bytes, hbytes, h⟩
    · refine .inl ⟨⟨_, rfl⟩, rfl, fun outcome bytes m hy => ?_⟩
      obtain ⟨l', source', hl', hfile, hmay⟩ := hy.file
      cases hc.symm.trans (read_eq_ok.2 ⟨l', m, hl', hfile, hmay⟩)
    obtain ⟨rfl, hmay⟩ := hread bytes hbytes
    rcases convertBytes_cases rules bytes with ⟨f, hf, hb⟩ | ⟨text, c, htext, hc, hb⟩
    · refine .inr ⟨_, _, _, .notText hl he hmay hf, ?_⟩
      rw [hb] at h
      simp only [Job.run_bind, Job.run_lift, Job.run_orFail, Job.write, Job.act_apply] at h
      rcases hput : w.disk.replaceFile output bytes (some mode) with ⟨_ | _, d₁⟩ <;>
        · simp only [Job.noteFallback, Job.notice_disk, Job.ask_apply, Metadata.ofEntry, hput] at h
          cases h
          exact ⟨rfl, rfl⟩
    · refine .inr ⟨_, _, _, .text hl he hmay htext hc, ?_⟩
      rw [hb] at h
      simp only [Job.run_bind, Job.run_orFail, Job.write, Job.act_apply] at h
      rcases hput : w.disk.replaceFile output (Text.encode c.text) (some mode) with ⟨_ | _, d₁⟩ <;>
        · simp only [Job.ask_apply, Metadata.ofEntry, hput] at h
          cases h
          exact ⟨rfl, rfl⟩

/-- The conversion of a file is all or nothing: if it fails, the disk is as before; if it succeeds, the output is a file
with what the input yields, and nothing else has changed. It succeeds exactly when the input is a file that can be read
and no step of writing the output is refused, and so never over a directory. -/
theorem convertFile_atomic {r : Except ConvertError FileOutcome}
    (h : (convertFile rules input output).run w = (r, w')) :
    (∀ e, r = .error e → w'.disk = w.disk) ∧
    (∀ outcome, r = .ok outcome → ∃ place bytes m, Yields rules w.disk input outcome bytes m ∧
      Replaced w.disk w'.disk output place bytes m) ∧
    ((∃ outcome, r = .ok outcome) ↔ ∃ outcome place bytes m, Yields rules w.disk input outcome bytes m ∧
      w.disk.Writable output bytes (some m) place) ∧
    ∀ found, w.disk.linkMetadata output = .ok found → found.isDirectory = true → ∃ e, r = .error e := by
  rcases convertFile_cases h with ⟨⟨e, rfl⟩, hdisk, hnone⟩ | ⟨outcome, bytes, m, hy, hdisk, hr⟩
  · refine ⟨fun _ _ => hdisk, by simp, ⟨by simp, ?_⟩, fun _ _ _ => ⟨e, rfl⟩⟩
    rintro ⟨outcome, place, bytes, m, hy, _⟩
    exact (hnone outcome bytes m hy).elim
  rcases w.disk.replaceFile_cases output bytes (some m) with ⟨f, hput, hno⟩ | ⟨place, hput, hwritable⟩
  · rw [hput] at hdisk hr
    obtain rfl : r = .error (.io output f) := hr
    refine ⟨fun _ _ => hdisk, by simp, ⟨by simp, ?_⟩, fun _ _ _ => ⟨_, rfl⟩⟩
    rintro ⟨outcome', place, bytes', m', hy', hw⟩
    obtain ⟨rfl, rfl, rfl⟩ := hy.unique hy'
    exact (hno place hw).elim
  · rw [hput] at hdisk hr
    obtain rfl : r = .ok outcome := hr
    refine ⟨by simp, fun outcome' ho => ?_, ⟨fun _ => ⟨_, place, bytes, m, hy, hwritable⟩, fun _ => ⟨_, rfl⟩⟩, ?_⟩
    · cases ho
      rw [hdisk]
      exact ⟨place, bytes, m, hy, replaced_put hwritable.move⟩
    · intro found hfound hdir
      exact (hwritable.move.not_directory hfound hdir).elim

/-- A file and a link to it. -/
def linkedPair : Disk where
  entries :=
    [([Text.encode "a.txt"], .file (Text.encode "tap") 0o640),
      ([Text.encode "b.txt"], .link (.ofString "a.txt"))]

/-- The link becomes a file of its own. -/
theorem convertFile_atomic_linkedPair :
    ∃ place bytes m, Yields [] linkedPair (.ofString "a.txt") (.converted 0 []) bytes m ∧
      Replaced linkedPair ((convertFile [] (.ofString "a.txt") (.ofString "b.txt")).run { disk := linkedPair }).2.disk
        (.ofString "b.txt") place bytes m := by
  have hok : ((convertFile [] (.ofString "a.txt") (.ofString "b.txt")).run { disk := linkedPair }).1 =
      .ok (.converted 0 []) := by decide +kernel
  exact (convertFile_atomic (Prod.eta _).symm).2.1 _ hok

end Retarget
