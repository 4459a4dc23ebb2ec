import Retarget.Proofs.TreeOutput

/-!
# The output mirrors the input

After a tree has been converted to its derived output, the output holds a directory for each directory that the report
counts, the right file for each file that did not fail, and nothing else (`ExactMirror`).

* `Converter.convertTree_exact`: every conversion leaves an exact mirror,
* `Disk.Reaches`: the places that an input leads to, through links,
* `Converter.convertTree_detour`: it is not enough that none of these is in the output.
-/

namespace Retarget

open Disk

/-- What a conversion of a tree leaves behind, from one disk to another. The `items` are the places below the output
that the report speaks of, by the names that lead there from the output and from the input: those of directories have no
record. -/
structure ExactMirror (c : Converter) (input output : Path) (report : Report) (before after : Disk) (place : Location)
    (items : List (Location × Option FileRecord)) : Prop where
  located : after.locate output = .ok place
  files : report.files = items.filterMap Prod.snd
  folders : report.folders = items.countP fun x => x.2.isNone
  nodup : (items.map Prod.fst).Nodup
  below : ∀ rel ∈ items.map Prod.fst, rel ≠ []
  /-- A directory of the output is the counterpart of a directory of the input. -/
  folder : ∀ rel, (rel, none) ∈ items → (Site.mk c.registry.rules c.options input output ⟨[]⟩ place).Stands after rel
  /-- A file that failed has no counterpart; any other has the right outcome and the right bytes. -/
  file : ∀ rel r, (rel, some r) ∈ items → (Site.mk c.registry.rules c.options input output ⟨[]⟩ place).Holds after rel r
  nothingElse : ∀ rel, rel ≠ [] → rel ∉ items.map Prod.fst → after.get? (place ++ rel) = none
  outside : ∀ k, ¬ place <+: k → after.get? k = before.get? k
  /-- A path into the input reads what it read before and leads to the same kind of entry, if looking it up passes no
  place in the output. -/
  sameInput : ∀ rel, (∀ k ∈ before.pathTrail (input.below rel), ¬ place <+: k) →
    after.read (input.below rel) = before.read (input.below rel) ∧
      after.metadata (input.below rel) = before.metadata (input.below rel)

namespace Converter

/-- Every conversion of a tree to its derived output leaves an exact mirror, whatever was there before. -/
theorem convertTree_exact {c : Converter} {input output : Path} {report : Report} {w w' : Workbench}
    (hd : w.disk.WellFormed) (h : (c.convertTree input).run w = (.ok (output, report), w')) :
    ∃ place items, ExactMirror c input output report w.disk w'.disk place items := by
  rcases convertTree_derived_cases h with
    ⟨⟨e, he⟩, _, _⟩ | ⟨output', houtput, ⟨⟨e, he⟩, _⟩ | ⟨w₁, w₂, r₁, hclear, hrun, hdisk, hr⟩⟩
  · cases he
  · cases he
  cases r₁ with
  | error e => cases hr
  | ok report' =>
    cases hr
    rcases convertTree_cases hrun with ⟨⟨e, he⟩, _⟩ | ⟨_, root, w₃, he, hroots, hmake, hwalk⟩
    · cases he
    cases he
    obtain ⟨place, _, hlocate, hready, hbare, hframe, hcurrent, hprivileged⟩ :=
      derived_ready hd houtput hclear hroots hmake
    obtain ⟨items, hitems⟩ := walkTree_mirrors Path.lengthLimit hready hbare hwalk
    have houtside : ∀ k, ¬ place <+: k → w₂.disk.get? k = w.disk.get? k := by
      intro k hk
      rw [hitems.frame k fun n _ hp => hk ((List.prefix_append _ _).trans hp), hframe k hk]
    rw [hdisk]
    refine ⟨place, items, locate_mono hitems.keeps hlocate, hitems.files, hitems.folders, hitems.nodup, ?_,
      hitems.folder, hitems.file, ?_, houtside, ?_⟩
    · intro rel hrel
      obtain ⟨n, rest, rfl, _⟩ := hitems.inside rel hrel
      simp
    · intro rel hrel hnot
      obtain ⟨n, rest, rfl⟩ := List.exists_cons_of_ne_nil hrel
      exact hitems.nothingElse n rest trivial hnot
    · intro rel hapart
      have hagrees : AgreesAt w.disk w₂.disk (w.disk.pathTrail (input.below rel)) :=
        fun k hk => houtside k (hapart k hk)
      have hcurrent' := hitems.keeps.current.trans hcurrent
      have hprivileged' := hitems.keeps.privileged.trans hprivileged
      exact ⟨read_congr hagrees hcurrent' hprivileged', metadata_congr hagrees hcurrent' hprivileged'⟩

/-- A tree with one file, and an old output with another one. -/
def freshSuite : Disk where
  entries :=
    [([Text.encode "suite"], .directory 0o755),
      ([Text.encode "suite", Text.encode "a.txt"], .file (Text.encode "tap") 0o644),
      ([Text.encode "converted_suite"], .directory 0o755),
      ([Text.encode "converted_suite", Text.encode "old.txt"], .file (Text.encode "old") 0o644)]

theorem convertTree_exact_freshSuite :
    ∃ place items, ExactMirror { registry := .empty } (.ofString "suite") (.ofString "converted_suite")
      { files := [⟨.ofString "a.txt", .converted 0 []⟩] } freshSuite
      ((convertTree { registry := .empty } (.ofString "suite")).run { disk := freshSuite }).2.disk place items := by
  have hok : ((convertTree { registry := .empty } (.ofString "suite")).run { disk := freshSuite }).1 =
      .ok (.ofString "converted_suite", { files := [⟨.ofString "a.txt", .converted 0 []⟩] }) := by decide +kernel
  have hd : freshSuite.WellFormed := by decide +kernel
  generalize hrun : (convertTree { registry := .empty } (.ofString "suite")).run { disk := freshSuite } = result
    at hok ⊢
  obtain ⟨r, w'⟩ := result
  cases hok
  exact convertTree_exact hd hrun

end Converter

/-! ## Detours through the output -/

/-- A path below an input leads to a place, name after name and through links. -/
inductive Disk.Reaches (d : Disk) (input : Path) : Path → Location → Prop
  | root {l : Location} (h : d.locate input = .ok l) : Reaches d input input l
  | member {p : Path} {l l' : Location} {n : Name} (h : Reaches d input p l) (hn : n ∈ d.names l)
    (hl : d.locate (p.join ⟨n⟩) = .ok l') : Reaches d input (p.join ⟨n⟩) l'

/-- Does a list hold a path with the place that it leads to, if it leads anywhere? -/
def Disk.listed (d : Disk) (found : List (Path × Location)) (p : Path) : Bool :=
  match d.locate p with
  | .ok l => found.any fun x => x = (p, l)
  | .error _ => true

/-- Does a list hold all that an input leads to? -/
def Disk.closed (d : Disk) (input : Path) (found : List (Path × Location)) : Bool :=
  d.listed found input && found.all fun x => (d.names x.2).all fun n => d.listed found (x.1.join ⟨n⟩)

theorem Disk.Reaches.mem_of_closed {d : Disk} {input p : Path} {l : Location} {found : List (Path × Location)}
    (hf : d.closed input found = true) (h : d.Reaches input p l) : (p, l) ∈ found := by
  obtain ⟨hroot, hmember⟩ := Bool.and_eq_true_iff.1 hf
  induction h with
  | root hl =>
    simpa [listed, hl] using hroot
  | member h hn hl ih =>
    have hnext := List.all_eq_true.1 (List.all_eq_true.1 hmember _ ih) _ hn
    simpa [listed, hl] using hnext

/-- A tree with a link that passes through a link in the old output, to a file outside of both. -/
def detour : Disk where
  entries :=
    [([Text.encode "suite"], .directory 0o755),
      ([Text.encode "suite", Text.encode "sub"], .directory 0o755),
      ([Text.encode "suite", Text.encode "sub", Text.encode "x.txt"], .file (Text.encode "new") 0o644),
      ([Text.encode "suite", Text.encode "zz"], .directory 0o755),
      ([Text.encode "suite", Text.encode "zz", Text.encode "a.txt"],
        .link (.ofString "../../converted_suite/sub/x.txt")),
      ([Text.encode "far"], .directory 0o755),
      ([Text.encode "far", Text.encode "x.txt"], .file (Text.encode "far") 0o644),
      ([Text.encode "converted_suite"], .directory 0o755),
      ([Text.encode "converted_suite", Text.encode "sub"], .link (.ofString "../far"))]

/-- All that the tree leads to. -/
def detourFound : List (Path × Location) :=
  [(.ofString "suite", [Text.encode "suite"]),
    (.ofString "suite/sub", [Text.encode "suite", Text.encode "sub"]),
    (.ofString "suite/sub/x.txt", [Text.encode "suite", Text.encode "sub", Text.encode "x.txt"]),
    (.ofString "suite/zz", [Text.encode "suite", Text.encode "zz"]),
    (.ofString "suite/zz/a.txt", [Text.encode "far", Text.encode "x.txt"])]

/-- Nothing that the tree leads to is in the output, and yet the counterpart of a converted file is not the conversion
of what the file was: the way to it goes through the output, and the conversion has changed that. -/
theorem Converter.convertTree_detour :
    detour.WellFormed ∧
    ((convertTree { registry := .empty } (.ofString "suite")).run { disk := detour }).1 =
      .ok (.ofString "converted_suite",
        { files := [⟨.ofString "sub/x.txt", .converted 0 []⟩, ⟨.ofString "zz/a.txt", .converted 0 []⟩]
          folders := 2 }) ∧
    detour.locate (.ofString "converted_suite") = .ok [Text.encode "converted_suite"] ∧
    (∀ p l, detour.Reaches (.ofString "suite") p l → ¬ [Text.encode "converted_suite"] <+: l) ∧
    detour.read (.ofString "suite/zz/a.txt") = .ok (Text.encode "far") ∧
    convertBytes [] (Text.encode "far") = .ok ⟨"far", []⟩ ∧
    ((convertTree { registry := .empty } (.ofString "suite")).run { disk := detour }).2.disk.read
      (.ofString "converted_suite/zz/a.txt") = .ok (Text.encode "new") := by
  refine ⟨by decide +kernel, by decide +kernel, by decide +kernel, fun p l h => ?_, by decide +kernel,
    by decide +kernel, by decide +kernel⟩
  have hmem := h.mem_of_closed (show detour.closed (.ofString "suite") detourFound = true by decide +kernel)
  have hapart : ∀ x ∈ detourFound, ¬ [Text.encode "converted_suite"] <+: x.2 := by decide +kernel
  exact hapart _ hmem

end Retarget
