import Retarget.Proofs.ExactMirror
import Retarget.Proofs.MadeDirectories

/-!
# Walks that do not feed on their output

A walk follows links, and the check of its roots does not see where these lead. If a link of the input leads into the
output, the walk may list and convert what it has just made. If nothing that is reached from the input leads into the
output, the walk sees what was there before and nothing else.

* `Disk.EndsInside`: a lookup ends at or below a place,
* `Disk.Apart`: no lookup from the input does so,
* `Visit.SeesOnly`: a directory of a walk with all that the walk sees in it was there before,
* `walk_sees`: all directories of a walk are like that, if the input is apart from the output,
* `walk_fed`: links into the output that pass the check of the roots.
-/

namespace Retarget

open Disk

/-! ## Lookups that end in a place -/

namespace Disk

variable {d d' : Disk} {f : Follow} {top : Location} {p input : Path}

/-- Looking a path up ends at or below a place: at what the path leads to, or where there is no way on. -/
def EndsInside (d : Disk) (top : Location) (p : Path) : Prop :=
  checkPath p = .ok () ∧ ∃ k ∈ d.pathTrail p, top <+: k ∧ ((∀ m, d.get? k ≠ some (.directory m)) ∨ d.locate p = .ok k)

/-- No path from an input, through directories and links, ends at or below a place. -/
structure Apart (d : Disk) (input : Path) (top : Location) : Prop where
  root : ¬ d.EndsInside top input
  member : ∀ p l n, d.Reaches input p l → n ∈ d.names l → ¬ d.EndsInside top (p.join ⟨n⟩)

/-- A lookup that ends elsewhere passes nothing in the place that can change. -/
theorem Overlays.agreesAt (h : Overlays top d d') (hp : ¬ d.EndsInside top p) (hc : checkPath p = .ok ()) :
    AgreesAt d d' (d.pathTrail p) := by
  intro k hk
  by_cases htop : top <+: k
  · have hdir : ∃ m, d.get? k = some (.directory m) := by
      by_contra hnot
      exact hp ⟨hc, k, hk, htop, .inl fun m hm => hnot ⟨m, hm⟩⟩
    obtain ⟨m, hm⟩ := hdir
    rw [hm]
    exact h.ways k _ hm (by simp)
  · exact h.frame k htop

/-- Such a lookup always ends in the same way, and what it leads to stays the same. -/
theorem Overlays.locate_eq (h : Overlays top d d') (hp : ¬ d.EndsInside top p) : d'.locate p = d.locate p := by
  cases hc : checkPath p with
  | error c => rw [Disk.locate, Disk.locate, hc]; rfl
  | ok u => exact locate_congr (h.agreesAt hp hc) h.current h.privileged

theorem Overlays.get?_eq {l : Location} (h : Overlays top d d') (hp : ¬ d.EndsInside top p)
    (hl : d.locate p = .ok l) : d'.get? l = d.get? l :=
  h.agreesAt hp (locate_eq_ok.1 hl).1 l (mem_pathTrail hl)

theorem not_prefix_of_locate {l : Location} (hp : ¬ d.EndsInside top p) (hl : d.locate p = .ok l) : ¬ top <+: l :=
  fun htop => hp ⟨(locate_eq_ok.1 hl).1, l, mem_pathTrail hl, htop, .inr hl⟩

/-- The entries of a directory outside of the place stay the same; one of them may be the place itself. -/
theorem Overlays.get?_entry {l : Location} {m : Mode} (h : Overlays top d d') (htop : d.get? top = some (.directory m))
    (hl : ¬ top <+: l) (n : Name) : d'.get? (l ++ [n]) = d.get? (l ++ [n]) := by
  by_cases hn : top <+: l ++ [n]
  · rcases List.prefix_concat_iff.1 hn with rfl | hp
    · rw [htop]
      exact h.ways _ _ htop (by simp)
    · exact (hl hp).elim
  · exact h.frame _ hn

end Disk

/-! ## What a walk sees -/

/-- The turn of a file in a directory comes after the files with lesser names. -/
inductive Visit.FileTurn (rules : List Rule) (options : TreeOptions) (v : Visit) : Member → Workbench → Prop
  | mk {members before after : List Member} {m : Member} (hmembers : v.bench.disk.members v.input = .ok members)
    (hfiles : (members.filter fun m => !m.isFolder) = before ++ m :: after) :
    Visit.FileTurn rules options v m
      (before.mapM (processMember rules options v.input v.output v.relative) v.bench).2

/-- All that a walk sees in a directory was there before: the directory, its entries, and what each file leads to when
its turn has come. -/
structure Visit.SeesOnly (rules : List Rule) (options : TreeOptions) (start : Disk) (v : Visit) : Prop where
  listed : ∃ l m, start.locate v.input = .ok l ∧ start.get? l = some (.directory m) ∧
    v.bench.disk.locate v.input = .ok l ∧ ∀ n, v.bench.disk.get? (l ++ [n]) = start.get? (l ++ [n])
  file : ∀ m w l e, v.FileTurn rules options m w → w.disk.locate (v.input.join ⟨m.name⟩) = .ok l →
    w.disk.get? l = some e → start.locate (v.input.join ⟨m.name⟩) = .ok l ∧ start.get? l = some e

section Walk

variable {rules : List Rule} {options : TreeOptions} {v v' : Visit} {top : Location} {start : Disk} {root input : Path}

/-- What is listed is in the directory that the path leads to. -/
theorem members_mem {d : Disk} {p : Path} {ms : List Member} {m : Member} {l : Location} (h : d.members p = .ok ms)
    (hl : d.locate p = .ok l) (hm : m ∈ ms) : m.name ∈ d.names l := by
  obtain ⟨l', _, hl', _, hnames, _⟩ := members_eq_ok h
  cases hl.symm.trans hl'
  rw [← mem_sortNames, ← hnames]
  exact List.mem_map_of_mem hm

/-- The disk when the turn of a file has come. -/
theorem Visit.Sound.fileTurn {m : Member} {w : Workbench} (h : v.Sound rules options top start root)
    (hturn : v.FileTurn rules options m w) : Overlays top start w.disk := by
  obtain ⟨place, htop, hs⟩ := h.ready
  cases hturn with
  | @mk ms before after m hmembers hfiles =>
    obtain ⟨_, hname⟩ := members_spec hs.wellFormed hmembers
    refine h.overlay.trans (mapM_processMember_overlays hs h.overlay.linkFree htop fun k hk => ?_)
    have hmem : k ∈ ms.filter fun m => !m.isFolder := by rw [hfiles]; exact List.mem_append_left _ hk
    exact hname _ (List.mem_map_of_mem (List.mem_filter.1 hmem).1)

/-- A directory that a walk comes to is reached from the input on the disk that the walk began with. -/
structure Visit.Known (start : Disk) (input : Path) (top : Location) (v : Visit) : Prop where
  reached : ∃ l m, start.Reaches input v.input l ∧ start.locate v.input = .ok l ∧
    start.get? l = some (.directory m) ∧ v.bench.disk.locate v.input = .ok l ∧ ¬ top <+: l

namespace Visit.Known

/-- The members of such a directory were there before, and they do not lead into the output. -/
theorem member {ms : List Member} {mem : Member} {m : Mode} (h : v.Known start input top)
    (hs : v.Sound rules options top start root) (htop : start.get? top = some (.directory m))
    (hapart : start.Apart input top) (hmembers : v.bench.disk.members v.input = .ok ms) (hmem : mem ∈ ms) :
    ¬ start.EndsInside top (v.input.join ⟨mem.name⟩) ∧
      ∀ l, start.locate (v.input.join ⟨mem.name⟩) = .ok l → start.Reaches input (v.input.join ⟨mem.name⟩) l := by
  obtain ⟨l, m', hreach, _, _, hl, hout⟩ := h.reached
  have hname : mem.name ∈ start.names l := by
    have hlisted := members_mem hmembers hl hmem
    rw [mem_names] at hlisted ⊢
    rwa [hs.overlay.get?_entry htop hout] at hlisted
  exact ⟨hapart.member _ l _ hreach hname, fun l' hl' => .member hreach hname hl'⟩

theorem step {m : Mode} (h : v.Known start input top) (hs : v.Sound rules options top start root)
    (htop : start.get? top = some (.directory m)) (hapart : start.Apart input top)
    (hdown : v.Descends rules options v') : v'.Known start input top := by
  have hs' := hs.step hdown
  cases hdown with
  | @mk depth n w canonical d hdepth hturn hcanonical hnew hmake =>
    obtain ⟨_, hover, l, m', hl, hdir⟩ := hs.turn hturn
    obtain ⟨hout, hreach⟩ : ¬ start.EndsInside top (v.input.join ⟨n⟩) ∧
        ∀ l, start.locate (v.input.join ⟨n⟩) = .ok l → start.Reaches input (v.input.join ⟨n⟩) l := by
      cases hturn with
      | @mk ms before after n hmembers hfolders =>
        have hn : n ∈ (ms.filter Member.isFolder).map Member.name := by rw [hfolders]; simp
        obtain ⟨mem, hmem, rfl⟩ := List.mem_map.1 hn
        exact h.member hs htop hapart hmembers (List.mem_filter.1 hmem).1
    have hall := hs.overlay.trans hover
    rw [hall.locate_eq hout] at hl
    refine ⟨l, m', hreach l hl, hl, ?_, ?_, not_prefix_of_locate hout hl⟩
    · rw [← hdir]
      exact (hall.get?_eq hout hl).symm
    · show d.locate (v.input.join ⟨n⟩) = .ok l
      rw [hs'.overlay.locate_eq hout, hl]

theorem reach {m : Mode} (h : v.Known start input top) (hs : v.Sound rules options top start root)
    (htop : start.get? top = some (.directory m)) (hapart : start.Apart input top)
    (hreach : v.Reaches rules options v') : v'.Known start input top := by
  induction hreach with
  | refl => exact h
  | tail hreach hdown ih => exact ih.step (hs.reach hreach) htop hapart hdown

theorem seesOnly {m : Mode} (h : v.Known start input top) (hs : v.Sound rules options top start root)
    (htop : start.get? top = some (.directory m)) (hapart : start.Apart input top) :
    v.SeesOnly rules options start := by
  obtain ⟨l, m', _, hl, hdir, hl', hout⟩ := h.reached
  refine ⟨⟨l, m', hl, hdir, hl', hs.overlay.get?_entry htop hout⟩, fun mem w k e hturn hk he => ?_⟩
  have hover := hs.fileTurn hturn
  obtain ⟨hend, _⟩ : ¬ start.EndsInside top (v.input.join ⟨mem.name⟩) ∧ _ := by
    cases hturn with
    | @mk ms before after mem hmembers hfiles =>
      have hmem : mem ∈ ms.filter fun m => !m.isFolder := by rw [hfiles]; simp
      exact h.member hs htop hapart hmembers (List.mem_filter.1 hmem).1
  rw [hover.locate_eq hend] at hk
  exact ⟨hk, by rw [← hover.get?_eq hend hk, he]⟩

end Visit.Known

/-- A walk begins with a directory that is known, unless the input leads into the output. -/
theorem Visit.Known.begin {l : Location} {m : Mode} (hinput : start.locate v.input = .ok l)
    (hdir : start.get? l = some (.directory m)) (hv : v.bench.disk = start) (hapart : start.Apart v.input top) :
    v.Known start v.input top :=
  ⟨l, m, .root hinput, hinput, hdir, by rw [hv, hinput], not_prefix_of_locate hapart.root hinput⟩

/-- A walk into an output without links is sound from its beginning. -/
theorem walk_sound (rules : List Rule) (options : TreeOptions) {output : Path} {w : Workbench} {d : Disk} {m : Mode}
    (hd : w.disk.WellFormed)
    (hcurrent : w.disk.get? w.disk.current = some (.directory m))
    (hroots : checkRoots w.disk input output = .ok ()) (hmake : w.disk.makeDirectories output = (.ok (), d))
    (hfree : (∀ place, d.Leads output place → d.LinkFree place) ∨
      ∃ w₀, w₀.disk.WellFormed ∧ treeOutput w₀.disk input = .ok output ∧
        (Converter.clearOutput output).run w₀ = (.ok (), w)) :
    ∃ (v : Visit) (top l : Location) (m₁ m₂ : Mode), d.Leads output top ∧ d.get? top = some (.directory m₁) ∧
      d.locate input = .ok l ∧ d.get? l = some (.directory m₂) ∧ v.bench.disk = d ∧ v.input = input ∧
      v.output = output ∧ v.Sound rules options top d l.toPath ∧
      (convertTree rules options input output).run w = (.ok (v.run rules options).1, (v.run rules options).2) := by
  have hgrows := makeDirectories_grows w.disk output
  rw [hmake] at hgrows
  obtain ⟨l, m₂, _, hinput, hdir, _⟩ := checkRoots_eq_ok hroots
  have hinput' := locate_mono hgrows.keeps hinput
  have hdir' := hgrows.keeps.get _ _ hdir
  obtain ⟨top, m₁, htop, hplace⟩ := makeDirectories_leads hcurrent hmake
  have hnolinks : d.LinkFree top := by
    rcases hfree with hfree | ⟨w₀, hd₀, houtput, hclear⟩
    · exact hfree top htop
    · exact (derived_hollow hd₀ houtput hclear hroots hmake htop).linkFree
  let v : Visit := ⟨Path.lengthLimit, input, output, ⟨[]⟩, [l.toPath], (Job.notice .info "converting tree"
    [("input", input.display), ("output", output.display), ("parallel", toString options.parallel)]
    { w with disk := d }).2⟩
  refine ⟨v, top, l, m₁, m₂, htop, hplace, hinput', hdir', rfl, rfl, rfl,
    .begin (hgrows.wellFormed hd) hinput' hdir' htop hplace hnolinks, ?_⟩
  unfold convertTree
  simp only [Job.run_bind, Job.run_orFail, Job.run_lift, Job.ask_apply, Job.act_apply, Job.notice_disk, hroots, hmake,
    canonicalize_of_locate hinput', Except.mapError]
  rfl

/-- What a walk sees. Outside of the output, all is as it was when the walk began, whenever the walk lists a directory
or reads a file. If no path from the input ends in the output, then all that the walk lists and reads was there
before. -/
theorem walk_sees (rules : List Rule) (options : TreeOptions) {output : Path} {w : Workbench} {d : Disk} {m : Mode}
    (hd : w.disk.WellFormed)
    (hcurrent : w.disk.get? w.disk.current = some (.directory m))
    (hroots : checkRoots w.disk input output = .ok ()) (hmake : w.disk.makeDirectories output = (.ok (), d))
    (hfree : (∀ place, d.Leads output place → d.LinkFree place) ∨
      ∃ w₀, w₀.disk.WellFormed ∧ treeOutput w₀.disk input = .ok output ∧
        (Converter.clearOutput output).run w₀ = (.ok (), w)) :
    ∃ (v : Visit) (top : Location), d.Leads output top ∧ v.bench.disk = d ∧ v.input = input ∧ v.output = output ∧
      (convertTree rules options input output).run w = (.ok (v.run rules options).1, (v.run rules options).2) ∧
      ∀ v', v.Reaches rules options v' →
        (∀ k, ¬ top <+: k → v'.bench.disk.get? k = d.get? k ∧
          ∀ mem w', v'.FileTurn rules options mem w' → w'.disk.get? k = d.get? k) ∧
        (d.Apart input top → v'.SeesOnly rules options d) := by
  obtain ⟨v, top, l, m₁, m₂, hleads, htop, hinput, hdir, hdisk, rfl, houtput, hsound, hrun⟩ :=
    walk_sound rules options hd hcurrent hroots hmake hfree
  refine ⟨v, top, hleads, hdisk, rfl, houtput, hrun, fun v' hreach => ⟨fun k hk => ⟨?_, ?_⟩, fun hapart => ?_⟩⟩
  · exact (hsound.reach hreach).overlay.frame k hk
  · exact fun mem w' hturn => ((hsound.reach hreach).fileTurn hturn).frame k hk
  · have hknown := (Visit.Known.begin hinput hdir hdisk hapart).reach hsound htop hapart hreach
    exact hknown.seesOnly (hsound.reach hreach) htop hapart

end Walk

/-! ## Trees beside their output -/

/-- Does no path of a list, and none that goes on from it by a name, end at or below a place? -/
def Disk.clearOf (d : Disk) (top : Location) (p : Path) : Bool :=
  (d.pathTrail p).all fun k => !top.isPrefixOf k || (d.isDirectoryAt k && (d.locate p).toOption != some k)

theorem Disk.not_endsInside {d : Disk} {top : Location} {p : Path} (h : d.clearOf top p = true) :
    ¬ d.EndsInside top p := by
  rintro ⟨_, k, hk, htop, hend⟩
  have hone := List.all_eq_true.1 h k hk
  rw [List.isPrefixOf_iff_prefix.2 htop, Bool.not_true, Bool.false_or, Bool.and_eq_true] at hone
  rcases hend with hnot | hl
  · obtain ⟨m, hm⟩ := isDirectoryAt_iff.1 hone.1
    exact hnot m hm
  · rw [hl] at hone
    simp [Except.toOption] at hone

theorem Disk.apart_of_closed {d : Disk} {input : Path} {top : Location} (found : List (Path × Location))
    (hclosed : d.closed input found = true) (hroot : d.clearOf top input = true)
    (hfound : (found.all fun x => (d.names x.2).all fun n => d.clearOf top (x.1.join ⟨n⟩)) = true) :
    d.Apart input top where
  root := not_endsInside hroot
  member p l n hreach hn := by
    have hmem := hreach.mem_of_closed hclosed
    exact not_endsInside (List.all_eq_true.1 (List.all_eq_true.1 hfound _ hmem) n hn)

/-- Does a disk hold no link at or below a place? -/
def Disk.noLinks (d : Disk) (top : Location) : Bool :=
  d.entries.all fun x => !top.isPrefixOf x.1 || match x.2 with
    | .link _ => false
    | _ => true

theorem Disk.linkFree_of_noLinks {d : Disk} {top : Location} (h : d.noLinks top = true) : d.LinkFree top := by
  intro rest target hlink
  have hmem : (top ++ rest, Entry.link target) ∈ d.entries := by
    cases hl : top ++ rest with
    | nil =>
      rw [hl] at hlink
      cases hlink
    | cons n l =>
      rw [hl] at hlink
      obtain ⟨before, after, hentries, _⟩ := List.lookup_eq_some_iff.1 hlink
      rw [hentries]
      exact List.mem_append_right _ List.mem_cons_self
  have hone := List.all_eq_true.1 h _ hmem
  rw [List.isPrefixOf_iff_prefix.2 (List.prefix_append _ _)] at hone
  cases hone

/-- A tree with a link out of it, and an output that holds a file already. -/
def besideTree : Disk where
  entries :=
    [([Text.encode "in"], .directory 0o755),
      ([Text.encode "in", Text.encode "a.txt"], .file (Text.encode "a") 0o644),
      ([Text.encode "in", Text.encode "b"], .link (.ofString "../far")),
      ([Text.encode "far"], .directory 0o755),
      ([Text.encode "far", Text.encode "x.txt"], .link (.ofString "../out/../in/a.txt")),
      ([Text.encode "out"], .directory 0o755),
      ([Text.encode "out", Text.encode "a.txt"], .file (Text.encode "old") 0o644)]

/-- All that the tree leads to. -/
def besideFound : List (Path × Location) :=
  [(.ofString "in", [Text.encode "in"]), (.ofString "in/a.txt", [Text.encode "in", Text.encode "a.txt"]),
    (.ofString "in/b", [Text.encode "far"]), (.ofString "in/b/x.txt", [Text.encode "in", Text.encode "a.txt"])]

theorem besideTree_made : besideTree.makeDirectories (.ofString "out") = (.ok (), besideTree) := by
  have hok : (besideTree.makeDirectories (.ofString "out")).1 = .ok () := by decide +kernel
  have hleads : besideTree.Leads (.ofString "out") [Text.encode "out"] := by unfold Leads; decide +kernel
  have hthere : (besideTree.get? [Text.encode "out"]).isSome = true := by decide +kernel
  exact Prod.ext hok (makeDirectoriesFrom_there _ hleads hthere)

theorem walk_sees_besideTree : ∃ v : Visit, v.bench.disk = besideTree ∧
    (convertTree [] {} (.ofString "in") (.ofString "out")).run { disk := besideTree } =
      (.ok (v.run [] {}).1, (v.run [] {}).2) ∧
    ∀ v', v.Reaches [] {} v' → v'.SeesOnly [] {} besideTree := by
  have hd : besideTree.WellFormed := by decide +kernel
  have hcurrent : besideTree.get? besideTree.current = some (.directory Mode.newDirectory) := by decide +kernel
  have hroots : checkRoots besideTree (.ofString "in") (.ofString "out") = .ok () := by decide +kernel
  have hleads : besideTree.Leads (.ofString "out") [Text.encode "out"] := by unfold Leads; decide +kernel
  have hfree : besideTree.LinkFree [Text.encode "out"] := linkFree_of_noLinks (by decide +kernel)
  have hapart : besideTree.Apart (.ofString "in") [Text.encode "out"] :=
    apart_of_closed besideFound (by decide +kernel) (by decide +kernel) (by decide +kernel)
  obtain ⟨v, top, htop, hdisk, _, _, hrun, hsees⟩ := walk_sees [] {}
    (w := { disk := besideTree }) hd hcurrent hroots besideTree_made
    (.inl fun place hplace => hplace.unique hleads ▸ hfree)
  obtain rfl := htop.unique hleads
  exact ⟨v, hdisk, hrun, fun v' hreach => (hsees v' hreach).2 hapart⟩

/-! ## Trees that feed on their output -/

/-- A tree with a link to a directory of the output, in which nothing is yet. -/
def fedByOutput : Disk where
  entries :=
    [([Text.encode "in"], .directory 0o755),
      ([Text.encode "in", Text.encode "b"], .directory 0o755),
      ([Text.encode "in", Text.encode "b", Text.encode "f.txt"], .file (Text.encode "f") 0o644),
      ([Text.encode "in", Text.encode "c"], .link (.ofString "../out/b")),
      ([Text.encode "out"], .directory 0o755),
      ([Text.encode "out", Text.encode "b"], .directory 0o755)]

/-- A tree with a link to where the derived output will have a directory. -/
def fedByDerived : Disk where
  entries :=
    [([Text.encode "suite"], .directory 0o755),
      ([Text.encode "suite", Text.encode "b"], .directory 0o755),
      ([Text.encode "suite", Text.encode "b", Text.encode "f.txt"], .file (Text.encode "f") 0o644),
      ([Text.encode "suite", Text.encode "d"], .directory 0o755),
      ([Text.encode "suite", Text.encode "d", Text.encode "c"], .link (.ofString "../../converted_suite/b"))]

/-- The roots pass their check, and the walk converts a file that it has made itself, in a directory where nothing was
or that was not even there. -/
theorem walk_fed :
    (fedByOutput.WellFormed ∧ checkRoots fedByOutput (.ofString "in") (.ofString "out") = .ok () ∧
      fedByOutput.list (.ofString "in/c") = .ok [] ∧
      ((convertTree [] {} (.ofString "in") (.ofString "out")).run { disk := fedByOutput }).1 =
        .ok { files := [⟨.ofString "b/f.txt", .converted 0 []⟩, ⟨.ofString "c/f.txt", .converted 0 []⟩],
              folders := 2 }) ∧
    fedByDerived.WellFormed ∧ checkRoots fedByDerived (.ofString "suite") (.ofString "converted_suite") = .ok () ∧
      fedByDerived.metadata (.ofString "suite/d/c") = .error .notFound ∧
      ((Converter.convertTree { registry := .empty } (.ofString "suite")).run { disk := fedByDerived }).1 =
        .ok (.ofString "converted_suite",
          { files := [⟨.ofString "b/f.txt", .converted 0 []⟩, ⟨.ofString "d/c/f.txt", .converted 0 []⟩],
            folders := 3 }) := by
  refine ⟨⟨?_, ?_, ?_, ?_⟩, ?_, ?_, ?_, ?_⟩ <;> decide +kernel

end Retarget
