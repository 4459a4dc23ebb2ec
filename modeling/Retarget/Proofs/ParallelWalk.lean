import Retarget.Proofs.HollowOutput
import Retarget.Proofs.OwnOutput
import Retarget.Proofs.Together

/-!
# Walks with crews

A walk may deal with the files of each directory at the same time. If no file is in the way of another one, the walk
leaves the same disk and gives the same report as a walk that takes the files in turn, whatever the order of the steps.
Files are in the way of one another only if the output holds links or files before.

* `walkBy`, `convertBy`: a walk, by how files are dealt with; `walkTree` takes them in turn (`walkTree_eq`),
* `Visit.Undisturbed`: no file of a directory is in the way of another one,
* `Visit.same_walk`: walks with crews and in turn come to the same, directory by directory,
* `Visit.Known.undisturbed`: no file is in the way in an output without links that the input does not lead into,
* `convertBy_same`: all this for a whole walk, by what the output holds before,
* `convertBy_astray`: outputs in which the order of the files makes a difference.
-/

namespace Retarget

open Disk

/-! ## Walks by how files are dealt with -/

/-- Convert a directory, with all that is below it. -/
def walkBy (files : FileWork) : Nat → Path → Path → Path → List Path → Job Report
  | 0, _, _, _, _ => return {}
  | depth + 1, input, output, relative, ancestors => do
    match ← Job.ask fun d => d.members input with
    | .error c =>
      Job.notice .warn "cannot read directory" [("dir", input.display), ("error", c.message)]
      return .ofFailure relative c.message
    | .ok members =>
      let folders := (members.filter Member.isFolder).map Member.name
      let records ← files input output relative (members.filter fun m => !m.isFolder)
      let processOne (n : Name) : Job Report :=
        processFolder (walkBy files depth) (input.join ⟨n⟩) (output.join ⟨n⟩) (relative.join ⟨n⟩) ancestors
      let below ← processFolders processOne folders
      Job.notice .debug "processed directory"
        [("dir", input.display), ("files", toString records.length), ("folders", toString folders.length)]
      return { files := records : Report } ++ below

/-- Convert a tree to an output, over what is there. -/
def convertBy (files : FileWork) (options : TreeOptions) (input output : Path) : ExceptT ConvertError Job Report := do
  Job.orFail (Job.ask fun d => checkRoots d input output) id
  Job.orFail (Job.act fun d => d.makeDirectories output) (ConvertError.ofCause output)
  Job.notice .info "converting tree"
    [("input", input.display), ("output", output.display), ("parallel", toString options.parallel)]
  let root ← Job.orFail (Job.ask fun d => d.canonicalize input) (ConvertError.ofCause input)
  walkBy files Path.lengthLimit input output ⟨[]⟩ [root]

/-- One file after another. -/
def inTurn (rules : List Rule) (options : TreeOptions) : FileWork :=
  fun input output relative ms => ms.mapM (processMember rules options input output relative)

theorem walkTree_eq (rules : List Rule) (options : TreeOptions) (depth : Nat) :
    walkTree rules options depth = walkBy (inTurn rules options) depth := by
  induction depth with
  | zero => rfl
  | succ depth ih =>
    funext input output relative ancestors
    rw [walkTree, walkBy, ih]
    rfl

theorem convertTree_eq (rules : List Rule) (options : TreeOptions) (input output : Path) :
    convertTree rules options input output = convertBy (inTurn rules options) options input output := by
  rw [convertTree, convertBy, walkTree_eq]

/-! ## The same walk -/

namespace Workbench.Same

variable {w w' : Workbench}

theorem refl (hd : w.disk.WellFormed) : w.Same w := ⟨.refl w.disk, hd, hd⟩

/-- What is said makes no difference. -/
theorem notice (h : w.Same w') (level level' : Level) (message message' : String)
    (fields fields' : List (String × String)) :
    (Job.notice level message fields w).2.Same (Job.notice level' message' fields' w').2 :=
  ⟨h.disk, h.wellFormed, h.wellFormed'⟩

theorem makeDirectories (h : w.Same w') (p : Path) :
    (w'.disk.makeDirectories p).1 = (w.disk.makeDirectories p).1 ∧
      Same { w with disk := (w.disk.makeDirectories p).2 } { w' with disk := (w'.disk.makeDirectories p).2 } := by
  obtain ⟨hresult, hsame⟩ := h.disk.makeDirectories p
  exact ⟨hresult, hsame, (makeDirectories_grows w.disk p).wellFormed h.wellFormed,
    (makeDirectories_grows w'.disk p).wellFormed h.wellFormed'⟩

end Workbench.Same

section Walk

variable {rules : List Rule} {options : TreeOptions} {files : FileWork} {w w' : Workbench}

/-- Directories come to the same if each one does when its turn has come. -/
theorem processFolders_same {f g : Name → Job Report} {ns : List Name} (hw : w.Same w')
    (h : ∀ before n after w', ns = before ++ n :: after → (processFolders f before w).2.Same w' →
      SameEnd (f n (processFolders f before w).2) (g n w')) :
    SameEnd (processFolders f ns w) (processFolders g ns w') := by
  induction ns generalizing w w' with
  | nil => exact ⟨rfl, hw⟩
  | cons n rest ih =>
    have hfirst : SameEnd (f n w) (g n w') := h [] n rest w' rfl hw
    have hrest : SameEnd (processFolders f rest (f n w).2) (processFolders g rest (g n w').2) := by
      refine ih hfirst.bench fun before k after w' he hw' => ?_
      exact h (n :: before) k after w' (by rw [he, List.cons_append]) hw'
    refine ⟨?_, hrest.bench⟩
    simp only [processFolders, Job.bind_apply, Job.pure_apply, hfirst.value, hrest.value]

/-- A directory comes to the same if what is below it does. -/
theorem processFolder_same {descend descend' : Descent} {input output relative : Path} {ancestors : List Path}
    (hw : w.Same w')
    (h : ∀ canonical d w', w.disk.canonicalize input = .ok canonical → ancestors.contains canonical = false →
      w.disk.makeDirectories output = (.ok (), d) → Workbench.Same { w with disk := d } w' →
      SameEnd (descend input output relative (ancestors ++ [canonical]) { w with disk := d })
        (descend' input output relative (ancestors ++ [canonical]) w')) :
    SameEnd (processFolder descend input output relative ancestors w)
      (processFolder descend' input output relative ancestors w') := by
  unfold processFolder
  simp only [Job.bind_apply, Job.ask_apply, hw.disk.canonicalize]
  cases hcanonical : w.disk.canonicalize input with
  | error c => exact ⟨rfl, hw.notice ..⟩
  | ok canonical =>
    simp only
    cases hcycle : ancestors.contains canonical with
    | true => exact ⟨rfl, hw.notice ..⟩
    | false =>
      simp only [Bool.false_eq_true, if_false, Job.bind_apply, Job.act_apply]
      obtain ⟨hresult, hmade⟩ := hw.makeDirectories output
      rw [hresult]
      rcases hmake : w.disk.makeDirectories output with ⟨c | u, d⟩
      · rw [hmake] at hmade
        exact ⟨rfl, hmade.notice ..⟩
      · rw [hmake] at hmade
        have hbelow := h canonical d _ hcanonical hcycle hmake hmade
        simp only [Job.bind_apply, Job.pure_apply, hbelow.value]
        exact ⟨rfl, hbelow.bench⟩

/-- No file that is put into the counterpart of a directory takes the place of anything on the way there, or on the way
to another file. -/
def Visit.Undisturbed (v : Visit) : Prop :=
  ∀ members place, v.bench.disk.members v.input = .ok members → v.bench.disk.Leads v.output place →
    ∀ m ∈ members.filter (fun m => !m.isFolder), v.bench.disk.Replaceable (place ++ [m.name]) →
      place ++ [m.name] ∉ v.bench.disk.trail .whole linkLimit (v.bench.disk.start v.output) v.output.steps ∧
      ∀ m' ∈ members.filter (fun m => !m.isFolder), m'.name ≠ m.name →
        ∀ found, v.bench.disk.metadata (v.input.join ⟨m'.name⟩) = .ok found →
          place ++ [m.name] ∉ v.bench.disk.pathTrail (v.input.join ⟨m'.name⟩)

theorem Visit.Undisturbed.settled {v : Visit} {members : List Member} {place : Location} {m : Mode}
    (h : v.Undisturbed) (hd : v.bench.disk.WellFormed) (hmembers : v.bench.disk.members v.input = .ok members)
    (hleads : v.bench.disk.Leads v.output place) (hdir : v.bench.disk.get? place = some (.directory m)) :
    Settled v.bench.disk v.input v.output place
      (team rules options v.input v.relative (members.filter fun m => !m.isFolder)) := by
  obtain ⟨hnodup, hname⟩ := members_spec hd hmembers
  have hnames : (team rules options v.input v.relative (members.filter fun m => !m.isFolder)).map Prod.fst =
      (members.filter fun m => !m.isFolder).map Member.name := by
    rw [team, List.map_map]
    rfl
  have hsub := (List.filter_sublist (p := fun m => !m.isFolder) (l := members)).map Member.name
  refine ⟨hd, hleads, ⟨m, hdir⟩, ?nodup, ?isName, ?found, ?outputWay, ?inputWay⟩
  case nodup => exact hnames ▸ hnodup.sublist hsub
  case isName => exact fun n hn => hname n (hsub.subset (hnames ▸ hn))
  case found =>
    intro n s htask
    obtain ⟨mem, hmem, he⟩ := List.mem_map.1 htask
    cases he
    have hlisted := (List.mem_filter.1 hmem).1
    obtain ⟨names, _, hmembers⟩ := bind_eq_ok.1 hmembers
    cases hmembers
    obtain ⟨k, _, rfl⟩ := List.mem_map.1 hlisted
    cases hmeta : v.bench.disk.metadata (v.input.join ⟨k⟩) with
    | error c => exact .inl ⟨.failed c.message, by simp [Script.member, Except.map]⟩
    | ok found => exact .inr ⟨found, rfl⟩
  case outputWay =>
    intro n hn hreplaceable
    obtain ⟨mem, hmem, rfl⟩ := List.mem_map.1 (hnames ▸ hn)
    exact (h members place hmembers hleads mem hmem hreplaceable).1
  case inputWay =>
    intro n hn n' hn' hne hreplaceable found hfound
    obtain ⟨mem, hmem, rfl⟩ := List.mem_map.1 (hnames ▸ hn)
    obtain ⟨mem', hmem', rfl⟩ := List.mem_map.1 (hnames ▸ hn')
    exact (h members place hmembers hleads mem' hmem' hreplaceable).2 mem hmem hne.symm found hfound

/-- A walk with crews comes to the same as one that takes the files in turn. -/
theorem Visit.same_walk {v : Visit} {place : Location} {m : Mode} (hfiles : Together rules options files)
    (hleads : v.bench.disk.Leads v.output place) (hdir : v.bench.disk.get? place = some (.directory m))
    (hv : ∀ v', v.Reaches rules options v' → v'.Undisturbed) (hw : v.bench.Same w') :
    SameEnd (v.run rules options) (walkBy files v.depth v.input v.output v.relative v.ancestors w') := by
  generalize hdepth : v.depth = depth
  -- By induction on the depth. What is reached from a directory further down is reached from this one too.
  induction depth generalizing v place m w' with
  | zero =>
    rw [run, hdepth]
    exact ⟨rfl, hw⟩
  | succ depth ih =>
    rw [run_succ depth hdepth, visitDirectory, walkBy]
    simp only [Job.bind_apply, Job.ask_apply, hw.disk.members hw.wellFormed hw.wellFormed']
    cases hmembers : v.bench.disk.members v.input with
    | error c => exact ⟨rfl, hw.notice ..⟩
    | ok members =>
      have hrecords := hfiles.same_files ((hv v .refl).settled hw.wellFormed hmembers hleads hdir) hw
      have hfolders : SameEnd
          (processFolders (v.folder (walkTree rules options depth)) ((members.filter Member.isFolder).map Member.name)
            ((members.filter fun m => !m.isFolder).mapM
              (processMember rules options v.input v.output v.relative) v.bench).2)
          (processFolders (fun n => processFolder (walkBy files depth) (v.input.join ⟨n⟩) (v.output.join ⟨n⟩)
            (v.relative.join ⟨n⟩) v.ancestors) ((members.filter Member.isFolder).map Member.name)
            (files v.input v.output v.relative (members.filter fun m => !m.isFolder) w').2) := by
        refine processFolders_same hrecords.bench fun before n after w₁ he hw₁ => ?_
        refine processFolder_same hw₁ fun canonical d w₂ hcanonical hnew hmake hw₂ => ?_
        have hdown : v.Descends rules options _ := .mk hdepth (.mk hmembers he) hcanonical hnew hmake
        have hn : Path.IsName n := by
          have hmem : n ∈ (members.filter Member.isFolder).map Member.name := by rw [he]; simp
          exact (members_spec hw.wellFormed hmembers).2 n ((List.filter_sublist.map Member.name).subset hmem)
        obtain ⟨place', m', hleads', hdir'⟩ := makeDirectories_leads_of_ne (Path.join_bytes_ne_nil v.output hn) hmake
        exact ih hleads' hdir' (fun v' hreach => hv v' (.head hdown hreach)) hw₂ rfl
      simp only [Job.bind_apply, Job.pure_apply, hrecords.value, hfolders.value]
      exact ⟨rfl, hfolders.bench.notice ..⟩

end Walk

/-! ## Outputs apart from their input -/

/-- In an output without links, a file takes the place of another file only. The ways to the output pass no files, and
those from the input do not end in it. -/
theorem Visit.Known.undisturbed {rules : List Rule} {options : TreeOptions} {start : Disk} {input root : Path}
    {top : Location} {m : Mode} {v : Visit} (h : v.Known start input top) (hs : v.Sound rules options top start root)
    (htop : start.get? top = some (.directory m)) (hapart : start.Apart input top) : v.Undisturbed := by
  intro members place hmembers hleads mem hmem hreplaceable
  obtain ⟨e, he, hnot⟩ := hreplaceable
  obtain ⟨place', hbelow, hready⟩ := hs.ready
  obtain rfl := hready.leads.unique hleads
  obtain ⟨mode, hdir⟩ := hready.directory
  have hinside : top <+: place' ++ [mem.name] := hbelow.trans (List.prefix_append _ _)
  constructor
  · intro hway
    cases e with
    | file bytes mode' => exact trail_ways hleads hdir _ hway bytes mode' he
    | directory mode' => exact hnot mode' rfl
    | link target =>
      obtain ⟨rest, hrest⟩ := hinside
      exact hs.overlay.linkFree rest target (hrest ▸ he)
  · intro mem' hmem' _ found hfound hway
    obtain ⟨hend, _⟩ := h.member hs htop hapart hmembers (List.mem_filter.1 hmem').1
    obtain ⟨l, _, hl, _, _⟩ := metadata_eq_ok.1 hfound
    -- The lookup passes the same places as in the beginning, so it would have ended at the file then.
    have hcheck := (locate_eq_ok.1 hl).1
    have hagrees := hs.overlay.agreesAt hend hcheck
    rw [pathTrail_congr hagrees hs.overlay.current hs.overlay.privileged] at hway
    rw [hagrees _ hway] at he
    refine hend ⟨hcheck, _, hway, hinside, .inl fun mode' hm' => hnot mode' ?_⟩
    exact Option.some.inj (he.symm.trans hm')

/-- The root of a tree, when a walk comes to it. -/
def Visit.atRoot (options : TreeOptions) (input output root : Path) (w : Workbench) : Visit :=
  ⟨Path.lengthLimit, input, output, ⟨[]⟩, [root], (Job.notice .info "converting tree"
    [("input", input.display), ("output", output.display), ("parallel", toString options.parallel)] w).2⟩

/-- In an output without files, no file takes the place of anything. -/
theorem Visit.Hollow.undisturbed {v : Visit} (h : v.Hollow) : v.Undisturbed := by
  rintro members place - hleads mem - ⟨e, he, hnot⟩
  obtain ⟨m, rfl⟩ := h place hleads [mem.name] e he
  exact (hnot m rfl).elim

/-- Files can be put into an output without any of them being in the way of another one: the output holds no files yet,
or it has no links and the input does not lead into it. -/
def Disk.Suits (d : Disk) (input : Path) (top : Location) : Prop := d.Hollow top ∨ d.LinkFree top ∧ d.Apart input top

theorem Visit.atRoot_undisturbed {rules : List Rule} {options : TreeOptions} {input output : Path} {w : Workbench}
    {l top : Location} {m m' : Mode} {v : Visit} (hd : w.disk.WellFormed) (hinput : w.disk.locate input = .ok l)
    (hdir : w.disk.get? l = some (.directory m)) (hleads : w.disk.Leads output top)
    (htop : w.disk.get? top = some (.directory m')) (hsuits : w.disk.Suits input top)
    (hreach : (Visit.atRoot options input output l.toPath w).Reaches rules options v) : v.Undisturbed := by
  have hfree : w.disk.LinkFree top := hsuits.elim Hollow.linkFree And.left
  have hsound : (atRoot options input output l.toPath w).Sound rules options top w.disk l.toPath :=
    .begin hd hinput hdir hleads htop hfree
  rcases hsuits with hhollow | ⟨_, hapart⟩
  · have hroot : (atRoot options input output l.toPath w).Hollow := fun place hplace =>
      hplace.unique hleads ▸ hhollow
    exact (hroot.reach hsound hreach).undisturbed
  · have hknown : (atRoot options input output l.toPath w).Known w.disk input top :=
      Known.begin (v := atRoot options input output l.toPath w) hinput hdir rfl hapart
    exact (hknown.reach hsound htop hapart hreach).undisturbed (hsound.reach hreach) htop hapart

/-- An output that is there is ready when it is made if it is ready before, and one that is not there is always
ready. -/
theorem Disk.suits_made {d d' : Disk} {input output : Path} {place : Location} {m : Mode} (hd : d.WellFormed)
    (hcurrent : d.get? d.current = some (.directory m)) (hroots : checkRoots d input output = .ok ())
    (hmake : d.makeDirectories output = (.ok (), d')) (hsuits : ∀ top, d.Leads output top → d.Suits input top)
    (hplace : d'.Leads output place) : d'.Suits input place := by
  obtain ⟨m₀, hstart⟩ : ∃ m, d.get? (d.start output) = some (.directory m) := by
    unfold Disk.start
    split
    · exact ⟨_, rfl⟩
    · exact ⟨m, hcurrent⟩
  by_cases hthere : ∃ top, d.Leads output top
  · obtain ⟨top, htop⟩ := hthere
    have hsame := makeDirectoriesFrom_there (output.bytes.length + 1) htop
      (walk_occupied hd (by simp [hstart]) htop)
    rw [← makeDirectories, hmake] at hsame
    obtain rfl : d' = d := hsame
    exact hplace.unique htop ▸ hsuits top htop
  · obtain ⟨_, _, _, _, _, htarget, _⟩ := checkRoots_eq_ok hroots
    exact .inl (made_hollow hd hstart htarget hmake (not_exists.1 hthere) hplace)

/-- Conversions come to the same if their walks from the root do. -/
theorem convertBy_sameEnd {options : TreeOptions} {files files' : FileWork} {input output : Path} {w : Workbench}
    (hd : w.disk.WellFormed)
    (h : ∀ d root, checkRoots w.disk input output = .ok () → w.disk.makeDirectories output = (.ok (), d) →
      d.canonicalize input = .ok root →
      SameEnd
        (walkBy files Path.lengthLimit input output ⟨[]⟩ [root]
          (Visit.atRoot options input output root { w with disk := d }).bench)
        (walkBy files' Path.lengthLimit input output ⟨[]⟩ [root]
          (Visit.atRoot options input output root { w with disk := d }).bench)) :
    SameEnd ((convertBy files options input output).run w) ((convertBy files' options input output).run w) := by
  have hmade := (makeDirectories_grows w.disk output).wellFormed hd
  unfold convertBy
  simp only [Job.run_bind, Job.run_orFail, Job.run_lift, Job.ask_apply, Job.act_apply, Job.notice_disk]
  cases hroots : checkRoots w.disk input output with
  | error c => exact ⟨rfl, .refl hd⟩
  | ok u =>
    simp only [Except.mapError]
    rcases hmake : w.disk.makeDirectories output with ⟨c | u, d⟩
    · rw [hmake] at hmade
      exact ⟨rfl, .refl hmade⟩
    · rw [hmake] at hmade
      simp only
      cases hcanonical : d.canonicalize input with
      | error c => exact ⟨rfl, .refl hmade⟩
      | ok root =>
        have hwalk := h d root hroots hmake hcanonical
        exact ⟨congrArg Except.ok hwalk.value, hwalk.bench⟩

/-- The files of each directory may be worked on at the same time. Crews never go on forever and never get stuck, and
whatever the order of their steps, the walk leaves the same disk and gives the same report as one that takes the files
in turn. This is so if the output is not there yet or has just been cleared; if it holds nothing but directories; and if
it holds no links and no path from the input ends in it. -/
theorem convertBy_same (rules : List Rule) (options : TreeOptions) {input output : Path} {w : Workbench} {m : Mode}
    (hd : w.disk.WellFormed) (hcurrent : w.disk.get? w.disk.current = some (.directory m))
    (houtput : (∀ top, w.disk.Leads output top → w.disk.Hollow top ∨ w.disk.LinkFree top ∧ w.disk.Apart input top) ∨
      ∃ w₀, w₀.disk.WellFormed ∧ treeOutput w₀.disk input = .ok output ∧
        (Converter.clearOutput output).run w₀ = (.ok (), w)) :
    (∀ source dest, WellFounded fun c' c : Crew => Crew.Step source dest c c') ∧
    (∀ source dest (c : Crew), ∃ c', Crew.Reaches source dest c c' ∧ c'.Done) ∧
    (∃ files, Together rules options files) ∧
    ∀ files, Together rules options files →
      SameEnd ((convertTree rules options input output).run w) ((convertBy files options input output).run w) := by
  refine ⟨Crew.ends, Crew.completes, ⟨_, lastFirst_together rules options⟩, fun files hfiles => ?_⟩
  rw [convertTree_eq]
  refine convertBy_sameEnd hd fun d root hroots hmake hcanonical => ?_
  rw [← walkTree_eq]
  have hgrows : Grows w.disk d := by simpa [hmake] using makeDirectories_grows w.disk output
  have hd' := hgrows.wellFormed hd
  obtain ⟨place, m₁, hleads, hplace⟩ := makeDirectories_leads hcurrent hmake
  have hsuits : d.Suits input place := by
    rcases houtput with hsuits | ⟨w₀, hd₀, houtput, hclear⟩
    · exact suits_made hd hcurrent hroots hmake hsuits hleads
    · exact .inl (derived_hollow hd₀ houtput hclear hroots hmake hleads)
  obtain ⟨l, m₂, _, hinput, hdir, _⟩ := checkRoots_eq_ok hroots
  have hinput' := locate_mono hgrows.keeps hinput
  obtain rfl : l.toPath = root := Except.ok.inj ((canonicalize_of_locate hinput').symm.trans hcanonical)
  have hundisturbed : ∀ v, (Visit.atRoot options input output l.toPath { w with disk := d }).Reaches rules options v →
      v.Undisturbed :=
    fun v => Visit.atRoot_undisturbed hd' hinput' (hgrows.keeps.get _ _ hdir) hleads hplace hsuits
  exact Visit.same_walk (v := .atRoot options input output l.toPath { w with disk := d }) hfiles hleads hplace
    hundisturbed (.refl hd')

/-- A tree with three files in one directory: one takes the place of an old file, one cannot be put in the place of a
directory, and one is not there. -/
def busyTree : Disk where
  entries :=
    [([Text.encode "in"], .directory 0o755),
      ([Text.encode "in", Text.encode "a.txt"], .file (Text.encode "a") 0o644),
      ([Text.encode "in", Text.encode "b.txt"], .file (Text.encode "b") 0o600),
      ([Text.encode "in", Text.encode "c.txt"], .link (.ofString "gone")),
      ([Text.encode "in", Text.encode "d"], .directory 0o755),
      ([Text.encode "in", Text.encode "d", Text.encode "e.txt"], .link (.ofString "../a.txt")),
      ([Text.encode "out"], .directory 0o755),
      ([Text.encode "out", Text.encode "a.txt"], .file (Text.encode "old") 0o644),
      ([Text.encode "out", Text.encode "b.txt"], .directory 0o755)]

/-- All that the tree leads to. -/
def busyFound : List (Path × Location) :=
  [(.ofString "in", [Text.encode "in"]), (.ofString "in/a.txt", [Text.encode "in", Text.encode "a.txt"]),
    (.ofString "in/b.txt", [Text.encode "in", Text.encode "b.txt"]),
    (.ofString "in/d", [Text.encode "in", Text.encode "d"]),
    (.ofString "in/d/e.txt", [Text.encode "in", Text.encode "a.txt"])]

theorem convertBy_same_busyTree : ∃ files, Together [] {} files ∧
    ((convertBy files {} (.ofString "in") (.ofString "out")).run { disk := busyTree }).1 =
      .ok { files := [⟨.ofString "a.txt", .converted 0 []⟩, ⟨.ofString "b.txt", .failed "Is a directory (os error 21)"⟩,
              ⟨.ofString "c.txt", .failed "No such file or directory (os error 2)"⟩,
              ⟨.ofString "d/e.txt", .converted 0 []⟩],
            folders := 1 } ∧
    Same ((convertTree [] {} (.ofString "in") (.ofString "out")).run { disk := busyTree }).2.disk
      ((convertBy files {} (.ofString "in") (.ofString "out")).run { disk := busyTree }).2.disk := by
  have hd : busyTree.WellFormed := by decide +kernel
  have hcurrent : busyTree.get? busyTree.current = some (.directory Mode.newDirectory) := by decide +kernel
  have hleads : busyTree.Leads (.ofString "out") [Text.encode "out"] := by unfold Leads; decide +kernel
  have hfree : busyTree.LinkFree [Text.encode "out"] := linkFree_of_noLinks (by decide +kernel)
  have hapart : busyTree.Apart (.ofString "in") [Text.encode "out"] :=
    apart_of_closed busyFound (by decide +kernel) (by decide +kernel) (by decide +kernel)
  have hsuits : ∀ top, busyTree.Leads (.ofString "out") top → busyTree.Suits (.ofString "in") top := by
    intro top htop
    rw [htop.unique hleads]
    exact .inr ⟨hfree, hapart⟩
  obtain ⟨_, _, ⟨files, hfiles⟩, hsame⟩ := convertBy_same [] {} (w := { disk := busyTree }) hd hcurrent (.inl hsuits)
  refine ⟨files, hfiles, (hsame files hfiles).value.trans ?_, (hsame files hfiles).bench.disk⟩
  decide +kernel

/-! ## Files that are in the way of others -/

/-- Nothing that the tree `in` leads to is at or below its output `out`, and yet the order of the files makes a
difference: a path holds other bytes after a conversion in turn than after one by which `files` are dealt with. -/
structure Disk.OrderMatters (files : FileWork) (d : Disk) (p : Path) : Prop where
  wellFormed : d.WellFormed
  roots : checkRoots d (.ofString "in") (.ofString "out") = .ok ()
  located : d.locate (.ofString "out") = .ok [Text.encode "out"]
  apart : ∀ q l, d.Reaches (.ofString "in") q l → ¬ [Text.encode "out"] <+: l
  inTurn : ((convertTree [] {} (.ofString "in") (.ofString "out")).run { disk := d }).2.disk.read p =
    .ok (Text.encode "old")
  otherwise : ((convertBy files {} (.ofString "in") (.ofString "out")).run { disk := d }).2.disk.read p =
    .ok (Text.encode "new")

theorem Disk.OrderMatters.not_sameEnd {files : FileWork} {d : Disk} {p : Path} (h : d.OrderMatters files p) :
    ¬ SameEnd ((convertTree [] {} (.ofString "in") (.ofString "out")).run { disk := d })
      ((convertBy files {} (.ofString "in") (.ofString "out")).run { disk := d }) := by
  intro hsame
  have hdisk := hsame.bench.disk
  have hread := read_congr (p := p) (fun k _ => hdisk.get k) hdisk.current hdisk.privileged
  rw [h.inTurn, h.otherwise] at hread
  exact absurd hread (by decide +kernel)

/-- Where nothing that the tree leads to is in the output, two runs show that the order matters. -/
theorem Disk.orderMatters_of_runs {files : FileWork} {d : Disk} {p : Path} (found : List (Path × Location))
    (hd : d.WellFormed ∧ checkRoots d (.ofString "in") (.ofString "out") = .ok () ∧
      d.locate (.ofString "out") = .ok [Text.encode "out"])
    (hfound : d.closed (.ofString "in") found = true ∧ ∀ x ∈ found, ¬ [Text.encode "out"] <+: x.2)
    (hruns : ((convertTree [] {} (.ofString "in") (.ofString "out")).run { disk := d }).2.disk.read p =
        .ok (Text.encode "old") ∧
      ((convertBy files {} (.ofString "in") (.ofString "out")).run { disk := d }).2.disk.read p =
        .ok (Text.encode "new")) : d.OrderMatters files p where
  wellFormed := hd.1
  roots := hd.2.1
  located := hd.2.2
  apart _ _ hreach := hfound.2 _ (hreach.mem_of_closed hfound.1)
  inTurn := hruns.1
  otherwise := hruns.2

/-- An output with a link to a directory elsewhere. The counterpart of one file is what another file is a link to. -/
def linkedFolder : Disk where
  entries :=
    [([Text.encode "far"], .directory 0o755),
      ([Text.encode "far", Text.encode "b.txt"], .file (Text.encode "old") 0o644),
      ([Text.encode "in"], .directory 0o755),
      ([Text.encode "in", Text.encode "d"], .directory 0o755),
      ([Text.encode "in", Text.encode "d", Text.encode "a.txt"], .link (.ofString "../../far/b.txt")),
      ([Text.encode "in", Text.encode "d", Text.encode "b.txt"], .file (Text.encode "new") 0o644),
      ([Text.encode "out"], .directory 0o755),
      ([Text.encode "out", Text.encode "d"], .link (.ofString "../far"))]

/-- An output with a link to a file elsewhere. A link of the tree goes through it, and a file takes its place. -/
def linkedFile : Disk where
  entries :=
    [([Text.encode "far"], .directory 0o755),
      ([Text.encode "far", Text.encode "f.txt"], .file (Text.encode "old") 0o644),
      ([Text.encode "in"], .directory 0o755),
      ([Text.encode "in", Text.encode "k.txt"], .link (.ofString "../out/l.txt")),
      ([Text.encode "in", Text.encode "l.txt"], .file (Text.encode "new") 0o644),
      ([Text.encode "out"], .directory 0o755),
      ([Text.encode "out", Text.encode "l.txt"], .link (.ofString "../far/f.txt"))]

/-- An output without links. A link of the tree leads nowhere, up to when the walk makes a directory on the way. -/
def openedWay : Disk where
  entries :=
    [([Text.encode "in"], .directory 0o755),
      ([Text.encode "in", Text.encode "a"], .directory 0o755),
      ([Text.encode "in", Text.encode "d"], .directory 0o755),
      ([Text.encode "in", Text.encode "d", Text.encode "m.txt"], .link (.ofString "../../out/a/../d/n.txt")),
      ([Text.encode "in", Text.encode "d", Text.encode "n.txt"], .file (Text.encode "new") 0o644),
      ([Text.encode "out"], .directory 0o755),
      ([Text.encode "out", Text.encode "d"], .directory 0o755),
      ([Text.encode "out", Text.encode "d", Text.encode "n.txt"], .file (Text.encode "old") 0o644)]

/-- It is not enough that nothing the tree leads to is in the output. With a link in the output, or with a link of the
tree that leads nowhere in it at first, a file may take the place of what another file of its directory is read from. -/
theorem convertBy_astray : ∃ files, Together [] {} files ∧
    ∀ x ∈ [(linkedFolder, "far/a.txt"), (linkedFile, "out/k.txt"), (openedWay, "out/d/m.txt")],
      x.1.OrderMatters files (.ofString x.2) ∧
      ¬ SameEnd ((convertTree [] {} (.ofString "in") (.ofString "out")).run { disk := x.1 })
        ((convertBy files {} (.ofString "in") (.ofString "out")).run { disk := x.1 }) := by
  have hfolder : linkedFolder.OrderMatters (lastFirst [] {}) (.ofString "far/a.txt") :=
    orderMatters_of_runs
      [(.ofString "in", [Text.encode "in"]), (.ofString "in/d", [Text.encode "in", Text.encode "d"]),
        (.ofString "in/d/a.txt", [Text.encode "far", Text.encode "b.txt"]),
        (.ofString "in/d/b.txt", [Text.encode "in", Text.encode "d", Text.encode "b.txt"])]
      (by decide +kernel) (by decide +kernel) (by decide +kernel)
  have hfile : linkedFile.OrderMatters (lastFirst [] {}) (.ofString "out/k.txt") :=
    orderMatters_of_runs
      [(.ofString "in", [Text.encode "in"]), (.ofString "in/k.txt", [Text.encode "far", Text.encode "f.txt"]),
        (.ofString "in/l.txt", [Text.encode "in", Text.encode "l.txt"])]
      (by decide +kernel) (by decide +kernel) (by decide +kernel)
  have hway : openedWay.OrderMatters (lastFirst [] {}) (.ofString "out/d/m.txt") :=
    orderMatters_of_runs
      [(.ofString "in", [Text.encode "in"]), (.ofString "in/a", [Text.encode "in", Text.encode "a"]),
        (.ofString "in/d", [Text.encode "in", Text.encode "d"]),
        (.ofString "in/d/n.txt", [Text.encode "in", Text.encode "d", Text.encode "n.txt"])]
      (by decide +kernel) (by decide +kernel) (by decide +kernel)
  refine ⟨lastFirst [] {}, lastFirst_together [] {}, fun x hx => ?_⟩
  simp only [List.mem_cons, List.not_mem_nil, or_false] at hx
  rcases hx with rfl | rfl | rfl
  · exact ⟨hfolder, hfolder.not_sameEnd⟩
  · exact ⟨hfile, hfile.not_sameEnd⟩
  · exact ⟨hway, hway.not_sameEnd⟩

end Retarget
