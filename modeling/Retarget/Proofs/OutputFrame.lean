import Retarget.Proofs.Preconditions

/-!
# What a conversion leaves alone

A conversion of a tree to its derived output changes nothing but what is at or below the place of that output, whatever
links there are in the input or in the old output, and wherever it fails.

* `Disk.OnlyBelow`: nothing but what is at or below some places has changed,
* `clearOutput_onlyBelow`, `makeOutput_onlyBelow`, `walkOutput_onlyBelow`: the steps of a conversion,
* `Disk.walk_not_link`: a path never leads to a link, so a link in the place of the output leads out of it,
* `Converter.convertTree_onlyBelow`: the whole conversion.
-/

namespace Retarget

open Disk

variable {d d' d'' : Disk} {input output : Path}

/-! ## Frames -/

/-- Nothing has changed but what is at or below some places. -/
structure Disk.OnlyBelow (places : Location → Prop) (d d' : Disk) : Prop where
  frame : ∀ k, (∀ place, places place → ¬ place <+: k) → d'.get? k = d.get? k
  current : d'.current = d.current
  privileged : d'.privileged = d.privileged

namespace Disk.OnlyBelow

variable {places places' : Location → Prop}

theorem refl (places : Location → Prop) (d : Disk) : OnlyBelow places d d := ⟨fun _ _ => rfl, rfl, rfl⟩

theorem trans (h : OnlyBelow places d d') (h' : OnlyBelow places d' d'') : OnlyBelow places d d'' where
  frame k hk := (h'.frame k hk).trans (h.frame k hk)
  current := h'.current.trans h.current
  privileged := h'.privileged.trans h.privileged

theorem widen (h : OnlyBelow places d d') (hp : ∀ l, places l → places' l) : OnlyBelow places' d d' where
  frame k hk := h.frame k fun l hl => hk l (hp l hl)
  current := h.current
  privileged := h.privileged

theorem of_prunes {top : Location} (h : Prunes top d d') (htop : places top) : OnlyBelow places d d' where
  frame k hk := h.frame k (hk top htop)
  current := h.less.current.symm
  privileged := h.less.privileged.symm

end Disk.OnlyBelow

/-! ## The steps of a conversion -/

/-- The places where the derived output of an input may be: its path ends at one place at most. -/
def OutputPlace (d : Disk) (input : Path) (place : Location) : Prop :=
  ∃ output, treeOutput d input = .ok output ∧ d.EndsAt output place

theorem OutputPlace.unique {l l' : Location} (h : OutputPlace d input l) (h' : OutputPlace d input l') : l = l' := by
  obtain ⟨output, houtput, hl⟩ := h
  obtain ⟨output', houtput', hl'⟩ := h'
  cases houtput.symm.trans houtput'
  exact hl.unique hl'

/-- Clearing follows no link: only what is at the place of the output is taken away. -/
theorem clearOutput_onlyBelow {r : Except ConvertError Unit} {w w' : Workbench} (hd : w.disk.WellFormed)
    (houtput : treeOutput w.disk input = .ok output) (h : (Converter.clearOutput output).run w = (r, w')) :
    OnlyBelow (w.disk.EndsAt output) w.disk w'.disk := by
  obtain ⟨q, n, hn, rfl, _⟩ := treeOutput_spec hd houtput
  rcases (clearOutput_spec hd hn h).1 with hsame | ⟨place, hplace, hprunes⟩
  · rw [hsame]
    exact .refl _ _
  · exact .of_prunes hprunes hplace

/-- When the input is found, the directory that the output is to be in is there, so at most one directory is made. -/
theorem makeOutput_onlyBelow {w w₁ : Workbench} (hd : w.disk.WellFormed)
    (houtput : treeOutput w.disk input = .ok output)
    (hclear : (Converter.clearOutput output).run w = (.ok (), w₁))
    (hroots : checkRoots w₁.disk input output = .ok ()) :
    OnlyBelow (w.disk.EndsAt output) w₁.disk (w₁.disk.makeDirectories output).2 := by
  obtain ⟨q, n, hn, rfl, hbeside⟩ := treeOutput_spec hd houtput
  have hless := (clearOutput_less hd hn hclear).1
  have hfound := approach_output hd hn hbeside (clearOutput_spec hd hn hclear).1 hroots
  rcases makeDirectories_join hn hfound with ⟨l, m, ha, _, hmake⟩ | ⟨_, hmake⟩ | ⟨c, hmake⟩
  · -- The place of the new directory is where the path ended before the output was cleared.
    have hends : w.disk.EndsAt (q.join ⟨n⟩) (l ++ [n]) := ((endsAt_join hn).2 ⟨l, m, ha, rfl⟩).mono hn hless
    rw [hmake]
    refine ⟨fun k hk => ?_, put_current .., put_privileged ..⟩
    rw [get?_put _ (by simp), if_neg]
    rintro rfl
    exact hk _ hends (List.prefix_refl _)
  · rw [hmake]
    exact .refl _ _
  · rw [hmake]
    exact .refl _ _

/-- The walk begins with an empty directory and stays inside it. -/
theorem walkOutput_onlyBelow {rules : List Rule} {options : TreeOptions} {root : Path} {report : Report}
    {w w₁ w₂ w₃ : Workbench} (hd : w.disk.WellFormed) (houtput : treeOutput w.disk input = .ok output)
    (hclear : (Converter.clearOutput output).run w = (.ok (), w₁))
    (hroots : checkRoots w₁.disk input output = .ok ())
    (hmake : w₁.disk.makeDirectories output = (.ok (), w₂.disk))
    (hwalk : walkTree rules options Path.lengthLimit input output ⟨[]⟩ [root] w₂ = (report, w₃)) :
    OnlyBelow (w.disk.EndsAt output) w.disk w₃.disk ∧
      ∃ place m, w.disk.EndsAt output place ∧ w₃.disk.get? place = some (.directory m) := by
  obtain ⟨place, hends, _, hready, hbare, hframe, hcurrent, hprivileged⟩ :=
    derived_ready hd houtput hclear hroots hmake
  obtain ⟨items, hitems⟩ := walkTree_mirrors Path.lengthLimit hready hbare hwalk
  obtain ⟨m, hm⟩ := hready.directory
  refine ⟨⟨fun k hk => ?_, hitems.keeps.current.trans hcurrent, hitems.keeps.privileged.trans hprivileged⟩,
    place, m, hends, hitems.keeps.get _ _ hm⟩
  have hout : ¬ place <+: k := hk place hends
  rw [hitems.frame k fun n _ hp => hout ((List.prefix_append _ _).trans hp), hframe k hout]

/-! ## Links -/

namespace Disk

theorem leg_not_link {f : Follow} {l : Location} {names : List Name} {r : Leg} (hd : d.WellFormed)
    (hl : ∀ target, d.get? l ≠ some (.link target)) (h : d.leg f l names = .ok r) (target : Path) :
    d.get? r.place ≠ some (.link target) := by
  fun_induction leg d f l names with
  | case1 l =>
    cases h
    exact hl target
  | case2 l n rest c hc => cases h
  | case3 l n rest u hu hn ih => exact ih hl h
  | case4 l n rest u hu hn habove ih =>
    refine ih (fun target => ?_) h
    -- A step was allowed, so there is a directory here, and the one above it is there as well.
    obtain ⟨m, hm⟩ := mayStep_directory hu
    rcases List.eq_nil_or_concat l with rfl | ⟨above, k, rfl⟩
    · exact hl target
    · rw [List.concat_eq_append] at hm ⊢
      obtain ⟨m', hm'⟩ := hd.parent hm
      rw [List.dropLast_concat, hm']
      simp
  | case5 l n rest u hu hn habove hlong => cases h
  | case6 l n rest u hu hn habove hlong hnone => cases h
  | case7 l n rest u hu hn habove hlong target' hlink =>
    cases h
    exact hl target
  | case8 l n rest u hu hn habove hlong e hother he ih =>
    refine ih (fun target hlink => ?_) h
    rw [he] at hlink
    cases hlink
    exact hother target rfl

/-- A path never leads to a link: links are followed. -/
theorem walk_not_link {f : Follow} {links : Nat} {l l' : Location} {names : List Name} (hd : d.WellFormed)
    (hl : ∀ target, d.get? l ≠ some (.link target)) (h : d.walk f links l names = .ok l') (target : Path) :
    d.get? l' ≠ some (.link target) := by
  induction links generalizing l names with
  | zero =>
    unfold walk at h
    split at h
    · cases h
    · next l₁ hleg =>
      cases h
      exact leg_not_link hd hl hleg target
    · cases h
  | succ links ih =>
    unfold walk at h
    split at h
    · cases h
    · next l₁ hleg =>
      cases h
      exact leg_not_link hd hl hleg target
    · next l₁ target' rest hleg =>
      refine ih (fun target => ?_) h
      split
      · simp [get?]
      · exact leg_not_link hd hl hleg target

/-- A link leads out of the place where it stands. -/
theorem link_leads_out {p : Path} {place l : Location} {target : Path} (hd : d.WellFormed)
    (hlink : d.get? place = some (.link target)) (h : d.locate p = .ok l) : ¬ place <+: l := by
  rintro ⟨rest, rfl⟩
  obtain ⟨_, hw⟩ := locate_eq_ok.1 h
  obtain ⟨m, hstart⟩ := walk_start p.names_ne_nil hw
  by_cases hrest : rest = []
  · -- The path would lead to the link itself.
    rw [hrest, List.append_nil] at hw
    exact walk_not_link hd (by simp [hstart]) hw target hlink
  · have hvacant := hd.vacant_below (l := place) (by simp [hlink]) hrest
    have hthere := walk_occupied hd (by simp [hstart]) hw
    rw [hvacant] at hthere
    cases hthere

end Disk

/-! ## The whole conversion -/

/-- The output of a tree has the marked name of the tree, in the directory that the tree is in: the tree is named by its
path, or by its canonical path if that does not end in a name. -/
theorem treeOutput_named (h : treeOutput d input = .ok output) :
    ∃ named parent n, (named = input ∨ d.canonicalize input = .ok named) ∧ named.fileName? = some n ∧
      named.parent? = some parent ∧ Path.IsName (Path.outputMarker ++ n) ∧
      output = parent.join ⟨Path.outputMarker ++ n⟩ := by
  obtain ⟨named, hnamed, hbeside⟩ : ∃ named : Path, (named = input ∨ d.canonicalize input = .ok named) ∧
      named.outputBeside? = some output := by
    rcases treeOutput_cases h with ⟨_, h⟩ | ⟨_, resolved, hresolved, h⟩
    · exact ⟨input, .inl rfl, h⟩
    · exact ⟨resolved, .inr hresolved, h⟩
  obtain ⟨n, hn, rfl⟩ := Option.map_eq_some_iff.1 hbeside
  obtain ⟨parent, _, _, hparent, _⟩ := Path.steps_parent hn
  refine ⟨named, parent, n, hnamed, hn, hparent, Path.isName_marked (Path.isName_of_fileName? hn), ?_⟩
  rw [Path.withFileName, hn, hparent]
  rfl

/-- The place of the output is the marked name of the tree in the directory that its parent path leads to. -/
theorem outputPlace_spec {place : Location} (houtput : treeOutput d input = .ok output)
    (hplace : d.EndsAt output place) :
    ∃ named parent l n, (named = input ∨ d.canonicalize input = .ok named) ∧ named.fileName? = some n ∧
      named.parent? = some parent ∧ d.Leads parent l ∧ place = l ++ [Path.outputMarker ++ n] := by
  obtain ⟨named, parent, n, hnamed, hname, hparent, hn, rfl⟩ := treeOutput_named houtput
  obtain ⟨l, m, ha, rfl⟩ := (endsAt_join hn).1 hplace
  exact ⟨named, parent, l, n, hnamed, hname, hparent, (approach_join_spec hn ha).2.1, rfl⟩

namespace Converter

variable {c : Converter} {r : Except ConvertError (Path × Report)} {w w' : Workbench}

/-- Step after step, nothing outside of the place of the output changes, and a conversion that succeeds has made the
output. -/
theorem convertTree_frame (hd : w.disk.WellFormed) (h : (c.convertTree input).run w = (r, w')) :
    OnlyBelow (OutputPlace w.disk input) w.disk w'.disk ∧
      (r.isOk = true → ∃ place m, OutputPlace w.disk input place ∧ w'.disk.get? place = some (.directory m)) := by
  rcases convertTree_derived_cases h with
    ⟨⟨e, rfl⟩, rfl, _⟩ | ⟨output, houtput, ⟨⟨e, rfl⟩, e', hclear⟩ | ⟨w₁, w₂, r₁, hclear, hrun, hdisk, hr⟩⟩
  · exact ⟨.refl _ _, fun hok => by cases hok⟩
  · refine ⟨?_, fun hok => by cases hok⟩
    exact (clearOutput_onlyBelow hd houtput hclear).widen fun l hl => ⟨output, houtput, hl⟩
  have hplace : ∀ l, w.disk.EndsAt output l → OutputPlace w.disk input l := fun l hl => ⟨output, houtput, hl⟩
  have hcleared := (clearOutput_onlyBelow hd houtput hclear).widen hplace
  rw [hdisk]
  rcases convertTree_cases hrun with
    ⟨⟨e, rfl⟩, hsame | ⟨hroots, hmade⟩⟩ | ⟨report, root, w₃, rfl, hroots, hmake, hwalk⟩
  · rw [hsame, hr]
    exact ⟨hcleared, fun hok => by cases hok⟩
  · rw [hmade, hr]
    exact ⟨hcleared.trans ((makeOutput_onlyBelow hd houtput hclear hroots).widen hplace), fun hok => by cases hok⟩
  · obtain ⟨hframe, place, m, hends, hm⟩ := walkOutput_onlyBelow hd houtput hclear hroots hmake hwalk
    exact ⟨hframe.widen hplace, fun _ => ⟨place, m, hplace place hends, hm⟩⟩

/-- A conversion to the derived output changes nothing outside of the place of the output, whether it succeeds or fails
and wherever links lead; so it changes nothing at all if the output has no place. That place is the marked name in the
directory of the tree. What a link in the old output leads to is left alone, as far as it is not in the output itself.
An output that is a link leads elsewhere, and it is a directory when the conversion has succeeded. -/
theorem convertTree_onlyBelow (hd : w.disk.WellFormed) (h : (c.convertTree input).run w = (r, w')) :
    OnlyBelow (OutputPlace w.disk input) w.disk w'.disk ∧
    ∀ output place, treeOutput w.disk input = .ok output → w.disk.EndsAt output place →
      (∃ named parent l n, (named = input ∨ w.disk.canonicalize input = .ok named) ∧ named.fileName? = some n ∧
        named.parent? = some parent ∧ w.disk.Leads parent l ∧ place = l ++ [Path.outputMarker ++ n]) ∧
      (∀ rest target l, w.disk.get? (place ++ rest) = some (.link target) →
        w.disk.locate (output.below rest) = .ok l →
        (rest = [] → ¬ place <+: l) ∧ ∀ k, l <+: k → ¬ place <+: k → w'.disk.get? k = w.disk.get? k) ∧
      (r.isOk = true → ∃ m, w'.disk.get? place = some (.directory m)) := by
  obtain ⟨hframe, hmade⟩ := convertTree_frame hd h
  refine ⟨hframe, fun output place houtput hplace => ⟨outputPlace_spec houtput hplace, ?_, fun hok => ?_⟩⟩
  · intro rest target l hlink hl
    refine ⟨?_, fun k _ hk => hframe.frame k fun place' hplace' => ?_⟩
    · rintro rfl
      rw [List.append_nil] at hlink
      exact link_leads_out hd hlink hl
    · rwa [hplace'.unique ⟨output, houtput, hplace⟩]
  · obtain ⟨place', m, hplace', hm⟩ := hmade hok
    exact ⟨m, hplace'.unique ⟨output, houtput, hplace⟩ ▸ hm⟩

/-- A tree with a link to a directory beside it, and an old output that is another link to that directory. -/
def aliasedSuite : Disk where
  entries :=
    [([Text.encode "suite"], .directory 0o755),
      ([Text.encode "suite", Text.encode "a.txt"], .file (Text.encode "tap") 0o644),
      ([Text.encode "suite", Text.encode "b"], .link (.ofString "../far")),
      ([Text.encode "far"], .directory 0o755),
      ([Text.encode "far", Text.encode "x.txt"], .file (Text.encode "far") 0o644),
      ([Text.encode "converted_suite"], .link (.ofString "far"))]

theorem convertTree_onlyBelow_aliasedSuite :
    aliasedSuite.locate (.ofString "converted_suite") = .ok [Text.encode "far"] ∧
    (∀ k, [Text.encode "far"] <+: k → ¬ [Text.encode "converted_suite"] <+: k →
      ((convertTree { registry := .empty } (.ofString "suite")).run { disk := aliasedSuite }).2.disk.get? k =
        aliasedSuite.get? k) ∧
    ∃ m, ((convertTree { registry := .empty } (.ofString "suite")).run { disk := aliasedSuite }).2.disk.get?
      [Text.encode "converted_suite"] = some (.directory m) := by
  have hd : aliasedSuite.WellFormed := by decide +kernel
  have hok : ((convertTree { registry := .empty } (.ofString "suite")).run { disk := aliasedSuite }).1.isOk = true := by
    decide +kernel
  have houtput : treeOutput aliasedSuite (.ofString "suite") = .ok (.ofString "converted_suite") := by decide +kernel
  have hends : aliasedSuite.EndsAt (.ofString "converted_suite") [Text.encode "converted_suite"] :=
    ⟨⟨[], Mode.newDirectory, some (Text.encode "converted_suite"), false⟩, _, rfl, rfl, rfl⟩
  have hlink : aliasedSuite.get? ([Text.encode "converted_suite"] ++ []) = some (.link (.ofString "far")) := by
    decide +kernel
  have hl : aliasedSuite.locate (Path.below (.ofString "converted_suite") []) = .ok [Text.encode "far"] := by
    decide +kernel
  generalize hrun : (convertTree { registry := .empty } (.ofString "suite")).run { disk := aliasedSuite } = result
    at hok ⊢
  obtain ⟨r, w'⟩ := result
  obtain ⟨_, hlinks, hmade⟩ := (convertTree_onlyBelow hd hrun).2 _ _ houtput hends
  exact ⟨hl, (hlinks [] _ _ hlink hl).2, hmade hok⟩

end Converter

end Retarget
