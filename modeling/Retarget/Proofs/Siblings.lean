import Retarget.Proofs.OutputFrame
import Retarget.Proofs.OwnOutput
import Retarget.Proofs.Preconditions
import Retarget.Proofs.PredictedOutput

/-!
# Outputs beside their inputs

The output that is derived from a path is a sibling of it: it differs in the last component only, which is marked.

* `Path.components_eq`: the components of a path by its root and its steps,
* `Path.components_outputBeside?`: the components of the output beside a path,
* `treeOutput_sibling`: on a disk without links, an input leads to the place beside its output,
* `Converter.output_sibling`: what that means for outputs, and for the checks of a conversion.
-/

namespace Retarget

namespace Path

variable {p o o' p' : Path} {n : Name}

/-! ## Components -/

/-- A relative path has no steps only if it is empty. -/
theorem steps_ne_nil (hrel : p.isAbsolute = false) (hne : p.bytes ≠ []) :
    ∃ part rest, part ≠ [] ∧ parts p.bytes = part :: rest ∧ p.steps.head? = some part := by
  obtain ⟨b, bs, hb⟩ := List.exists_cons_of_ne_nil hne
  obtain ⟨part, rest, hparts⟩ := List.exists_cons_of_ne_nil (parts_ne_nil bs)
  have hslash : (b == slash) = false := by simpa [isAbsolute, hb] using hrel
  have hall : parts p.bytes = (b :: part) :: rest := by rw [hb, parts, hslash, hparts]; rfl
  exact ⟨b :: part, rest, by simp, hall, by simp [steps, hall]⟩

/-- A path begins with a full stop of its own if its first step is one. -/
theorem head?_parts (hrel : p.isAbsolute = false) :
    (parts p.bytes).head? = some here ↔ p.steps.head? = some here := by
  by_cases hne : p.bytes = []
  · simp [steps, hne, parts, here]
  · obtain ⟨part, rest, _, hparts, hhead⟩ := steps_ne_nil hrel hne
    rw [hparts, hhead, List.head?_cons]

/-- What a path begins with: the root, or a full stop. -/
def head (p : Path) : List Component :=
  if p.isAbsolute then [.root] else if p.steps.head? = some here then [.current] else []

/-- The components of a path are its beginning and those of its steps. -/
theorem components_eq (p : Path) : p.components = p.head ++ p.steps.filterMap component? := by
  rw [components, head]
  simp only [filterMap_component?]
  cases habs : p.isAbsolute with
  | true => simp
  | false =>
    have hdot : ((parts p.bytes).head? == some [dot]) = decide (p.steps.head? = some here) := by
      rw [Bool.eq_iff_iff, beq_iff_eq, decide_eq_true_eq]
      exact head?_parts habs
    rw [hdot]
    by_cases hhead : p.steps.head? = some here <;> simp [hhead]

/-- Full stops are no components. -/
theorem filterMap_dots {dots : List Name} (h : ∀ k ∈ dots, k = here) : dots.filterMap component? = [] :=
  List.filterMap_eq_nil_iff.2 fun k hk => component?_here (h k hk)

/-- A name after a path is one component more. -/
theorem components_join (p : Path) (hn : IsName n) : (p.join ⟨n⟩).components = p.components ++ [.name n] := by
  have hhead : (p.join ⟨n⟩).head = p.head := by
    rw [head, head, isAbsolute_join p hn, steps_join p hn]
    cases hsteps : p.steps with
    | nil => simp [hn.ne_here]
    | cons k ks => simp
  rw [components_eq, components_eq, hhead, steps_join p hn, List.filterMap_append, List.append_assoc]
  simp [hn.component?]

/-- The parent of a path lacks the last component. -/
theorem components_parent? (hn : p.fileName? = some n) :
    ∃ q, p.parent? = some q ∧ p.components = q.components ++ [.name n] := by
  obtain ⟨q, dots, dots', hparent, habs, hdots, hdots', hsteps⟩ := steps_parent hn
  have hname := (isName_of_fileName? hn).component?
  have hnamed : p.steps.filterMap component? = q.steps.filterMap component? ++ [.name n] := by
    simp [hsteps, filterMap_dots hdots, filterMap_dots hdots', hname]
  have hhead : p.head = q.head := by
    rw [head, head, habs]
    cases hrel : p.isAbsolute with
    | true => simp
    | false =>
      cases hq : q.steps with
      | cons k ks => simp [hsteps, hq]
      | nil =>
        -- A leading full stop belongs to the parent as well.
        have hnodot : p.steps.head? ≠ some here := by
          intro hdot
          have hlength : p.headLength = 1 := by
            have hfirst := (head?_parts hrel).2 hdot
            rw [headLength, hrel, if_neg (by simp), hfirst]
            rfl
          have hbytes : q.bytes ≠ [] := by
            have hlast : ∃ c, p.components.getLast? = some (.name c) := by
              unfold fileName? at hn
              split at hn
              · next m hm => exact ⟨m, hm⟩
              · cases hn
            obtain ⟨c, hlast⟩ := hlast
            obtain ⟨b, bs, hb⟩ : ∃ b bs, p.bytes = b :: bs := by
              refine List.exists_cons_of_ne_nil fun hnil => ?_
              simp [steps, hnil, parts] at hdot
            rw [parent?, hlast, hlength, hb] at hparent
            cases hparent
            simp
          obtain ⟨part, rest, _, _, hfirst⟩ := steps_ne_nil (habs.trans hrel) hbytes
          simp [hq] at hfirst
        simp [hnodot]
  exact ⟨q, hparent, by rw [components_eq, components_eq, hhead, hnamed, List.append_assoc]⟩

/-! ## Outputs -/

/-- The output beside a path has its components but the last one, which is marked. -/
theorem components_outputBeside? (h : p.fileName? = some n) : ∃ o before, p.outputBeside? = some o ∧
    p.components = before ++ [.name n] ∧ o.components = before ++ [.name (outputMarker ++ n)] := by
  obtain ⟨q, hparent, hcomponents⟩ := components_parent? h
  refine ⟨q.join ⟨outputMarker ++ n⟩, q.components, ?_, hcomponents, ?_⟩
  · rw [outputBeside?, h, Option.map_some, withFileName, h, hparent]
    rfl
  · exact components_join q (isName_marked (isName_of_fileName? h))

theorem marked_ne (n : Name) : outputMarker ++ n ≠ n := by
  intro h
  have hlen := congrArg List.length h
  have hmarker : outputMarker.length = 10 := by decide +kernel
  rw [List.length_append, hmarker] at hlen
  omega

/-- The output beside a path is not at or below the path. -/
theorem not_startsWith_outputBeside? (h : p.outputBeside? = some o) : o.startsWith p = false := by
  obtain ⟨n, hn, _⟩ := Option.map_eq_some_iff.1 h
  obtain ⟨o', before, ho, hp, ho'⟩ := components_outputBeside? hn
  obtain rfl := Option.some.inj (h.symm.trans ho)
  rw [startsWith, hp, ho', ← Bool.not_eq_true, List.isPrefixOf_iff_prefix, List.prefix_append_right_inj,
    List.cons_prefix_cons]
  rintro ⟨hname, _⟩
  exact marked_ne n (Component.name.inj hname).symm

/-- Paths with different components have different outputs. -/
theorem components_of_outputBeside? (h : p.outputBeside? = some o) (h' : p'.outputBeside? = some o')
    (he : o.components = o'.components) : p.components = p'.components := by
  obtain ⟨n, hn, _⟩ := Option.map_eq_some_iff.1 h
  obtain ⟨n', hn', _⟩ := Option.map_eq_some_iff.1 h'
  obtain ⟨_, before, ho, hp, hc⟩ := components_outputBeside? hn
  obtain ⟨_, before', ho', hp', hc'⟩ := components_outputBeside? hn'
  obtain rfl := Option.some.inj (h.symm.trans ho)
  obtain rfl := Option.some.inj (h'.symm.trans ho')
  rw [hc, hc'] at he
  obtain ⟨rfl, hlast⟩ := List.append_inj' he rfl
  have hmarked : outputMarker ++ n = outputMarker ++ n' := by simpa using hlast
  rw [hp, hp', List.append_cancel_left hmarked]

end Path

open Disk

variable {d d' : Disk} {input output : Path} {l : Location} {m : Mode} {e : ConvertError}

/-! ## Disks without links -/

/-- Without links, a path leads from the directory of its last name to that name. -/
theorem locate_last_name (hfree : d'.LinkFree []) {p q : Path} {n : Name} {dots dots' : List Name} {above : Location}
    (hname : Path.IsName n) (habs : q.isAbsolute = p.isAbsolute) (hdots : ∀ k ∈ dots, k = Path.here)
    (hdots' : ∀ k ∈ dots', k = Path.here) (hsteps : p.steps = q.steps ++ (dots ++ n :: dots'))
    (hl : d'.locate p = .ok l) (habove : d'.walk .stepwise linkLimit (d'.start q) q.steps = .ok above) :
    l = above ++ [n] := by
  obtain ⟨_, hwalk⟩ := locate_eq_ok.1 hl
  have hstart : d'.start p = d'.start q := by rw [start, start, habs]
  rw [p.names_eq, hsteps, List.append_assoc, hstart] at hwalk
  obtain ⟨l', k, hl', hrest⟩ := walk_left hwalk
  obtain rfl := Except.ok.inj ((walk_stepwise hl').symm.trans habove)
  have hstay : ∀ k ∈ dots ++ n :: dots' ++ (if (Path.parts p.bytes).getLast? == some [] then [[]] else []),
      k ≠ Path.above := by
    simp only [List.mem_append, List.mem_cons]
    rintro k ((hk | rfl | hk) | hk)
    · rw [hdots k hk]
      decide
    · exact hname.ne_above
    · rw [hdots' k hk]
      decide
    · split at hk
      · rw [List.mem_singleton.1 hk]
        decide
      · cases hk
  rw [walk_named (fun rest => hfree (l' ++ rest)) hstay hrest]
  simp only [Path.named_append, Path.named_cons _ hname, Path.named_dots hdots, Path.named_dots hdots']
  split <;> simp [Path.named]

/-- Names have no dots among them. -/
theorem eq_nil_of_dots {xs : List Name} (hxs : ∀ k ∈ xs, Path.IsName k) (hdots : ∀ k ∈ xs, k = Path.here) : xs = [] :=
  List.eq_nil_iff_forall_not_mem.2 fun k hk => (hxs k hk).ne_here (hdots k hk)

/-- Without links, an input leads to the place that its output is beside: to the name without the mark, where the output
has the marked one. -/
theorem treeOutput_sibling (hd : d.WellFormed) (hless : Extends d' d) (hfree : d'.LinkFree [])
    (hinput : d'.locate input = .ok l) (hdir : d'.get? l = some (.directory m))
    (houtput : treeOutput d input = .ok output) :
    ∃ q n, Path.IsName n ∧ output = q.join ⟨Path.outputMarker ++ n⟩ ∧ Beside d input q ∧
      ∀ above, d'.walk .stepwise linkLimit (d'.start q) q.steps = .ok above → l = above ++ [n] := by
  obtain ⟨named, q, n, hnamed, hn, hparent, _, rfl⟩ := treeOutput_named houtput
  have hname := Path.isName_of_fileName? hn
  obtain ⟨q', dots, dots', hq', habs, hdots, hdots', hsteps⟩ := Path.steps_parent hn
  obtain rfl : q' = q := Option.some.inj (hq'.symm.trans hparent)
  rcases hnamed with rfl | hnamed
  · -- the input leads on from the directory of its output by its own name
    exact ⟨q', n, hname, rfl, .inl ⟨_, by simp, hsteps, habs⟩, fun above habove =>
      locate_last_name hfree hname habs hdots hdots' hsteps hinput habove⟩
  · -- the input leads to a place whose path ends in the name
    have hl := locate_mono hless hinput
    obtain rfl := Except.ok.inj ((canonicalize_of_locate hl).symm.trans hnamed)
    have hnames := hd.isName (hless.get _ _ hdir)
    obtain ⟨hlsteps, hlabs⟩ := Path.steps_toPath hnames
    rw [hlsteps] at hsteps
    have hfirst := eq_nil_of_dots (fun k hk => hnames k (by simp [hsteps, hk])) hdots
    have hlast := eq_nil_of_dots (fun k hk => hnames k (by simp [hsteps, hk])) hdots'
    rw [hfirst, hlast, List.nil_append] at hsteps
    refine ⟨q', n, hname, rfl, .inr ⟨[n], by simp, ?_, habs.trans hlabs⟩, fun above habove => ?_⟩
    · rw [← hsteps, hless.get _ _ hdir]
      rfl
    have hway : ∀ k ∈ q'.steps, Path.IsName k := fun k hk => hnames k (by simp [hsteps, hk])
    rw [start_absolute (habs.trans hlabs)] at habove
    have hplace := walk_named hfree (fun k hk => (hway k hk).ne_above) habove
    rw [List.nil_append, Path.named_of_isName hway] at hplace
    rw [hplace, hsteps]

/-- Without links, a check of the roots does not find the output of a tree in the tree, even when the old output has
been cleared. Nor does it miss a name. -/
theorem checkRoots_sibling (hd : d.WellFormed) (hless : Extends d' d) (hd' : d'.WellFormed) (hfree : d'.LinkFree [])
    (houtput : treeOutput d input = .ok output)
    (hcleared : ∀ q n, Path.IsName n → output = q.join ⟨n⟩ → Cleared q n d d')
    (h : checkRoots d' input output = .error e) (he : e.isPrecondition = true) :
    e = .inputNotFound input ∨ e = .notADirectory input := by
  rcases checkRoots_precondition h he with
    ⟨rfl, _⟩ | ⟨rfl, _⟩ | ⟨rfl, l, m, target, hl, hdir, htarget, hinside⟩
  · exact .inl rfl
  · exact .inr rfl
  obtain ⟨q, n, hn, rfl, hbeside, hlast⟩ := treeOutput_sibling hd hless hfree hl hdir houtput
  have hmarked := Path.isName_marked hn
  obtain ⟨⟨m', hstart⟩, hfound⟩ := hbeside.way hd hmarked (hcleared q _ hmarked rfl) hl
  obtain ⟨above, habove, htarget⟩ := resolve_join hd' hmarked hstart hfound htarget
  obtain rfl := hlast above habove
  obtain rfl := htarget fun t => hfree _ t
  -- The place of the output has as many names as that of the input, and another last one.
  have hnames := hd'.isName hdir
  have hmore : ∀ k ∈ above ++ [Path.outputMarker ++ n], Path.IsName k := by
    intro k hk
    rcases List.mem_append.1 hk with hk | hk
    · exact hnames k (List.mem_append_left _ hk)
    · exact List.mem_singleton.1 hk ▸ hmarked
  have hprefix := (Path.startsWith_toPath hnames hmore).1 hinside
  rw [List.prefix_append_right_inj, List.cons_prefix_cons] at hprefix
  exact absurd hprefix.1.symm (Path.marked_ne n)

/-- A directory other than the root has an output. -/
theorem exists_treeOutput (hd : d.WellFormed) (hdir : d.isDirectory input = true)
    (hroot : d.canonicalize input ≠ .ok ⟨[Path.slash]⟩) : ∃ output, treeOutput d input = .ok output := by
  obtain ⟨l, m, hl, hm⟩ := isDirectory_eq_true.1 hdir
  have hcanonical := canonicalize_of_locate hl
  have hbeside : ∀ {p : Path} {n : Name}, p.fileName? = some n → ∃ output, outputBeside p = .ok output := by
    intro p n hn
    rw [outputBeside, Path.outputBeside?, hn]
    exact ⟨_, rfl⟩
  unfold treeOutput
  cases hinput : input.fileName? with
  | some n => exact hbeside hinput
  | none =>
    have hne : l ≠ [] := by
      rintro rfl
      exact hroot hcanonical
    obtain ⟨above, n, rfl⟩ : ∃ above n, l = above ++ [n] := ⟨_, _, (List.dropLast_concat_getLast hne).symm⟩
    have hnames := hd.isName hm
    obtain ⟨k, hk⟩ := Path.fileName?_of_steps (Path.steps_toPath hnames).1 (hnames n (by simp)) (by simp)
    rw [hcanonical]
    exact hbeside hk

namespace Converter

variable {c : Converter} {r : Except ConvertError (Path × Report)} {w w' : Workbench}

/-- Without links, a check of a conversion finds at most that the input is gone, whether it comes before the output is
cleared or after it. -/
theorem convertTree_checks (hd : w.disk.WellFormed) (hfree : w.disk.LinkFree [])
    (houtput : treeOutput w.disk input = .ok output) (h : (c.convertTree input).run w = (.error e, w'))
    (he : e.isPrecondition = true) : e = .inputNotFound input ∨ e = .notADirectory input := by
  rcases convertTree_precondition_cases h he with
    ⟨_, hnone | ⟨output', houtput', hroots⟩⟩ | ⟨output', w₁, houtput', _, hclear, hroots, _⟩
  · cases houtput.symm.trans hnone
  · exact checkRoots_sibling hd (.refl _) hd hfree houtput' (fun _ _ _ _ => .inl rfl) hroots he
  · obtain ⟨q, n, hn, rfl, _⟩ := treeOutput_spec hd houtput'
    obtain ⟨hless, hd₁⟩ := clearOutput_less hd hn hclear
    have hfree₁ : w₁.disk.LinkFree [] := fun rest t ht => hfree rest t (hless.get _ _ ht)
    refine checkRoots_sibling hd hless hd₁ hfree₁ houtput' (fun q' n' hn' hq' => ?_) hroots he
    rw [hq'] at hclear
    exact (clearOutput_spec hd hn' hclear).1

/-- The output beside a path that ends in a name has the same components but the last one, which is marked. So it is
neither the path nor below it, and no other path has the same output. On a disk without links, the conversion of a
directory other than the root never stops because there is no name for the output, or because the output lies in the
input. -/
theorem output_sibling :
    (∀ p n, p.fileName? = some n → ∃ o before, outputBeside p = .ok o ∧
      p.components = before ++ [.name n] ∧ o.components = before ++ [.name (Path.outputMarker ++ n)] ∧
      o ≠ p ∧ o.startsWith p = false ∧
      ∀ p' o', outputBeside p' = .ok o' → p'.components ≠ p.components → o'.components ≠ o.components ∧ o' ≠ o) ∧
    ∀ (c : Converter) (input : Path) (r : Except ConvertError (Path × Report)) (w w' : Workbench),
      w.disk.WellFormed → w.disk.LinkFree [] → w.disk.isDirectory input = true →
      w.disk.canonicalize input ≠ .ok ⟨[Path.slash]⟩ → (c.convertTree input).run w = (r, w') →
      (∀ p, r ≠ .error (.noFolderName p)) ∧ ∀ i o, r ≠ .error (.outputInsideInput i o) := by
  refine ⟨fun p n hn => ?_, fun c input r w w' hd hfree hdir hroot h => ?_⟩
  · obtain ⟨o, before, ho, hp, hcomponents⟩ := Path.components_outputBeside? hn
    have hnot := Path.not_startsWith_outputBeside? ho
    refine ⟨o, before, outputBeside_eq_ok.2 ho, hp, hcomponents, ?_, hnot, fun p' o' ho' hne => ?_⟩
    · rintro rfl
      rw [Path.startsWith, List.isPrefixOf_iff_prefix.2 List.prefix_rfl] at hnot
      cases hnot
    · have hcomp : o'.components ≠ o.components := fun he =>
        hne (Path.components_of_outputBeside? (outputBeside_eq_ok.1 ho') ho he)
      exact ⟨hcomp, fun he => hcomp (he ▸ rfl)⟩
  · obtain ⟨output, houtput⟩ := exists_treeOutput hd hdir hroot
    have hchecks : ∀ e, r = .error e → e.isPrecondition = true →
        e = .inputNotFound input ∨ e = .notADirectory input := by
      rintro e rfl he
      exact convertTree_checks hd hfree houtput h he
    refine ⟨fun p hr => ?_, fun i o hr => ?_⟩
    · rcases hchecks _ hr rfl with he | he <;> cases he
    · rcases hchecks _ hr rfl with he | he <;> cases he

/-- A tree that is the current directory, with an old output beside it. -/
def currentSuite : Disk where
  entries :=
    [([Text.encode "suite"], .directory 0o755),
      ([Text.encode "suite", Text.encode "a.txt"], .file (Text.encode "tap") 0o644),
      ([Text.encode "converted_suite"], .directory 0o755),
      ([Text.encode "converted_suite", Text.encode "old.txt"], .file (Text.encode "old") 0o644)]
  current := [Text.encode "suite"]

theorem output_sibling_currentSuite :
    currentSuite.WellFormed ∧ currentSuite.isDirectory (.ofString ".") = true ∧
    treeOutput currentSuite (.ofString ".") = .ok (.ofString "/converted_suite") ∧
    ∀ i o, ((convertTree { registry := .empty } (.ofString ".")).run { disk := currentSuite }).1 ≠
      .error (.outputInsideInput i o) := by
  have hd : currentSuite.WellFormed := by decide +kernel
  have hfree : currentSuite.LinkFree [] := linkFree_of_noLinks (by decide +kernel)
  have hdir : currentSuite.isDirectory (.ofString ".") = true := by decide +kernel
  have hroot : currentSuite.canonicalize (.ofString ".") ≠ .ok ⟨[Path.slash]⟩ := by decide +kernel
  refine ⟨hd, hdir, by decide +kernel, ?_⟩
  generalize hrun : (convertTree { registry := .empty } (.ofString ".")).run { disk := currentSuite } = result
  exact (output_sibling.2 _ _ _ _ _ hd hfree hdir hroot hrun).2

end Converter

end Retarget
