import Retarget.Convert.Converter
import Retarget.Proofs.RulePass

/-!
# Rules one after another

A conversion is a sequence of passes, each over what the one before it left (`Passes`). So it falls apart wherever its
rules do, and a rule that is added is one pass more.

* `Rule.apply_total`, `Rule.apply_text_of_zero`: a pass always has a result, and one without matches changes nothing,
* `Passes.append`, `Passes.total`: passes follow each other, and never fail,
* `Passes.filter`: passes without matches can be left out,
* `convert_eq_ok_iff`: a conversion has the text of its last pass, and the rules that matched with their counts,
* `convert_total`, `convert_append`, `convert_filter`: a conversion never fails, its rules can be applied in parts, and
  those that do not match can be left out,
* `convert_composes`: all that follows for lists of rules, registries and converters.
-/

namespace Retarget

/-! ## One pass -/

namespace Rule

theorem apply_total (r : Rule) (text : String) : ∃ applied, r.apply text = .ok applied := ⟨_, r.apply_eq text⟩

/-- A pass without matches changes nothing. -/
theorem apply_text_of_zero {r : Rule} {text : String} {applied : Applied} (h : r.apply text = .ok applied)
    (hzero : applied.replacements = 0) : applied.text = text := by
  rw [r.apply_eq, Except.ok.injEq] at h
  subst h
  simp [List.length_eq_zero_iff.1 hzero, weave]

end Rule

/-! ## Many passes -/

/-- The passes of rules over a text, each over what the one before it left, with the number of matches in each one, and
what is left in the end. -/
inductive Passes : List Rule → String → List Nat → String → Prop
  | done (text : String) : Passes [] text [] text
  | pass {r : Rule} {rules : List Rule} {text last : String} {counts : List Nat} {applied : Rule.Applied}
    (h : r.apply text = .ok applied) (rest : Passes rules applied.text counts last) :
    Passes (r :: rules) text (applied.replacements :: counts) last

/-- The rules that matched, with their counts. -/
def hitsOf (rules : List Rule) (counts : List Nat) : List Hit :=
  ((rules.zip counts).filter fun x => 0 < x.2).map fun x => ⟨x.1.name, x.2⟩

theorem hitsOf_cons (r : Rule) (rules : List Rule) (n : Nat) (counts : List Nat) :
    hitsOf (r :: rules) (n :: counts) = hitsOf [r] [n] ++ hitsOf rules counts := by
  by_cases h : 0 < n <;> simp [hitsOf, h]

theorem hitsOf_append {rules : List Rule} {counts : List Nat} (h : counts.length = rules.length) (rules' : List Rule)
    (counts' : List Nat) :
    hitsOf (rules ++ rules') (counts ++ counts') = hitsOf rules counts ++ hitsOf rules' counts' := by
  rw [hitsOf, List.zip_append h.symm, List.filter_append, List.map_append]
  rfl

theorem exists_of_mem_hitsOf {rules : List Rule} {counts : List Nat} {h : Hit} (hmem : h ∈ hitsOf rules counts) :
    ∃ r ∈ rules, r.name = h.rule := by
  obtain ⟨x, hx, rfl⟩ := List.mem_map.1 hmem
  exact ⟨x.1, (List.of_mem_zip (List.mem_filter.1 hx).1).1, rfl⟩

theorem count_pos_of_mem_hitsOf {rules : List Rule} {counts : List Nat} {h : Hit} (hmem : h ∈ hitsOf rules counts) :
    0 < h.count := by
  obtain ⟨x, hx, rfl⟩ := List.mem_map.1 hmem
  simpa using (List.mem_filter.1 hx).2

namespace Passes

variable {rules rules' : List Rule} {text middle last : String} {counts counts' : List Nat}

theorem total (rules : List Rule) (text : String) : ∃ counts last, Passes rules text counts last := by
  induction rules generalizing text with
  | nil => exact ⟨[], text, .done text⟩
  | cons r rules ih =>
    obtain ⟨applied, happlied⟩ := r.apply_total text
    obtain ⟨counts, last, hrest⟩ := ih applied.text
    exact ⟨_, last, .pass happlied hrest⟩

theorem length (h : Passes rules text counts last) : counts.length = rules.length := by
  induction h with
  | done => rfl
  | pass _ _ ih => rw [List.length_cons, List.length_cons, ih]

theorem append (h : Passes rules text counts middle) (h' : Passes rules' middle counts' last) :
    Passes (rules ++ rules') text (counts ++ counts') last := by
  induction h with
  | done => exact h'
  | pass happlied _ ih => exact .pass happlied (ih h')

/-- If no rule matches, nothing changes. -/
theorem unchanged (h : Passes rules text counts last) (hnone : hitsOf rules counts = []) : last = text := by
  induction h with
  | done => rfl
  | @pass r rules text last counts applied happlied _ ih =>
    rw [hitsOf_cons, List.append_eq_nil_iff] at hnone
    have hzero : applied.replacements = 0 := by
      by_contra hpos
      simp [hitsOf, Nat.pos_of_ne_zero hpos] at hnone
    rw [ih hnone.2, Rule.apply_text_of_zero happlied hzero]

/-- Passes without matches can be left out: all others see the same texts. -/
theorem filter {kept : String → Bool} (h : Passes rules text counts last)
    (hkept : ∀ x ∈ hitsOf rules counts, kept x.rule = true) :
    ∃ counts', Passes (rules.filter fun r => kept r.name) text counts' last ∧
      hitsOf (rules.filter fun r => kept r.name) counts' = hitsOf rules counts := by
  induction h with
  | done text => exact ⟨[], .done text, rfl⟩
  | @pass r rules text last counts applied happlied _ ih =>
    rw [hitsOf_cons] at hkept ⊢
    obtain ⟨counts', hpasses, hhits⟩ := ih fun x hx => hkept x (List.mem_append_right _ hx)
    by_cases hr : kept r.name = true
    · rw [List.filter_cons, if_pos hr]
      exact ⟨_, .pass happlied hpasses, by rw [hitsOf_cons, hhits]⟩
    · have hzero : applied.replacements = 0 := by
        by_contra hpos
        exact hr (hkept ⟨r.name, applied.replacements⟩ (by simp [hitsOf, Nat.pos_of_ne_zero hpos]))
      rw [Rule.apply_text_of_zero happlied hzero] at hpasses
      rw [List.filter_cons, if_neg hr]
      exact ⟨counts', hpasses, by rw [hhits]; simp [hitsOf, hzero]⟩

end Passes

/-! ## Conversions -/

/-- One step of a conversion is one pass. -/
theorem Conversion.step_eq (c : Conversion) {r : Rule} {applied : Rule.Applied} (h : r.apply c.text = .ok applied) :
    c.step r = .ok ⟨applied.text, c.hits ++ hitsOf [r] [applied.replacements]⟩ := by
  rw [step, h]
  show Except.ok _ = Except.ok _
  by_cases hzero : applied.replacements = 0
  · simp [hitsOf, hzero, Rule.apply_text_of_zero h hzero]
  · simp [hitsOf, hzero, Nat.pos_of_ne_zero hzero]

theorem Passes.foldlM_step {rules : List Rule} {counts : List Nat} {last : String} {c : Conversion}
    (h : Passes rules c.text counts last) :
    rules.foldlM Conversion.step c = .ok ⟨last, c.hits ++ hitsOf rules counts⟩ := by
  generalize htext : c.text = text at h
  induction h generalizing c with
  | done =>
    subst htext
    simp [hitsOf, pure, Except.pure]
  | @pass r rules text last counts applied happlied _ ih =>
    subst htext
    rw [List.foldlM_cons, c.step_eq happlied]
    refine (ih rfl).trans ?_
    rw [hitsOf_cons r rules, List.append_assoc]

/-- A conversion has the text of its last pass, and the rules that matched with their counts. -/
theorem convert_eq_ok_iff {rules : List Rule} {text : String} {c : Conversion} : convert rules text = .ok c ↔
    ∃ counts, Passes rules text counts c.text ∧ c.hits = hitsOf rules counts := by
  obtain ⟨counts, last, hpasses⟩ := Passes.total rules text
  have hconvert : convert rules text = .ok ⟨last, hitsOf rules counts⟩ :=
    hpasses.foldlM_step (c := ⟨text, []⟩)
  constructor
  · intro h
    cases hconvert.symm.trans h
    exact ⟨counts, hpasses, rfl⟩
  · rintro ⟨counts', hpasses', hhits⟩
    obtain ⟨ctext, chits⟩ := c
    obtain rfl := hhits
    exact hpasses'.foldlM_step (c := ⟨text, []⟩)

/-- A conversion of a text never fails. -/
theorem convert_total (rules : List Rule) (text : String) : ∃ c, convert rules text = .ok c := by
  obtain ⟨counts, last, hpasses⟩ := Passes.total rules text
  exact ⟨⟨last, _⟩, convert_eq_ok_iff.2 ⟨counts, hpasses, rfl⟩⟩

/-- Rules may be applied in parts. -/
theorem convert_append {rules more : List Rule} {text : String} {first second : Conversion}
    (h : convert rules text = .ok first) (h' : convert more first.text = .ok second) :
    convert (rules ++ more) text = .ok ⟨second.text, first.hits ++ second.hits⟩ := by
  obtain ⟨counts, hpasses, hhits⟩ := convert_eq_ok_iff.1 h
  obtain ⟨counts', hpasses', hhits'⟩ := convert_eq_ok_iff.1 h'
  refine convert_eq_ok_iff.2 ⟨counts ++ counts', hpasses.append hpasses', ?_⟩
  rw [hitsOf_append hpasses.length, hhits, hhits']

/-- Leaving out rules by their names does not change a conversion exactly if none of them matched. -/
theorem convert_filter {rules : List Rule} {text : String} {c : Conversion} (kept : String → Bool)
    (h : convert rules text = .ok c) :
    convert (rules.filter fun r => kept r.name) text = .ok c ↔ ∀ x ∈ c.hits, kept x.rule = true := by
  obtain ⟨counts, hpasses, hhits⟩ := convert_eq_ok_iff.1 h
  constructor
  · intro h' x hx
    obtain ⟨counts', _, hhits'⟩ := convert_eq_ok_iff.1 h'
    obtain ⟨r, hr, hname⟩ := exists_of_mem_hitsOf (hhits' ▸ hx)
    rw [← hname]
    exact (List.mem_filter.1 hr).2
  · intro hkept
    obtain ⟨counts', hpasses', hhits'⟩ := hpasses.filter (hhits ▸ hkept)
    exact convert_eq_ok_iff.2 ⟨counts', hpasses', hhits.trans hhits'.symm⟩

theorem Conversion.replacements_append (text : String) (hits hits' : List Hit) :
    (Conversion.mk text (hits ++ hits')).replacements =
      (Conversion.mk text hits).replacements + (Conversion.mk text hits').replacements := by
  induction hits with
  | nil => simp [replacements]
  | cons h hits ih =>
    simp only [replacements, List.cons_append, List.foldr_cons] at ih ⊢
    rw [ih, Nat.add_assoc]

/-- Some rules act as others do with one more pass, of a rule, over the result. -/
def Rule.OneMore (r : Rule) (rules more : List Rule) : Prop :=
  ∀ text, ∃ before applied, convert rules text = .ok before ∧ r.apply before.text = .ok applied ∧
    convert more text = .ok ⟨applied.text, before.hits ++ hitsOf [r] [applied.replacements]⟩

theorem Rule.oneMore_append (r : Rule) (rules : List Rule) : r.OneMore rules (rules ++ [r]) := by
  intro text
  obtain ⟨before, hbefore⟩ := convert_total rules text
  obtain ⟨applied, happlied⟩ := r.apply_total before.text
  refine ⟨before, applied, hbefore, happlied, ?_⟩
  have hone : convert [r] before.text = .ok ⟨applied.text, hitsOf [r] [applied.replacements]⟩ :=
    convert_eq_ok_iff.2 ⟨_, .pass happlied (.done _), rfl⟩
  exact convert_append hbefore hone

theorem Registry.addPattern_eq (reg : Registry) (pattern template : String) :
    reg.addPattern pattern template = (customText (reg.customCount + 1) pattern template).compile.map
      fun r => ⟨reg.rules ++ [r], reg.customCount + 1⟩ := by
  show ((customText (reg.customCount + 1) pattern template).compile >>= fun r => pure _) = _
  cases (customText (reg.customCount + 1) pattern template).compile <;> rfl

/-- A conversion is the composition of its rules. It never fails; rules may be applied in parts, where the texts follow
each other, and the hits, and the replacements add up; a rule added to a registry or a converter is one more pass over
the result; the hits are the rules that matched what those before them had left, with their counts; and a text without
hits is left as it is. -/
theorem convert_composes (rules more : List Rule) (c : Converter) (text : String) :
    (∃ first second, convert rules text = .ok first ∧ convert more first.text = .ok second ∧
      convert (rules ++ more) text = .ok ⟨second.text, first.hits ++ second.hits⟩ ∧
      (Conversion.mk second.text (first.hits ++ second.hits)).replacements =
        first.replacements + second.replacements) ∧
    (∀ r : Rule, r.OneMore c.registry.rules (c.registry.add r).rules) ∧
    (∀ pattern template c', c.addRule pattern template = .ok c' → ∃ r,
      (Registry.customText (c.registry.customCount + 1) pattern template).compile = .ok r ∧
        r.OneMore c.registry.rules c'.registry.rules) ∧
    ∃ whole counts, convert rules text = .ok whole ∧ Passes rules text counts whole.text ∧
      whole.hits = hitsOf rules counts ∧ (∀ h ∈ whole.hits, 0 < h.count) ∧ (whole.hits = [] → whole.text = text) := by
  refine ⟨?parts, fun r => r.oneMore_append _, ?added, ?hits⟩
  case parts =>
    obtain ⟨first, hfirst⟩ := convert_total rules text
    obtain ⟨second, hsecond⟩ := convert_total more first.text
    exact ⟨first, second, hfirst, hsecond, convert_append hfirst hsecond, Conversion.replacements_append ..⟩
  case added =>
    intro pattern template c' h
    unfold Converter.addRule at h
    rw [Registry.addPattern_eq] at h
    cases hr : (Registry.customText (c.registry.customCount + 1) pattern template).compile with
    | error e =>
      rw [hr] at h
      cases h
    | ok r =>
      rw [hr] at h
      cases h
      exact ⟨r, rfl, r.oneMore_append _⟩
  case hits =>
    obtain ⟨whole, hwhole⟩ := convert_total rules text
    obtain ⟨counts, hpasses, hhits⟩ := convert_eq_ok_iff.1 hwhole
    refine ⟨whole, counts, hwhole, hpasses, hhits, fun h hmem => count_pos_of_mem_hitsOf (hhits ▸ hmem),
      fun hnone => ?_⟩
    exact hpasses.unchanged (hhits ▸ hnone)

end Retarget
