import Retarget.Proofs.TemplateForms

/-!
# Templates for more groups

A template that has been read for a pattern can be read for any pattern with more groups. Only two-digit references may
then stand for something else: where there was no such group before, the second digit was text.

* `Reads.widen`: one step for more groups, the same or with one digit more,
* `Scan.widen`: the whole template for more groups,
* `Scan.same_iff`: when its pieces are the same,
* `parse_more`: what more groups make of a template.
-/

namespace Retarget.Template

/-- Two digits are read as a group and a character for a pattern with `count` groups, and as one group if there are
`more`. -/
structure Widens (count more : Nat) (d e : Char) : Prop where
  first : '1' ≤ d ∧ d ≤ '9'
  second : e.isDigit = true
  lt : count < Nat.ofDigitChars 10 [d, e] 0
  le : Nat.ofDigitChars 10 [d, e] 0 ≤ more

/-- Reading a template from left to right for `count` groups comes upon such a reference. -/
def MeetsWider (count more : Nat) (cs : List Char) : Prop :=
  ∃ ps d e after, Scan count cs ps ('$' :: d :: e :: after) ∧ Widens count more d e

/-- Pieces that differ in that groups have taken in the digits after them. -/
inductive Merged (count more : Nat) : List Piece → List Piece → Prop
  | nil : Merged count more [] []
  | same (p : Piece) {ps qs : List Piece} (h : Merged count more ps qs) : Merged count more (p :: ps) (p :: qs)
  | taken {d e : Char} {ps qs : List Piece} (hwide : Widens count more d e) (h : Merged count more ps qs) :
    Merged count more (.group (Nat.ofDigitChars 10 [d] 0) :: .char e :: ps)
      (.group (Nat.ofDigitChars 10 [d, e] 0) :: qs)

variable {count more : Nat} {cs rest : List Char} {p : Piece} {ps qs : List Piece} {d e : Char}

/-! ## One step -/

namespace Widens

theorem reads_less (h : Widens count more d e) (after : List Char) :
    Reads count ('$' :: d :: e :: after) (.group (Nat.ofDigitChars 10 [d] 0)) (e :: after) := by
  refine .reference (.one h.first ?_)
  rintro e' after' ⟨⟩ _
  exact h.lt

theorem reads_more (h : Widens count more d e) (after : List Char) :
    Reads more ('$' :: d :: e :: after) (.group (Nat.ofDigitChars 10 [d, e] 0)) after :=
  .reference (.two h.first h.second h.le)

/-- The two numbers are different, as the first digit is not zero. -/
theorem ne (h : Widens count more d e) :
    Piece.group (Nat.ofDigitChars 10 [d] 0) ≠ .group (Nat.ofDigitChars 10 [d, e] 0) := by
  have := first_iff.1 h.first
  rw [ofDigitChars_one, ofDigitChars_two]
  simp only [ne_eq, Piece.group.injEq]
  omega

theorem ten_le (h : Widens count more d e) : 10 ≤ more := by
  have := first_iff.1 h.first
  have hle := h.le
  rw [ofDigitChars_two] at hle
  omega

/-- The second digit is text by itself. -/
theorem second_ne (h : Widens count more d e) : e ≠ '$' := by
  rintro rfl
  cases h.second

end Widens

/-- Whether a dollar sign begins a reference does not depend on the number of groups. -/
theorem Reference.exists_for (h : Reference more cs p rest) (count : Nat) : ∃ p rest, Reference count cs p rest := by
  have hfirst : ∀ {d : Char} (cs : List Char), '1' ≤ d ∧ d ≤ '9' → ∃ p rest, Reference count (d :: cs) p rest :=
    fun cs hd => ⟨_, _, reference?_eq_some_iff.1 (reference?_first hd cs)⟩
  cases h with
  | dollar => exact ⟨_, _, .dollar⟩
  | whole => exact ⟨_, _, .whole⟩
  | braced hne hdigits hlt => exact ⟨_, _, .braced hne hdigits hlt⟩
  | two hd _ _ => exact hfirst _ hd
  | one hd _ => exact hfirst _ hd

/-- For more groups the same piece is read, unless its group takes in one more digit. -/
theorem Reads.widen (hle : count ≤ more) (h : Reads count cs p rest) : Reads more cs p rest ∨
    ∃ d e after, Widens count more d e ∧ cs = '$' :: d :: e :: after ∧ rest = e :: after ∧
      p = .group (Nat.ofDigitChars 10 [d] 0) := by
  cases h with
  | text hc => exact .inl (.text hc)
  | stray hnone =>
    refine .inl (.stray fun p rest h => ?_)
    obtain ⟨p', rest', h'⟩ := h.exists_for count
    exact hnone p' rest' h'
  | reference h =>
    cases h with
    | dollar => exact .inl (.reference .dollar)
    | whole => exact .inl (.reference .whole)
    | braced hne hdigits hlt => exact .inl (.reference (.braced hne hdigits hlt))
    | two hd he hcount => exact .inl (.reference (.two hd he (hcount.trans hle)))
    | @one d rest hd halone =>
      by_cases htwo : ∃ e after, rest = e :: after ∧ e.isDigit = true ∧ Nat.ofDigitChars 10 [d, e] 0 ≤ more
      · obtain ⟨e, after, rfl, he, hmore⟩ := htwo
        exact .inr ⟨d, e, after, ⟨hd, he, halone e after rfl he, hmore⟩, rfl, rfl, rfl⟩
      · refine .inl (.reference (.one hd fun e after hrest he => ?_))
        by_contra hmore
        exact htwo ⟨e, after, hrest, he, by omega⟩

/-! ## The whole template -/

/-- After a group that takes in one more digit, both ways to read a template are at the same place again. -/
theorem Scan.widen (hle : count ≤ more) (h : Scan count cs ps []) :
    ∃ qs, Scan more cs qs [] ∧ Merged count more ps qs := by
  -- A group that takes in a digit stands for two pieces, so the induction is on the number of pieces.
  induction hn : ps.length using Nat.strong_induction_on generalizing cs ps with
  | _ n ih =>
    subst hn
    cases h with
    | done => exact ⟨[], .done [], .nil⟩
    | @step _ next _ p ps hread hrest =>
      rcases hread.widen hle with hsame | ⟨d, e, after, hwide, rfl, rfl, rfl⟩
      · obtain ⟨qs, hqs, hmerged⟩ := ih _ (by simp) hrest rfl
        exact ⟨p :: qs, .step hsame hqs, .same p hmerged⟩
      · cases hrest with
        | step hdigit hrest =>
          obtain ⟨rfl, rfl⟩ := hdigit.unique (.text hwide.second_ne)
          obtain ⟨qs, hqs, hmerged⟩ := ih _ (by simp only [List.length_cons]; omega) hrest rfl
          exact ⟨_ :: qs, .step (hwide.reads_more _) hqs, .taken hwide hmerged⟩

theorem MeetsWider.step {next : List Char} (h : MeetsWider count more next) (hread : Reads count cs p next) :
    MeetsWider count more cs := by
  obtain ⟨ps, d, e, after, hscan, hwide⟩ := h
  exact ⟨p :: ps, d, e, after, .step hread hscan, hwide⟩

theorem Scan.same_of_not_meets (hle : count ≤ more) (h : Scan count cs ps rest)
    (hnone : ¬ MeetsWider count more cs) : Scan more cs ps rest := by
  induction h with
  | done cs => exact .done cs
  | step hread hrest ih =>
    rcases hread.widen hle with hsame | ⟨d, e, after, hwide, rfl, rfl, rfl⟩
    · exact .step hsame (ih fun hmeets => hnone (hmeets.step hread))
    · exact absurd ⟨[], d, e, after, .done _, hwide⟩ hnone

theorem MeetsWider.not_same (hle : count ≤ more) (hmeets : MeetsWider count more cs) (h : Scan count cs ps [])
    (hmore : Scan more cs ps []) : False := by
  obtain ⟨before, d, e, after, hbefore, hwide⟩ := hmeets
  generalize hplace : '$' :: d :: e :: after = place at hbefore
  -- Both ways to read go on together up to the place, where they give different groups.
  induction hbefore generalizing ps with
  | done cs =>
    subst hplace
    cases h with
    | step hless =>
      cases hmore with
      | step hmore =>
        have hone := (hwide.reads_less after).unique hless
        have htwo := (hwide.reads_more after).unique hmore
        exact hwide.ne (hone.1.trans htwo.1.symm)
  | step hread _ ih =>
    cases h with
    | done => cases hread
    | step hless hrest =>
      obtain ⟨rfl, rfl⟩ := hread.unique hless
      cases hmore with
      | step hmore hrestMore =>
        rcases hread.widen hle with hsame | ⟨d', e', after', hwide', rfl, rfl, rfl⟩
        · obtain ⟨_, rfl⟩ := hsame.unique hmore
          exact ih hrest hrestMore hplace
        · exact hwide'.ne ((hwide'.reads_more after').unique hmore).1.symm

/-- The pieces are the same exactly if no reference that takes in one more digit is met. -/
theorem Scan.same_iff (hle : count ≤ more) (h : Scan count cs ps []) :
    Scan more cs ps [] ↔ ¬ MeetsWider count more cs :=
  ⟨fun hmore hmeets => hmeets.not_same hle h hmore, h.same_of_not_meets hle⟩

theorem Merged.known (hle : count ≤ more) (h : Merged count more ps qs) (hknown : Known count ps) : Known more qs := by
  induction h with
  | nil => simp [Known]
  | same p _ ih =>
    obtain ⟨hp, hps⟩ := known_cons.1 hknown
    exact known_cons.2 ⟨fun g hg => (hp g hg).trans hle, ih hps⟩
  | taken hwide _ ih =>
    refine known_cons.2 ⟨?_, ih (known_cons.1 (known_cons.1 hknown).2).2⟩
    intro g hg
    cases List.mem_singleton.1 hg
    exact hwide.le

/-! ## More groups -/

/-- A template that can be read can be read for more groups. Its segments are the same unless reading it comes upon a
two-digit reference to a group that there was not before, so they are the same for up to nine groups; and every such
reference takes in its second digit, while all else stays as it is. -/
theorem parse_more {source : String} {t : Template} (hle : count ≤ more) (h : parse source count = .ok t) :
    ∃ t', parse source more = .ok t' ∧ (more ≤ 9 → t'.segments = t.segments) ∧
      (t'.segments = t.segments ↔ ¬ MeetsWider count more source.toList) ∧
      ∃ ps qs, t.segments = join [] ps ∧ t'.segments = join [] qs ∧ Merged count more ps qs := by
  obtain ⟨ps, hscan, hknown, rfl⟩ := exists_scan_of_parse h
  obtain ⟨qs, hmore, hmerged⟩ := hscan.widen hle
  have hsame : join [] qs = join [] ps ↔ ¬ MeetsWider count more source.toList := by
    rw [join_inj, ← hscan.same_iff hle]
    constructor
    · rintro rfl
      exact hmore
    · intro hps
      exact hps.unique hmore
  refine ⟨_, parse_of_scan hmore (hmerged.known hle hknown), ?_, hsame, ps, qs, rfl, rfl, hmerged⟩
  intro hnine
  apply hsame.2
  rintro ⟨_, d, e, after, _, hwide⟩
  have := hwide.ten_le
  omega

/-- With twelve groups the same digits are another group; those after a doubled dollar sign stay text. -/
theorem parse_more_twelve :
    parse "$1$$12$12" 1 = .ok ⟨"$1$$12$12", [.group 1, .literal "$12", .group 1, .literal "2"]⟩ ∧
    ∃ t', parse "$1$$12$12" 12 = .ok t' ∧ t'.segments ≠ [.group 1, .literal "$12", .group 1, .literal "2"] := by
  have hless : parse "$1$$12$12" 1 =
      .ok ⟨"$1$$12$12", [.group 1, .literal "$12", .group 1, .literal "2"]⟩ := by decide +kernel
  refine ⟨hless, ?_⟩
  have hle : 1 ≤ 12 := by decide
  obtain ⟨t', hmore, _, hsame, _⟩ := parse_more hle hless
  refine ⟨t', hmore, fun hsegments => hsame.1 hsegments ?_⟩
  have hone : Reads 1 "$1$$12$12".toList (.group (Nat.ofDigitChars 10 ['1'] 0)) "$$12$12".toList :=
    .reference (.one (by decide) (by rintro _ _ ⟨⟩ h; cases h))
  have hscan : Scan 1 "$1$$12$12".toList [_, _, _, _] "$12".toList :=
    .step hone (.step (.reference .dollar) (.step (.text (by decide)) (.step (.text (by decide)) (.done _))))
  exact ⟨_, _, _, [], hscan, by decide, by decide, by decide, by decide⟩

end Retarget.Template
