import Retarget.Proofs.Profile
import Retarget.Rule.Conversion

/-!
# Scripts of calls

A script is a row of calls with fragments between them. Each call is a text that the pattern of some rule matches as a
whole, and the fragments have no trigger in them.

* `Call.hot_in_script`: triggers lie in the calls that are not converted yet, at their own places,
* `Rule.apply_script`: a rule converts its own calls of a script and leaves the others alone,
* `Call.convert_script`: what a list of rules makes of a script, and of the result.
-/

namespace Retarget

open Pattern

/-- A call in a script: a text, the rule that it is a match of, the match and the fragment after the call. -/
structure Call where
  rule : Rule
  text : String
  span : Span
  fragment : String

namespace Call

/-- What the template of the rule makes of the call. -/
def converted (c : Call) : String := c.rule.template.expand (Rule.groupText c.text.toList.toArray c.span)

/-- The text of the call once the rules of some names are through. -/
def written (names : List String) (c : Call) : String := if names.contains c.rule.name then c.converted else c.text

/-- The call and the fragment after it. -/
def shown (names : List String) (c : Call) : String := c.written names ++ c.fragment

/-- A script in which the calls of the rules of some names are converted. -/
def script (names : List String) (head : String) (calls : List Call) : String :=
  head ++ String.join (calls.map (shown names))

/-- The characters of some calls and fragments. -/
def body (names : List String) (calls : List Call) : List Char := calls.flatMap fun c => (c.shown names).toList

theorem toList_script (names : List String) (head : String) (calls : List Call) :
    (script names head calls).toList = head.toList ++ body names calls := by
  simp [script, body, List.flatMap_map]

theorem body_append (names : List String) (calls calls' : List Call) :
    body names (calls ++ calls') = body names calls ++ body names calls' := List.flatMap_append

theorem body_cons (names : List String) (c : Call) (calls : List Call) :
    body names (c :: calls) = (c.written names).toList ++ (c.fragment.toList ++ body names calls) := by
  simp [body, shown]

/-- What is known of a call: its pieces, which fit the items of its rule. -/
structure Sound (ts : List Trigger) (pf : Rule → Profile) (ps : List (List Char)) (c : Call) : Prop where
  profile : (pf c.rule).Of ts c.rule
  converts : (pf c.rule).Converts ts
  tame : List.Forall₂ (Tame ts) (pf c.rule).items ps
  text : c.text.toList = ps.flatten
  span : c.span = c.rule.pattern.spanOf 0 (ps.flatten.length, noted 0 (pf c.rule).items ps)
  free : Free ts c.fragment.toList

/-- A call as a part of a text, cut where its trigger begins. -/
def part (names : List String) (pf : Rule → Profile) (ps : List (List Char)) (c : Call) : Pattern.Part :=
  if names.contains c.rule.name then ⟨c.converted.toList, [], c.fragment.toList⟩
  else ⟨(ps.take (pf c.rule).hot).flatten, (ps.drop (pf c.rule).hot).flatten, c.fragment.toList⟩

variable {ts : List Trigger} {pf : Rule → Profile} {ps : List (List Char)} {c : Call} {names : List String}

namespace Sound

theorem fits (h : c.Sound ts pf ps) : Fits (pf c.rule).items ps := fits_of_tame h.tame

/-- The match of the call where it lies in a text, with the groups that it has by itself. -/
theorem groupText_shift (h : c.Sound ts pf ps) {text : Array Char} {pos : Nat}
    (hpre : c.text.toList <+: text.toList.drop pos) :
    Rule.groupText text (c.span.shift pos) = Rule.groupOf (pf c.rule).groups (pf c.rule).items ps := by
  rw [h.span, ← spanOf_shift, Rule.groupText_spanOf h.fits (h.text ▸ hpre), h.profile.groups]

theorem converted_eq (h : c.Sound ts pf ps) :
    c.converted = c.rule.template.expand (Rule.groupOf (pf c.rule).groups (pf c.rule).items ps) := by
  have hself : c.span = c.span.shift 0 := by
    rw [h.span, ← spanOf_shift, Nat.zero_add]
  rw [converted, hself, h.groupText_shift (by simp)]

/-- The template makes the same of the call wherever it lies. -/
theorem expand_shift (h : c.Sound ts pf ps) {text : Array Char} {pos : Nat}
    (hpre : c.text.toList <+: text.toList.drop pos) :
    c.rule.template.expand (Rule.groupText text (c.span.shift pos)) = c.converted := by
  rw [h.groupText_shift hpre, h.converted_eq]

/-- What the template makes of the call has no trigger in it. -/
theorem converted_sound (h : c.Sound ts pf ps) :
    (Pattern.Part.mk c.converted.toList [] c.fragment.toList).Sound ts := by
  have hmade : c.converted.toList = (pf c.rule).made ps := by rw [h.converted_eq, h.profile.toList_expand]
  obtain ⟨⟨d, cs, hd, hapart⟩, hhot⟩ := h.converts.made_cold h.tame
  exact ⟨⟨d, cs, by simpa [hmade] using hd, hapart⟩, by simpa [hmade] using hhot, h.free⟩

/-- The call itself has a trigger at one place only. -/
theorem text_sound (h : c.Sound ts pf ps) :
    (Pattern.Part.mk (ps.take (pf c.rule).hot).flatten (ps.drop (pf c.rule).hot).flatten
      c.fragment.toList).Sound ts := by
  obtain ⟨c, cs, hc, hapart⟩ := Profile.startsApartItems_spec h.converts.starts h.fits
  refine ⟨⟨c, cs, ?_, hapart⟩, hotOnlyAt_spec h.converts.hotOnly h.tame, h.free⟩
  rw [← List.flatten_append, List.take_append_drop, hc]

theorem part_sound (h : c.Sound ts pf ps) (names : List String) : (c.part names pf ps).Sound ts := by
  unfold part
  split
  · exact h.converted_sound
  · exact h.text_sound

theorem part_text (h : c.Sound ts pf ps) (names : List String) :
    (c.part names pf ps).text = (c.shown names).toList := by
  unfold part shown written
  split
  · simp [Pattern.Part.text]
  · rw [Pattern.Part.text, ← List.flatten_append, List.take_append_drop, ← h.text, String.toList_append]

end Sound

/-! ## Triggers in a script -/

variable {pieces : Call → List (List Char)} {calls : List Call}

/-- A trigger in a script begins at its place in a call that is not converted. -/
theorem hot_in_script {head : String} (hhead : Free ts head.toList) (h : ∀ c ∈ calls, c.Sound ts pf (pieces c))
    {u v : List Char} (he : (script names head calls).toList = u ++ v) (hne : v ≠ []) (hv : Hot ts v) :
    ∃ calls₁ c calls₂, calls = calls₁ ++ c :: calls₂ ∧ names.contains c.rule.name = false ∧
      u = head.toList ++ body names calls₁ ++ ((pieces c).take (pf c.rule).hot).flatten ∧
      v = ((pieces c).drop (pf c.rule).hot).flatten ++ (c.fragment.toList ++ body names calls₂) := by
  have hbody : ∀ cs : List Call, (∀ c ∈ cs, c ∈ calls) →
      (cs.map fun c => c.part names pf (pieces c)).flatMap Pattern.Part.text = body names cs := by
    intro cs hcs
    rw [List.flatMap_map, body]
    exact List.flatMap_congr fun c hc => (h c (hcs c hc)).part_text names
  have hsound : ∀ p ∈ calls.map fun c => c.part names pf (pieces c), p.Sound ts := by
    intro p hp
    obtain ⟨c, hc, rfl⟩ := List.mem_map.1 hp
    exact (h c hc).part_sound names
  rw [toList_script, ← hbody calls fun c hc => hc] at he
  obtain ⟨parts₁, p, parts₂, hparts, hafter, hu, hv⟩ := hot_in_parts hhead hsound he hne hv
  obtain ⟨calls₁, rest, rfl, rfl, hrest⟩ := List.map_eq_append_iff.1 hparts
  obtain ⟨c, calls₂, rfl, rfl, rfl⟩ := List.map_eq_cons_iff.1 hrest
  -- a converted call has no trigger in it
  have hopen : names.contains c.rule.name = false := by
    by_contra hdone
    rw [part, if_pos (Bool.eq_true_of_not_eq_false hdone)] at hafter
    exact hafter rfl
  rw [hbody calls₁ (by simp +contextual)] at hu
  rw [hbody calls₂ (by simp +contextual)] at hv
  simp only [part, hopen, Bool.false_eq_true, if_false] at hu hv
  exact ⟨calls₁, c, calls₂, rfl, hopen, hu, hv⟩

/-! ## The matches of a rule in a script -/

/-- Is the call one that a rule has still to convert? -/
def due (r : Rule) (names : List String) (c : Call) : Bool := c.rule.name == r.name && !names.contains r.name

/-- The matches of a rule in calls that begin at a position. -/
def placed (r : Rule) (names : List String) : Nat → List Call → List Span
  | _, [] => []
  | pos, c :: calls =>
    (if c.due r names then [c.span.shift pos] else []) ++ placed r names (pos + (c.shown names).toList.length) calls

variable {r : Rule}

theorem name_of_due (h : c.due r names = true) : c.rule.name = r.name := by
  simp only [due, Bool.and_eq_true, beq_iff_eq] at h
  exact h.1

theorem written_of_due (h : c.due r names = true) : c.written names = c.text := by
  simp only [due, Bool.and_eq_true, beq_iff_eq, Bool.not_eq_true'] at h
  rw [written, h.1, h.2]
  rfl

theorem mem_placed {pos : Nat} {m : Span} : m ∈ placed r names pos calls ↔
    ∃ calls₁ c calls₂, calls = calls₁ ++ c :: calls₂ ∧ c.due r names = true ∧
      m = c.span.shift (pos + (body names calls₁).length) := by
  induction calls generalizing pos with
  | nil => simp [placed]
  | cons c calls ih =>
    rw [placed, List.mem_append, ih]
    constructor
    · rintro (h | ⟨calls₁, d, calls₂, rfl, hd, rfl⟩)
      · split at h
        · next hdue => exact ⟨[], c, calls, rfl, hdue, by simpa [body] using h⟩
        · cases h
      · exact ⟨c :: calls₁, d, calls₂, rfl, hd, by simp [body, Nat.add_assoc]⟩
    · rintro ⟨calls₁, d, calls₂, he, hd, rfl⟩
      rcases List.cons_eq_append_iff.1 he with ⟨rfl, hcons⟩ | ⟨calls₁, rfl, rfl⟩
      · cases hcons
        exact .inl (by simp [hd, body])
      · exact .inr ⟨calls₁, d, calls₂, rfl, hd, by simp [body, Nat.add_assoc]⟩

theorem length_placed (r : Rule) (names : List String) (pos : Nat) (calls : List Call) :
    (placed r names pos calls).length = calls.countP (due r names) := by
  induction calls generalizing pos with
  | nil => rfl
  | cons c calls ih =>
    rw [placed, List.length_append, ih, List.countP_cons]
    split <;> simp [Nat.add_comm]

theorem Sound.span_bounds (h : c.Sound ts pf ps) : c.span.start = 0 ∧ c.span.stop = c.text.toList.length := by
  rw [h.span, h.text]
  exact ⟨rfl, rfl⟩

theorem Sound.text_ne_nil (h : c.Sound ts pf ps) : c.text.toList ≠ [] := by
  intro hnil
  have hcore := (h.profile.hot_core h.fits []).1
  rw [h.text, ← List.take_append_drop (pf c.rule).hot ps, List.flatten_append, List.append_eq_nil_iff] at hnil
  exact hcore (by rw [hnil.2]; rfl)

theorem placed_ascending (h : ∀ c ∈ calls, c.Sound ts pf (pieces c)) (pos : Nat) :
    (placed r names pos calls).Pairwise fun a b => a.stop ≤ b.start := by
  induction calls generalizing pos with
  | nil => exact .nil
  | cons c calls ih =>
    obtain ⟨hc, hcalls⟩ := List.forall_mem_cons.1 h
    rw [placed]
    split
    · next hdue =>
      refine List.pairwise_cons.2 ⟨fun m hm => ?_, ih hcalls _⟩
      obtain ⟨calls₁, d, calls₂, rfl, _, rfl⟩ := mem_placed.1 hm
      have hstop := hc.span_bounds.2
      simp only [Span.shift, shown, written_of_due hdue, String.toList_append, List.length_append]
      omega
    · exact ih hcalls _

/-- The text of a call where it lies in a script. -/
theorem text_at_due (head : String) (calls₁ calls₂ : List Call) (hdue : c.due r names = true) :
    c.text.toList <+: (script names head (calls₁ ++ c :: calls₂)).toList.drop
      (head.toList.length + (body names calls₁).length) := by
  rw [toList_script, body_append, body_cons, written_of_due hdue, ← List.append_assoc,
    List.drop_left' (by simp)]
  exact List.prefix_append _ _

/-- The rule is told apart from the rules of the calls: it is the same as theirs if it has the name, and clashes with
theirs otherwise. -/
structure Apart (pf : Rule → Profile) (r : Rule) (c : Call) : Prop where
  same : c.rule.name = r.name → c.rule = r
  other : c.rule.name ≠ r.name → clash (pf r).core (pf c.rule).core = true

/-- Two rows of pieces for the items of a rule that has a call, one of them the call's, agree if they agree from the
trigger on. -/
theorem Sound.pieces_eq (h : c.Sound ts pf ps) {qs : List (List Char)} (hq : Fits (pf c.rule).items qs)
    {A B : List Char} (he : (qs.drop (pf c.rule).hot).flatten ++ A = (ps.drop (pf c.rule).hot).flatten ++ B) :
    qs = ps := by
  have hcore := (pieces_unique h.converts.settled (List.forall₂_drop _ hq) (List.forall₂_drop _ h.fits) he).1
  have hbefore := literal_unique h.converts.literal (List.forall₂_take _ hq) (List.forall₂_take _ h.fits)
  rw [← List.take_append_drop (pf c.rule).hot qs, hcore, hbefore, List.take_append_drop]

/-- A rule matches in a script only where one of its calls is that it has still to convert. -/
theorem takes_in_script {head : String} (hr : (pf r).Of ts r) (hhead : Free ts head.toList)
    (h : ∀ c ∈ calls, c.Sound ts pf (pieces c)) (hapart : ∀ c ∈ calls, c.Apart pf r) {i : Nat} {b : Mark}
    (hb : r.pattern.node.Takes (script names head calls).toList.toArray (i, []) b) :
    ∃ calls₁ c calls₂, calls = calls₁ ++ c :: calls₂ ∧ c.due r names = true ∧
      r.pattern.spanOf i b = c.span.shift (head.toList.length + (body names calls₁).length) := by
  obtain ⟨qs, hqs, ⟨rest, hrest⟩, rfl⟩ := (Node.takes_iff hr.items).1 hb
  simp only [List.append_nil] at hrest ⊢
  obtain ⟨hne, hhot⟩ := hr.hot_core hqs rest
  have hcut : (script names head calls).toList = (script names head calls).toList.take i ++
      (qs.take (pf r).hot).flatten ++ ((qs.drop (pf r).hot).flatten ++ rest) := by
    rw [List.append_assoc, ← List.append_assoc _ _ rest, ← List.flatten_append, List.take_append_drop, hrest,
      List.take_append_drop]
  obtain ⟨calls₁, c, calls₂, rfl, hopen, hu, hv⟩ := hot_in_script hhead h hcut hne hhot
  have hmem : c ∈ calls₁ ++ c :: calls₂ := by simp
  have hsound := h c hmem
  -- the match has the trigger of the call, so its rule is that of the call
  have hname : c.rule.name = r.name := by
    by_contra hname
    exact not_clash ((hapart c hmem).other hname) (List.forall₂_drop _ hqs) (List.forall₂_drop _ hsound.fits) hv
  obtain rfl := (hapart c hmem).same hname
  obtain rfl := hsound.pieces_eq hqs hv
  have hi : i = head.toList.length + (body names calls₁).length := by
    have hlen := congrArg List.length (List.append_cancel_right hu)
    have hlt : i < (script names head (calls₁ ++ c :: calls₂)).toList.length := by
      by_contra hge
      rw [List.drop_eq_nil_of_le (by omega), ← hsound.text] at hrest
      exact hsound.text_ne_nil (List.append_eq_nil_iff.1 hrest).1
    rw [List.length_take, Nat.min_eq_left hlt.le, List.length_append] at hlen
    exact hlen
  refine ⟨calls₁, c, calls₂, rfl, by simp only [due, hopen]; simp, ?_⟩
  rw [spanOf_shift, hsound.span, hi]

/-- All matches of a rule in a script are known. -/
theorem known_placed {head : String} (hr : (pf r).Of ts r) (hhead : Free ts head.toList)
    (h : ∀ c ∈ calls, c.Sound ts pf (pieces c)) (hapart : ∀ c ∈ calls, c.Apart pf r) :
    Known r.pattern (script names head calls).toList.toArray 0 (placed r names head.toList.length calls) where
  isMatch m hm := by
    obtain ⟨calls₁, c, calls₂, rfl, hdue, rfl⟩ := mem_placed.1 hm
    have hmem : c ∈ calls₁ ++ c :: calls₂ := by simp
    have hsound := h c hmem
    obtain rfl := (hapart c hmem).same (name_of_due hdue)
    obtain ⟨hstart, hstop⟩ := hsound.span_bounds
    have hpos : 0 < c.text.toList.length := List.length_pos_iff.2 hsound.text_ne_nil
    have htext := text_at_due head calls₁ calls₂ hdue
    refine ⟨Nat.zero_le _, ?_, ?_, _, (Node.takes_iff hr.items).2 ⟨pieces c, hsound.fits, ?_, rfl⟩⟩
    · simp only [Span.shift]
      omega
    · simp only [Span.shift, hstart, List.size_toArray, toList_script, body_append, List.length_append]
      omega
    · simpa only [Span.shift, hstart, Nat.zero_add, ← hsound.text] using htext
  ascending := placed_ascending h _
  all i b _ hb := mem_placed.2 (takes_in_script hr hhead h hapart hb)

/-! ## One rule -/

theorem written_cons_of_due (h : c.due r names = true) : c.written (r.name :: names) = c.converted := by
  rw [written, name_of_due h]
  simp

theorem written_cons (h : c.due r names = false) : c.written (r.name :: names) = c.written names := by
  simp only [due, Bool.and_eq_false_iff, beq_eq_false_iff_ne, ne_eq, Bool.not_eq_false'] at h
  simp only [written, List.contains_cons]
  rcases h with h | h
  · simp [h]
  · by_cases hname : c.rule.name = r.name
    · rw [hname, h, Bool.or_true]
    · simp [hname]

/-- Replacing the matches of a rule converts its calls. -/
theorem weave_placed {text : Array Char} (h : ∀ c ∈ calls, c.Sound ts pf (pieces c))
    (hapart : ∀ c ∈ calls, c.Apart pf r) {pos : Nat} {gap : List Char}
    (htext : text.toList.drop pos = gap ++ body names calls) :
    r.weave text pos (placed r names (pos + gap.length) calls) = gap ++ body (r.name :: names) calls := by
  induction calls generalizing pos gap with
  | nil => simpa [placed, Rule.weave, body] using htext
  | cons c calls ih =>
    obtain ⟨hc, hcalls⟩ := List.forall_mem_cons.1 h
    obtain ⟨hac, hacalls⟩ := List.forall_mem_cons.1 hapart
    rw [body_cons] at htext
    rw [placed, body_cons]
    by_cases hdue : c.due r names = true
    · obtain rfl := hac.same (name_of_due hdue)
      obtain ⟨hstart, hstop⟩ := hc.span_bounds
      rw [written_of_due hdue] at htext
      have hcall : c.text.toList <+: text.toList.drop (pos + gap.length) := by
        rw [← List.drop_drop, htext, List.drop_left]
        exact List.prefix_append _ _
      have hrest : text.toList.drop (pos + gap.length + c.text.toList.length) =
          c.fragment.toList ++ body names calls := by
        rw [← List.drop_drop, ← List.drop_drop, htext, List.drop_left, List.drop_left]
      have hlater := ih hcalls hacalls hrest
      rw [if_pos hdue, List.singleton_append, Rule.weave, hc.expand_shift hcall, written_cons_of_due hdue]
      simp only [Span.shift, hstart, hstop, shown, written_of_due hdue, String.toList_append, List.length_append,
        Nat.zero_add, Nat.add_sub_cancel_left, htext, List.take_left, List.append_assoc]
      rw [Nat.add_comm c.text.toList.length, ← hlater]
      simp only [Nat.add_assoc]
    · have hwritten := written_cons (Bool.eq_false_of_not_eq_true hdue)
      have hgap : text.toList.drop pos = (gap ++ (c.shown names).toList) ++ body names calls := by
        simpa [shown] using htext
      have hlater := ih hcalls hacalls hgap
      rw [List.length_append, ← Nat.add_assoc] at hlater
      rw [if_neg hdue, List.nil_append, hlater, hwritten]
      simp [shown]

/-- A rule converts its calls of a script, if it has not done so yet, and nothing else. -/
theorem apply_script {head : String} (hr : (pf r).Of ts r) (hhead : Free ts head.toList)
    (h : ∀ c ∈ calls, c.Sound ts pf (pieces c)) (hapart : ∀ c ∈ calls, c.Apart pf r) :
    r.apply (script names head calls) =
      .ok ⟨script (r.name :: names) head calls, calls.countP (due r names)⟩ := by
  have hmatches : r.pattern.allMatches (script names head calls).toList.toArray =
      placed r names head.toList.length calls :=
    scan_eq (scan_allMatches r.pattern _) (known_placed hr hhead h hapart)
  have hweave : r.weave (script names head calls).toList.toArray 0 (placed r names head.toList.length calls) =
      head.toList ++ body (r.name :: names) calls := by
    have htext : (script names head calls).toList.toArray.toList.drop 0 = head.toList ++ body names calls := by
      simp [toList_script]
    have hall := weave_placed h hapart htext
    rwa [Nat.zero_add] at hall
  rw [r.apply_eq, hmatches, hweave, length_placed, ← toList_script, String.ofList_toList]

/-! ## A list of rules -/

/-- The number of calls that belong to a rule. -/
def count (calls : List Call) (r : Rule) : Nat := calls.countP fun c => c.rule.name == r.name

/-- The rules that have calls, with the numbers of their calls. -/
def hits (calls : List Call) (rules : List Rule) : List Hit :=
  rules.filterMap fun r => if count calls r = 0 then none else some ⟨r.name, count calls r⟩

theorem hits_cons (calls : List Call) (r : Rule) (rules : List Rule) :
    hits calls (r :: rules) = (if count calls r = 0 then [] else [⟨r.name, count calls r⟩]) ++ hits calls rules := by
  rw [hits, List.filterMap_cons]
  split
  · next h => simp_all [hits]
  · next h => simp_all [hits]

theorem script_congr {names' : List String} {head : String}
    (h : ∀ c ∈ calls, names.contains c.rule.name = names'.contains c.rule.name) :
    script names head calls = script names' head calls := by
  have hshown : ∀ c ∈ calls, c.shown names = c.shown names' := by
    intro c hc
    rw [shown, shown, written, h c hc, written]
  rw [script, script, List.map_congr_left hshown]

theorem countP_due (h : names.contains r.name = false) :
    calls.countP (due r names) = count calls r := by
  rw [count]
  congr 1
  funext c
  rw [due, h, Bool.not_false, Bool.and_true]

/-- What a list of rules, none of them used before, makes of a script. -/
theorem foldlM_script {rules : List Rule} {head : String} {found : List Hit} (hr : ∀ r ∈ rules, (pf r).Of ts r)
    (hhead : Free ts head.toList) (h : ∀ c ∈ calls, c.Sound ts pf (pieces c))
    (hapart : ∀ r ∈ rules, ∀ c ∈ calls, c.Apart pf r) (hnodup : (rules.map Rule.name).Nodup)
    (hnew : ∀ r ∈ rules, names.contains r.name = false) :
    rules.foldlM Conversion.step ⟨script names head calls, found⟩ =
      .ok ⟨script ((rules.map Rule.name).reverse ++ names) head calls, found ++ hits calls rules⟩ := by
  induction rules generalizing names found with
  | nil => simp [hits, pure, Except.pure]
  | cons r rules ih =>
    obtain ⟨hr₁, hr₂⟩ := List.forall_mem_cons.1 hr
    obtain ⟨hapart₁, hapart₂⟩ := List.forall_mem_cons.1 hapart
    obtain ⟨hnew₁, hnew₂⟩ := List.forall_mem_cons.1 hnew
    obtain ⟨hnot, hnodup⟩ := List.nodup_cons.1 hnodup
    have hlater : ∀ r' ∈ rules, (r.name :: names).contains r'.name = false := by
      intro r' hr'
      have hne : r'.name ≠ r.name := fun he => hnot (List.mem_map.2 ⟨r', hr', he⟩)
      rw [List.contains_cons, hnew₂ r' hr', Bool.or_false]
      simpa using hne
    have hstep : Conversion.step ⟨script names head calls, found⟩ r =
        .ok ⟨script (r.name :: names) head calls,
          found ++ if count calls r = 0 then [] else [⟨r.name, count calls r⟩]⟩ := by
      rw [Conversion.step, apply_script hr₁ hhead h hapart₁, countP_due hnew₁]
      by_cases hzero : count calls r = 0
      · -- no call belongs to the rule, so the script stays as it is
        have hsame : script (r.name :: names) head calls = script names head calls := by
          refine script_congr fun c hc => ?_
          have hname : (c.rule.name == r.name) = false := by
            simpa using List.countP_eq_zero.1 hzero c hc
          rw [List.contains_cons, hname, Bool.false_or]
        simp [hzero, hsame, bind, Except.bind, pure, Except.pure]
      · simp [hzero, bind, Except.bind, pure, Except.pure]
    rw [List.foldlM_cons, hstep]
    refine (ih hr₂ hapart₂ hnodup hlater).trans ?_
    simp [hits_cons, List.append_assoc]

/-- Rules that have been used make nothing of a script. -/
theorem foldlM_done {rules : List Rule} {head : String} (hr : ∀ r ∈ rules, (pf r).Of ts r)
    (hhead : Free ts head.toList) (h : ∀ c ∈ calls, c.Sound ts pf (pieces c))
    (hapart : ∀ r ∈ rules, ∀ c ∈ calls, c.Apart pf r) (hdone : ∀ r ∈ rules, names.contains r.name = true) :
    rules.foldlM Conversion.step ⟨script names head calls, []⟩ = .ok ⟨script names head calls, []⟩ := by
  induction rules with
  | nil => rfl
  | cons r rules ih =>
    obtain ⟨hr₁, hr₂⟩ := List.forall_mem_cons.1 hr
    obtain ⟨hapart₁, hapart₂⟩ := List.forall_mem_cons.1 hapart
    obtain ⟨hdone₁, hdone₂⟩ := List.forall_mem_cons.1 hdone
    have hnone : calls.countP (due r names) = 0 := by
      refine List.countP_eq_zero.2 fun c _ => ?_
      rw [due, hdone₁, Bool.not_true, Bool.and_false]
      exact Bool.false_ne_true
    have hstep : Conversion.step ⟨script names head calls, []⟩ r = .ok ⟨script names head calls, []⟩ := by
      rw [Conversion.step, apply_script hr₁ hhead h hapart₁, hnone]
      rfl
    rw [List.foldlM_cons, hstep]
    exact ih hr₂ hapart₂ hdone₂

/-- A list of rules converts exactly their calls, and converting the result changes nothing. -/
theorem convert_script {rules : List Rule} {head : String} (hr : ∀ r ∈ rules, (pf r).Of ts r)
    (hhead : Free ts head.toList) (h : ∀ c ∈ calls, c.Sound ts pf (pieces c))
    (hapart : ∀ r ∈ rules, ∀ c ∈ calls, c.Apart pf r) (hnodup : (rules.map Rule.name).Nodup) :
    convert rules (script [] head calls) =
        .ok ⟨script (rules.map Rule.name) head calls, hits calls rules⟩ ∧
      convert rules (script (rules.map Rule.name) head calls) = .ok ⟨script (rules.map Rule.name) head calls, []⟩ := by
  constructor
  · rw [convert, foldlM_script hr hhead h hapart hnodup (by simp), List.append_nil, List.nil_append]
    congr 2
    exact script_congr fun c _ => by simp
  · refine foldlM_done hr hhead h hapart fun r hr' => ?_
    exact List.contains_iff_mem.2 (List.mem_map_of_mem hr')

end Call

end Retarget
