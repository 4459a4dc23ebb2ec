import Retarget.Proofs.Search
import Retarget.Rule.Basic

/-!
# One pass of a rule

The matches of a pattern are those of repeated searches (`Scan`). They lie in the text, one after another, so the
edits that a rule asks for never clash, and making them gives the gaps between the matches joined with the
replacements (`Rule.weave`).

* `Pattern.scan_allMatches`: `allMatches` is the whole iteration,
* `Rule.applyAll_edits`: the edits of a rule are made, with this result.
-/

namespace Retarget

/-! ## Iterated searches -/

namespace Pattern

/-- The matches of repeated searches from a position on; `afterMatch` says that the position is the end of a match. An
empty match there is passed over, and after an empty match the search moves on by one character. -/
inductive Scan (p : Pattern) (text : Array Char) : Nat → Bool → List Span → Prop
  | none {start : Nat} {afterMatch : Bool} (h : p.findNext? text start afterMatch = .none) :
      Scan p text start afterMatch []
  | empty {start : Nat} {afterMatch : Bool} {m : Span} {ms : List Span}
      (h : p.findNext? text start afterMatch = some m) (he : m.start = m.stop)
      (rest : Scan p text (m.stop + 1) false ms) : Scan p text start afterMatch (m :: ms)
  | other {start : Nat} {afterMatch : Bool} {m : Span} {ms : List Span}
      (h : p.findNext? text start afterMatch = some m) (he : m.start ≠ m.stop)
      (rest : Scan p text m.stop true ms) : Scan p text start afterMatch (m :: ms)

variable {p : Pattern} {text : Array Char}

/-- A match lies in the text, at or after the position where the search starts. -/
theorem find?_bounds {start : Nat} {m : Span} (h : p.find? text start = some m) :
    start ≤ m.start ∧ m.start ≤ m.stop ∧ m.stop ≤ text.size := by
  obtain ⟨h₁, h₂, ⟨t, ht⟩, _⟩ := search_eq_some h
  exact ⟨h₁, ht.bounds h₂⟩

theorem findNext?_bounds {start : Nat} {afterMatch : Bool} {m : Span}
    (h : p.findNext? text start afterMatch = some m) : start ≤ m.start ∧ m.start ≤ m.stop ∧ m.stop ≤ text.size := by
  unfold findNext? at h
  split at h
  · cases h
  · next m' hm' =>
    split at h
    · have := find?_bounds h
      omega
    · cases h
      exact find?_bounds hm'

/-- There is no match after the end of the text. -/
theorem findNext?_eq_none {start : Nat} (h : text.size < start) (afterMatch : Bool) :
    p.findNext? text start afterMatch = .none := by
  cases he : p.findNext? text start afterMatch with
  | none => rfl
  | some m =>
    have := findNext?_bounds he
    omega

theorem scan_matchesFrom {fuel start : Nat} (h : text.size + 1 ≤ start + fuel) (afterMatch : Bool) :
    Scan p text start afterMatch (p.matchesFrom text fuel start afterMatch) := by
  induction fuel generalizing start afterMatch with
  | zero => exact .none (findNext?_eq_none (by omega) _)
  | succ fuel ih =>
    rw [matchesFrom]
    split
    · next hm => exact .none hm
    · next m hm =>
      have hb := findNext?_bounds hm
      split
      · next he => exact .empty hm (by simpa using he) (ih (by omega) _)
      · next he =>
        have hne : m.start ≠ m.stop := by simpa using he
        exact .other hm hne (ih (by omega) _)

/-- `allMatches` gives all matches of repeated searches. -/
theorem scan_allMatches (p : Pattern) (text : Array Char) : Scan p text 0 false (p.allMatches text) :=
  scan_matchesFrom (by omega) _

/-- The matches of a scan begin at or after its position. -/
theorem Scan.bounds {start : Nat} {afterMatch : Bool} {ms : List Span} (h : Scan p text start afterMatch ms) :
    ∀ m ∈ ms, start ≤ m.start ∧ m.start ≤ m.stop ∧ m.stop ≤ text.size := by
  induction h with
  | none => simp
  | empty h _ _ ih | other h _ _ ih =>
    have hb := findNext?_bounds h
    intro m' hm'
    rcases List.mem_cons.1 hm' with rfl | hm'
    · exact hb
    · have := ih m' hm'
      omega

/-- Spans from left to right that do not overlap, each beginning after the beginning of the one before. -/
abbrev Ascending (ms : List Span) : Prop := ms.Pairwise fun a b => a.start < b.start ∧ a.stop ≤ b.start

theorem Scan.ascending {start : Nat} {afterMatch : Bool} {ms : List Span} (h : Scan p text start afterMatch ms) :
    Ascending ms := by
  induction h with
  | none => exact .nil
  | empty h he rest ih =>
    refine List.pairwise_cons.2 ⟨fun m' hm' => ?_, ih⟩
    have := rest.bounds m' hm'
    omega
  | other h he rest ih =>
    refine List.pairwise_cons.2 ⟨fun m' hm' => ?_, ih⟩
    have hb := findNext?_bounds h
    have := rest.bounds m' hm'
    omega

end Pattern

/-! ## Offsets of positions -/

namespace Text

theorem byteLength_take_le {cs : List Char} {i j : Nat} (h : i ≤ j) :
    byteLength (cs.take i) ≤ byteLength (cs.take j) := by
  obtain ⟨k, rfl⟩ := Nat.exists_eq_add_of_le h
  rw [List.take_add, byteLength_append]
  omega

theorem byteLength_pos {cs : List Char} (h : cs ≠ []) : 0 < byteLength cs := by
  cases cs with
  | nil => exact absurd rfl h
  | cons c cs =>
    have := c.utf8Size_pos
    simp only [byteLength]
    omega

theorem byteLength_take_lt {cs : List Char} {i j : Nat} (h : i < j) (hj : j ≤ cs.length) :
    byteLength (cs.take i) < byteLength (cs.take j) := by
  obtain ⟨k, rfl⟩ := Nat.exists_eq_add_of_le h.le
  have hne : (cs.drop i).take k ≠ [] := by
    intro he
    have := congrArg List.length he
    simp only [List.length_take, List.length_drop, List.length_nil] at this
    omega
  have := byteLength_pos hne
  rw [List.take_add, byteLength_append]
  omega

theorem byteLength_take_le_length (cs : List Char) (i : Nat) : byteLength (cs.take i) ≤ byteLength cs := by
  have h := congrArg byteLength (List.take_append_drop i cs)
  rw [byteLength_append] at h
  omega

/-- The offset of a position is a boundary. -/
theorem isBoundary_take (cs : List Char) (i : Nat) : isBoundary cs (byteLength (cs.take i)) = true := by
  have h := splitAt?_append (cs.take i) (cs.drop i)
  rw [List.take_append_drop] at h
  simp [isBoundary, h]

end Text

/-! ## Edits from the last to the first -/

namespace Edit

open Text

/-- Edits whose starts ascend are made in the reverse order. -/
theorem descending_eq_reverse {edits : List Edit} (h : edits.Pairwise fun a b => a.start < b.start) :
    descending edits = edits.reverse := by
  have hperm : (descending edits).Perm edits := List.mergeSort_perm _ _
  have hsorted : (descending edits).Pairwise fun a b => decide (b.start ≤ a.start) = true := by
    refine List.pairwise_mergeSort (fun a b c => ?_) (fun a b => ?_) edits
    · simp only [decide_eq_true_eq]
      omega
    · simp only [Bool.or_eq_true, decide_eq_true_eq]
      omega
  have hreverse : edits.reverse.Pairwise fun a b => decide (b.start ≤ a.start) = true :=
    List.pairwise_reverse.2 (h.imp fun h => by simpa using h.le)
  -- two edits with one start are one edit
  have hdistinct : ∀ a ∈ edits, ∀ b ∈ edits, a.start = b.start → a = b :=
    List.Pairwise.forall_of_forall_of_flip (fun _ _ _ => rfl) (h.imp fun h he => absurd he h.ne)
      (h.imp fun h he => absurd he h.ne')
  refine List.Perm.eq_of_pairwise (fun a b ha hb hab hba => ?_) hsorted hreverse
    (hperm.trans (List.reverse_perm edits).symm)
  simp only [decide_eq_true_eq] at hab hba
  exact hdistinct a (hperm.mem_iff.1 ha) b (List.mem_reverse.1 hb) (by omega)

/-- An edit whose range lies in the text and ends at boundaries. -/
structure Fits (source : List Char) (e : Edit) : Prop where
  ordered : e.start ≤ e.stop
  inside : e.stop ≤ byteLength source
  start_boundary : isBoundary source e.start = true
  stop_boundary : isBoundary source e.stop = true

/-- Edits that fit and come from the last to the first pass the checks. -/
theorem checkAll_eq_ok {source : List Char} {limit : Option Nat} {edits : List Edit}
    (hfits : ∀ e ∈ edits, e.Fits source) (hdesc : edits.Pairwise fun a b => b.stop ≤ a.start)
    (hlimit : ∀ e ∈ edits, ∀ n, limit = some n → e.stop ≤ n) : checkAll source limit edits = .ok () := by
  induction edits generalizing limit with
  | nil => rfl
  | cons e rest ih =>
    have he := hfits e List.mem_cons_self
    have hcheck : e.check source limit = .ok () := by
      have h₁ : ¬(byteLength source < e.stop ∨ e.stop < e.start) := by
        have := he.ordered
        have := he.inside
        omega
      have h₂ : limit.any (fun n => decide (n < e.stop)) = false := by
        cases limit with
        | none => rfl
        | some n =>
          have := hlimit e List.mem_cons_self n rfl
          simp only [Option.any_some, decide_eq_false_iff_not]
          omega
      simp [check, h₁, he.start_boundary, he.stop_boundary, h₂]
    rw [checkAll, hcheck]
    obtain ⟨hhead, htail⟩ := List.pairwise_cons.1 hdesc
    refine ih (fun e' h' => hfits e' (List.mem_cons_of_mem _ h')) htail fun e' h' n hn => ?_
    cases hn
    exact hhead e' h'

theorem applyAll_of_checked {source : String} {edits : List Edit}
    (h : checkAll source.toList none (descending edits) = .ok ()) :
    applyAll source edits = .ok (String.ofList ((descending edits).foldl replace source.toList)) := by
  show (do checkAll source.toList none (descending edits); pure _) = _
  rw [h]
  rfl

/-- An edit between two cuts of a text. -/
theorem replace_eq {pre mid post : List Char} {e : Edit} (hstart : e.start = byteLength pre)
    (hstop : e.stop = byteLength (pre ++ mid)) : replace (pre ++ mid ++ post) e = pre ++ e.text.toList ++ post := by
  have h₁ := splitAt?_append pre (mid ++ post)
  have h₂ := splitAt?_append (pre ++ mid) post
  rw [← List.append_assoc] at h₁
  simp only [replace, hstart, hstop, h₁, h₂]

end Edit

/-! ## The text after a pass -/

namespace Rule

open Text

/-- The text from a position on, with each match replaced by the template filled in with its groups. -/
def weave (r : Rule) (text : Array Char) : Nat → List Pattern.Span → List Char
  | pos, [] => text.toList.drop pos
  | pos, m :: ms =>
    (text.toList.drop pos).take (m.start - pos) ++ (r.template.expand (groupText text m)).toList ++
      weave r text m.stop ms

/-- What is left of a text from a place in a gap on. -/
theorem drop_gap {cs u v : List Char} {i j : Nat} (hij : i ≤ j) (h : (cs.drop i).take (j - i) = u ++ v) :
    cs.drop (i + u.length) = v ++ cs.drop j ∧ u.length + v.length ≤ j - i := by
  have hcut := List.take_append_drop (j - i) (cs.drop i)
  rw [h, List.drop_drop, Nat.add_sub_cancel' hij, List.append_assoc] at hcut
  refine ⟨by rw [← List.drop_drop, ← hcut, List.drop_left], ?_⟩
  rw [← List.length_append, ← h]
  exact List.length_take_le _ _

variable {r : Rule} {text : Array Char}

theorem editOf_fits {m : Pattern.Span} (h : m.start ≤ m.stop) : (r.editOf text m).Fits text.toList where
  ordered := byteLength_take_le h
  inside := byteLength_take_le_length _ _
  start_boundary := isBoundary_take _ _
  stop_boundary := isBoundary_take _ _

/-- The edits of matches come in the order of the matches. -/
theorem pairwise_editOf {ms : List Pattern.Span} (hasc : Pattern.Ascending ms)
    (hb : ∀ m ∈ ms, m.start ≤ text.size) :
    (ms.map (r.editOf text)).Pairwise fun a b => a.start < b.start ∧ a.stop ≤ b.start := by
  refine List.pairwise_map.2 (hasc.imp_of_mem fun {a b} _ hmem hab => ⟨?_, byteLength_take_le hab.2⟩)
  exact byteLength_take_lt hab.1 (by simpa using hb b hmem)

/-- Making the edits of matches from the last to the first. -/
theorem foldr_replace (pos : Nat) {ms : List Pattern.Span} (hasc : Pattern.Ascending ms)
    (hb : ∀ m ∈ ms, pos ≤ m.start ∧ m.start ≤ m.stop ∧ m.stop ≤ text.size) :
    (ms.map (r.editOf text)).foldr (fun e cs => e.replace cs) text.toList =
      text.toList.take pos ++ r.weave text pos ms := by
  induction ms generalizing pos with
  | nil => simp [weave]
  | cons m ms ih =>
    obtain ⟨hhead, htail⟩ := List.pairwise_cons.1 hasc
    obtain ⟨h₁, h₂, h₃⟩ := hb m List.mem_cons_self
    have hrest := ih m.stop htail fun m' hm' =>
      ⟨(hhead m' hm').2, (hb m' (List.mem_cons_of_mem _ hm')).2⟩
    -- the later edits leave everything before `m.stop` alone
    have hcut : text.toList.take m.stop =
        text.toList.take m.start ++ (text.toList.drop m.start).take (m.stop - m.start) := by
      rw [← List.take_add, Nat.add_sub_cancel' h₂]
    have hpos : text.toList.take m.start =
        text.toList.take pos ++ (text.toList.drop pos).take (m.start - pos) := by
      rw [← List.take_add, Nat.add_sub_cancel' h₁]
    rw [List.map_cons, List.foldr_cons, hrest, hcut, Edit.replace_eq rfl (by rw [← hcut]; rfl), hpos, weave]
    simp [editOf, List.append_assoc]

/-- The edits of a rule pass all checks, and making them weaves the replacements into the text. -/
theorem applyAll_edits (r : Rule) (text : String) :
    Edit.applyAll text (r.edits text) =
      .ok (String.ofList (r.weave text.toList.toArray 0 (r.pattern.allMatches text.toList.toArray))) := by
  have hscan := Pattern.scan_allMatches r.pattern text.toList.toArray
  have hb := hscan.bounds
  have hpair := pairwise_editOf (r := r) hscan.ascending fun m hm => (hb m hm).2.1.trans (hb m hm).2.2
  have hdesc := Edit.descending_eq_reverse (hpair.imp And.left)
  have hcheck : Edit.checkAll text.toList none (r.edits text).reverse = .ok () := by
    refine Edit.checkAll_eq_ok (fun e he => ?_) (List.pairwise_reverse.2 (hpair.imp And.right)) (by simp)
    obtain ⟨m, hm, rfl⟩ := List.mem_map.1 (List.mem_reverse.1 he)
    exact editOf_fits (hb m hm).2.1
  have hfold := foldr_replace (r := r) 0 hscan.ascending hb
  simp only [List.take_zero, List.nil_append] at hfold
  have hdesc' : Edit.descending (r.edits text) = (r.edits text).reverse := hdesc
  rw [Edit.applyAll_of_checked (hdesc' ▸ hcheck), hdesc', List.foldl_reverse]
  exact congrArg (fun cs => Except.ok (String.ofList cs)) hfold

/-- A rule replaces all matches, and counts them. -/
theorem apply_eq (r : Rule) (text : String) :
    r.apply text =
      .ok ⟨String.ofList (r.weave text.toList.toArray 0 (r.pattern.allMatches text.toList.toArray)),
        (r.pattern.allMatches text.toList.toArray).length⟩ := by
  have happly := r.applyAll_edits text
  have hlen : (r.edits text).length = (r.pattern.allMatches text.toList.toArray).length := by simp [edits]
  unfold apply
  split
  · next he =>
    have hnil : r.pattern.allMatches text.toList.toArray = [] := by
      rw [he] at hlen
      exact List.length_eq_zero_iff.1 hlen.symm
    simp [hnil, weave]
  · rw [happly, hlen]
    rfl

/-- A pass of a rule is exact: the edits ascend, do not overlap, lie in the text and end at boundaries; they are made,
and the result is the text with every match of the repeated searches replaced. Nothing is changed exactly when there is
no match. -/
theorem apply_exact (r : Rule) (text : String) :
    ∃ spans : List Pattern.Span, Pattern.Scan r.pattern text.toList.toArray 0 false spans ∧
      r.edits text = spans.map (r.editOf text.toList.toArray) ∧
      (r.edits text).Pairwise (fun a b => a.start < b.start ∧ a.stop ≤ b.start) ∧
      (∀ e ∈ r.edits text, e.Fits text.toList) ∧
      Edit.applyAll text (r.edits text) = .ok (String.ofList (r.weave text.toList.toArray 0 spans)) ∧
      r.apply text = .ok ⟨String.ofList (r.weave text.toList.toArray 0 spans), spans.length⟩ ∧
      (r.apply text = .ok ⟨text, 0⟩ ↔ spans = []) := by
  have hscan := Pattern.scan_allMatches r.pattern text.toList.toArray
  have hb := hscan.bounds
  refine ⟨_, hscan, rfl, ?_, fun e he => ?_, r.applyAll_edits text, r.apply_eq text, ?_⟩
  · exact pairwise_editOf hscan.ascending fun m hm => (hb m hm).2.1.trans (hb m hm).2.2
  · obtain ⟨m, hm, rfl⟩ := List.mem_map.1 he
    exact editOf_fits (hb m hm).2.1
  · rw [r.apply_eq text]
    constructor
    · intro h
      simp only [Except.ok.injEq, Applied.mk.injEq] at h
      exact List.length_eq_zero_iff.1 h.2
    · intro h
      simp [h, weave]

end Rule

end Retarget
