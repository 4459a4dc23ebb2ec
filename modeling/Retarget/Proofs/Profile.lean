import Retarget.Proofs.RulePass
import Retarget.Proofs.Templates
import Retarget.Proofs.Trigger

/-!
# Rules with plain patterns

What a rule with a plain pattern and a template finds and makes is computed from the items of the pattern and the pieces
of the template.

* `Pattern.scan_eq`: the matches of a scan, where all places that a pattern matches at are known,
* `Rule.groupText_spanOf`: the groups of a match of a plain pattern, wherever it lies,
* `Profile`: what is computed of a rule, and `Profile.converts`, a check that its calls are told apart from what its
  template makes of them.
-/

namespace Retarget

/-! ## Scans with known matches -/

namespace Pattern

/-- The match that begins at a position and ends with a mark. -/
def spanOf (p : Pattern) (start : Nat) (b : Mark) : Span where
  start := start
  stop := b.1
  groups := (List.range p.groups).map fun i => groupAt b.2 (i + 1)

variable {p : Pattern} {text : Array Char}

theorem find?_spanOf {start : Nat} {m : Span} (h : p.find? text start = some m) :
    ∃ b, p.node.Takes text (m.start, []) b ∧ m = p.spanOf m.start b := by
  obtain ⟨_, ⟨notes, htakes, hgroups⟩, _⟩ := find?_eq_some h
  exact ⟨(m.stop, notes), htakes, by rw [spanOf, ← hgroups]⟩

/-- Where no match is empty, the end of the match before does not matter. -/
theorem findNext?_eq_find? {start : Nat} {afterMatch : Bool}
    (h : ∀ m, p.find? text start = some m → m.start < m.stop) :
    p.findNext? text start afterMatch = p.find? text start := by
  unfold findNext?
  split
  · next hnone => exact hnone.symm
  · next m hm =>
    have hlt := h m hm
    have hle := (find?_bounds hm).1
    have hne : (m.stop == start) = false := by simpa using (by omega : m.stop ≠ start)
    rw [hne, Bool.and_false, hm]
    rfl

/-- All places from a position on that a pattern matches at, from left to right; no match is empty. -/
structure Known (p : Pattern) (text : Array Char) (start : Nat) (ms : List Span) : Prop where
  isMatch : ∀ m ∈ ms, start ≤ m.start ∧ m.start < m.stop ∧ m.start ≤ text.size ∧
    ∃ b, p.node.Takes text (m.start, []) b
  ascending : ms.Pairwise fun a b => a.stop ≤ b.start
  all : ∀ i b, start ≤ i → p.node.Takes text (i, []) b → p.spanOf i b ∈ ms

namespace Known

theorem mem {start : Nat} {m : Span} {ms : List Span} (h : Known p text start ms) (hm : p.find? text start = some m) :
    m ∈ ms := by
  obtain ⟨b, hb, he⟩ := find?_spanOf hm
  exact he ▸ h.all _ b (find?_bounds hm).1 hb

theorem findNext? {start : Nat} {ms : List Span} (h : Known p text start ms) (afterMatch : Bool) :
    p.findNext? text start afterMatch = p.find? text start :=
  findNext?_eq_find? fun _ hm => (h.isMatch _ (h.mem hm)).2.1

/-- The first of all matches is found first. -/
theorem eq_head {start : Nat} {m m₀ : Span} {ms : List Span} (h : Known p text start (m₀ :: ms))
    (hm : p.find? text start = some m) : m = m₀ := by
  obtain ⟨h₁, h₂, _, b, hb⟩ := h.isMatch m₀ List.mem_cons_self
  rcases List.mem_cons.1 (h.mem hm) with heq | hlater
  · exact heq
  · have hlt : m₀.start < m.start := by
      have := (List.pairwise_cons.1 h.ascending).1 m hlater
      omega
    exact absurd hb ((find?_eq_some hm).2.2 m₀.start h₁ hlt b)

theorem tail {start : Nat} {m : Span} {ms : List Span} (h : Known p text start (m :: ms)) :
    Known p text m.stop ms where
  isMatch m' hm' :=
    ⟨(List.pairwise_cons.1 h.ascending).1 m' hm', (h.isMatch m' (List.mem_cons_of_mem _ hm')).2⟩
  ascending := (List.pairwise_cons.1 h.ascending).2
  all i b hi hb := by
    have hm := h.isMatch m List.mem_cons_self
    rcases List.mem_cons.1 (h.all i b (by omega) hb) with hfirst | hrest
    · have : i = m.start := congrArg Span.start hfirst
      omega
    · exact hrest

end Known

/-- The matches of a scan, if all places that the pattern matches at are known. -/
theorem scan_eq {start : Nat} {afterMatch : Bool} {found ms : List Span} (h : Scan p text start afterMatch found)
    (hknown : Known p text start ms) : found = ms := by
  induction h generalizing ms with
  | none h =>
    rw [hknown.findNext?] at h
    cases ms with
    | nil => rfl
    | cons m ms =>
      obtain ⟨h₁, _, h₂, b, hb⟩ := hknown.isMatch m List.mem_cons_self
      exact absurd hb (find?_eq_none h m.start h₁ h₂ b)
  | empty h he _ _ =>
    rw [hknown.findNext?] at h
    have := (hknown.isMatch _ (hknown.mem h)).2.1
    omega
  | other h _ _ ih =>
    rw [hknown.findNext?] at h
    cases ms with
    | nil => cases hknown.mem h
    | cons m₀ ms =>
      obtain rfl := hknown.eq_head h
      rw [ih hknown.tail]

/-! ## Groups of plain patterns -/

/-- The number of the group that an item captures. -/
def Item.index? : Item → Option Nat
  | group index _ => some index
  | _ => none

/-- The piece that a group captures: of items with one number, the last one. -/
def captured (index : Nat) : List Item → List (List Char) → Option (List Char)
  | i :: items, xs :: ps => (captured index items ps).or (if i.index? = some index then some xs else none)
  | _, _ => none

/-- Notes that give the place of a group, where the text has a piece, or nothing. -/
def Located (text : List Char) (notes : List (Nat × Nat)) (index : Nat) : Option (List Char) → Prop
  | none => notes.lookup (2 * index) = none ∧ notes.lookup (2 * index + 1) = none
  | some xs => ∃ q, notes.lookup (2 * index) = some q ∧ notes.lookup (2 * index + 1) = some (q + xs.length) ∧
      xs <+: text.drop q

theorem Located.append {cs : List Char} {notes notes' : List (Nat × Nat)} {index : Nat} {o o' : Option (List Char)}
    (h : Located cs notes index o) (h' : Located cs notes' index o') :
    Located cs (notes ++ notes') index (o.or o') := by
  cases o with
  | none =>
    cases o' with
    | none => exact ⟨by simp [List.lookup_append, h.1, h'.1], by simp [List.lookup_append, h.2, h'.2]⟩
    | some xs =>
      obtain ⟨q, h₁, h₂, hx⟩ := h'
      exact ⟨q, by simp [List.lookup_append, h.1, h₁], by simp [List.lookup_append, h.2, h₂], hx⟩
  | some xs =>
    obtain ⟨q, h₁, h₂, hx⟩ := h
    exact ⟨q, by simp [List.lookup_append, h₁], by simp [List.lookup_append, h₂], hx⟩

theorem Item.located (i : Item) (index : Nat) {cs xs : List Char} {pos : Nat} (h : xs <+: cs.drop pos) :
    Located cs (i.notes pos xs) index (if i.index? = some index then some xs else none) := by
  cases i with
  | char s | any s | several s => simp [Item.index?, Item.notes, Located]
  | group j s =>
    by_cases hj : j = index
    · subst hj
      simp only [Item.index?, Item.notes, if_true]
      refine ⟨pos, ?_, ?_, h⟩
      · have : (2 * j == 2 * j + 1) = false := by simp
        simp [List.lookup_cons, this]
      · simp
    · have h₁ : (2 * index == 2 * j + 1) = false := by simp; omega
      have h₂ : (2 * index == 2 * j) = false := by simp; omega
      have h₃ : (2 * index + 1 == 2 * j + 1) = false := by simp; omega
      have h₄ : (2 * index + 1 == 2 * j) = false := by simp; omega
      simp [Item.index?, Item.notes, hj, Located, List.lookup_cons, h₁, h₂, h₃, h₄]

/-- The notes of pieces give the places of the groups. -/
theorem located_noted {items : List Item} {ps : List (List Char)} (h : Fits items ps) (index : Nat) {cs : List Char}
    {pos : Nat} (hpre : ps.flatten <+: cs.drop pos) :
    Located cs (noted pos items ps) index (captured index items ps) := by
  induction h generalizing pos with
  | nil => exact ⟨rfl, rfl⟩
  | @cons i xs items ps _ _ ih =>
    rw [List.flatten_cons] at hpre
    obtain ⟨hx, hrest⟩ := append_isPrefix_drop.1 hpre
    exact (ih hrest).append (i.located index hx)

/-! ## The same match elsewhere -/

/-- A match, moved to the right. -/
def Span.shift (d : Nat) (m : Span) : Span where
  start := m.start + d
  stop := m.stop + d
  groups := m.groups.map (Option.map fun g => (g.1 + d, g.2 + d))

theorem noted_add (d : Nat) (pos : Nat) (items : List Item) (ps : List (List Char)) :
    noted (pos + d) items ps = (noted pos items ps).map fun n => (n.1, n.2 + d) := by
  fun_induction noted pos items ps with
  | case1 pos i items xs ps ih =>
    have hnotes : i.notes (pos + d) xs = (i.notes pos xs).map fun n => (n.1, n.2 + d) := by
      cases i <;> simp [Item.notes]; omega
    rw [noted, List.map_append, ← ih, hnotes]
    congr 2
    omega
  | case2 => simp [noted]

theorem lookup_map_add (d key : Nat) (notes : List (Nat × Nat)) :
    (notes.map fun n => (n.1, n.2 + d)).lookup key = (notes.lookup key).map (· + d) := by
  induction notes with
  | nil => rfl
  | cons n notes ih =>
    obtain ⟨k, pos⟩ := n
    simp only [List.map_cons, List.lookup_cons]
    split
    · rfl
    · exact ih

theorem groupAt_map_add (d index : Nat) (notes : List (Nat × Nat)) :
    groupAt (notes.map fun n => (n.1, n.2 + d)) index = (groupAt notes index).map fun g => (g.1 + d, g.2 + d) := by
  simp only [groupAt, lookup_map_add]
  cases notes.lookup (2 * index) with
  | none => rfl
  | some _ => cases notes.lookup (2 * index + 1) <;> rfl

/-- The match of pieces that lie further to the right. -/
theorem spanOf_shift (p : Pattern) (d : Nat) (items : List Item) (ps : List (List Char)) :
    p.spanOf d (d + ps.flatten.length, noted d items ps) =
      (p.spanOf 0 (ps.flatten.length, noted 0 items ps)).shift d := by
  have hnoted := noted_add d 0 items ps
  rw [Nat.zero_add] at hnoted
  simp only [spanOf, Span.shift, Nat.zero_add, hnoted, groupAt_map_add, List.map_map, Nat.add_comm d]
  rfl

end Pattern

/-! ## Groups of a match -/

namespace Rule

open Pattern

/-- The groups of pieces that fit items. -/
def groupOf (count : Nat) (items : List Item) (ps : List (List Char)) : Nat → Option String
  | 0 => some (String.ofList ps.flatten)
  | index + 1 => if index < count then (captured (index + 1) items ps).map String.ofList else none

theorem slice_eq {text : Array Char} {q : Nat} {xs : List Char} (h : xs <+: text.toList.drop q) :
    slice text q (q + xs.length) = String.ofList xs := by
  rw [slice, Array.toList_extract, List.extract_eq_take_drop, Nat.add_sub_cancel_left, ← List.prefix_iff_eq_take.1 h]

/-- The groups of a match of a plain pattern do not depend on where it lies. -/
theorem groupText_spanOf {p : Pattern} {items : List Item} {ps : List (List Char)} (hp : Fits items ps)
    {text : Array Char} {pos : Nat} (hpre : ps.flatten <+: text.toList.drop pos) :
    groupText text (p.spanOf pos (pos + ps.flatten.length, noted pos items ps)) = groupOf p.groups items ps := by
  funext index
  cases index with
  | zero => simp only [groupText, spanOf, groupOf, slice_eq hpre]
  | succ index =>
    simp only [groupText, spanOf, groupOf, List.getElem?_map]
    split
    · next hlt =>
      have hloc := located_noted hp (index + 1) hpre
      rw [List.getElem?_range hlt]
      cases hc : captured (index + 1) items ps with
      | none =>
        rw [hc] at hloc
        simp [groupAt, hloc.1]
      | some xs =>
        rw [hc] at hloc
        obtain ⟨q, h₁, h₂, hx⟩ := hloc
        simp [groupAt, h₁, h₂, slice_eq hx]
    · next hlt => rw [List.getElem?_eq_none (by simpa using hlt)]; rfl

end Rule

/-! ## Rules with plain patterns -/

open Pattern

/-- What is computed of a rule: its name, the items of its pattern, the index of the item where a trigger begins, the
number of its groups and the pieces of its template. -/
structure Profile where
  name : List Char
  items : List Item
  hot : Nat
  groups : Nat
  output : List Template.Piece
deriving Inhabited

namespace Profile

/-- The items from the trigger on. -/
def core (pf : Profile) : List Item := pf.items.drop pf.hot

/-- The profile is that of a rule all of whose matches have a trigger. -/
structure Of (ts : List Trigger) (pf : Profile) (r : Rule) : Prop where
  name : r.name = String.ofList pf.name
  items : r.pattern.node.items? = some pf.items
  groups : r.pattern.groups = pf.groups
  output : r.template.segments = Template.join [] pf.output
  hot : ∃ t ∈ ts, t.letters ≠ [] ∧ surely t.word pf.core = true

/-- The set of the characters that a group captures. -/
def groupSet? (index : Nat) : List Item → Option CharSet
  | [] => none
  | .group j s :: items => (groupSet? index items).or (if j = index then some s else none)
  | _ :: items => groupSet? index items

/-- A piece of the template as an item. -/
def outputItem? (pf : Profile) : Template.Piece → Option Item
  | .char c => some (.char (.singleton c))
  | .group 0 => none
  | .group (index + 1) => if index < pf.groups then (groupSet? (index + 1) pf.items).map (.group (index + 1)) else none

/-- Does every text that fits the items begin with a character that no trigger has inside? -/
def startsApartItems (ts : List Trigger) : List Item → Bool
  | .char s :: _ => (only? s).any fun n => ts.all fun t => !((t.letters.drop 1).map Char.toNat).contains n
  | _ => false

/-- Can no trigger be in what the template makes of a match? -/
def outputQuiet (ts : List Trigger) (pf : Profile) : Bool :=
  match pf.output.mapM pf.outputItem? with
  | none => false
  | some out => hotOnlyAt ts out out.length && startsApartItems ts out

/-- The numbers of the groups. -/
def indices (pf : Profile) : List Nat := pf.items.filterMap Item.index?

/-- Has a match a trigger at one place only, and is there none in what the template makes of it? -/
def converts (ts : List Trigger) (pf : Profile) : Bool :=
  settled pf.core && literal (pf.items.take pf.hot) && hotOnlyAt ts pf.items pf.hot && startsApartItems ts pf.items &&
    pf.outputQuiet ts && decide pf.indices.Nodup && pf.indices.all fun index => 0 < index && index ≤ pf.groups

/-- What `converts` checks. -/
structure Converts (ts : List Trigger) (pf : Profile) : Prop where
  settled : settled pf.core = true
  literal : literal (pf.items.take pf.hot) = true
  hotOnly : hotOnlyAt ts pf.items pf.hot = true
  starts : startsApartItems ts pf.items = true
  output : pf.outputQuiet ts = true
  nodup : pf.indices.Nodup
  indices : ∀ index ∈ pf.indices, 0 < index ∧ index ≤ pf.groups

theorem converts_spec {ts : List Trigger} {pf : Profile} (h : pf.converts ts = true) : pf.Converts ts := by
  simp only [converts, Bool.and_eq_true, decide_eq_true_eq, List.all_eq_true] at h
  obtain ⟨⟨⟨⟨⟨⟨h₁, h₂⟩, h₃⟩, h₄⟩, h₅⟩, h₆⟩, h₇⟩ := h
  exact ⟨h₁, h₂, h₃, h₄, h₅, h₆, h₇⟩

variable {ts : List Trigger} {pf : Profile}

/-- A match of a rule has a trigger. -/
theorem Of.hot_core {r : Rule} (h : pf.Of ts r) {ps : List (List Char)} (hp : Fits pf.items ps) (B : List Char) :
    (ps.drop pf.hot).flatten ++ B ≠ [] ∧ Hot ts ((ps.drop pf.hot).flatten ++ B) := by
  obtain ⟨t, ht, hletters, hsurely⟩ := h.hot
  have hbegins := surely_spec hsurely (List.forall₂_drop pf.hot hp) B
  refine ⟨fun hnil => ?_, t, ht, hbegins⟩
  rw [hnil] at hbegins
  obtain ⟨c, cs, hc⟩ := List.exists_cons_of_ne_nil hletters
  rw [Trigger.word, hc] at hbegins
  exact hbegins

theorem startsApartItems_spec {items : List Item} (h : startsApartItems ts items = true) {ps : List (List Char)}
    (hp : Fits items ps) : ∃ c cs, ps.flatten = c :: cs ∧ startsApart ts c = true := by
  unfold startsApartItems at h
  split at h
  · next s items =>
    obtain ⟨_, ps, ⟨c, rfl, hc⟩, _, rfl⟩ := List.forall₂_cons_left_iff.1 hp
    obtain ⟨n, hn, hall⟩ := (Option.any_eq_true _ _).1 h
    refine ⟨c, ps.flatten, by simp, List.all_eq_true.2 fun t ht => ?_⟩
    have hnot := List.all_eq_true.1 hall t ht
    rw [← only?_spec hn hc] at hnot
    rw [Bool.not_eq_true', ← Bool.not_eq_true, List.contains_iff_mem] at hnot ⊢
    exact fun hmem => hnot (List.mem_map_of_mem hmem)
  · cases h

/-- What a group captures fits its set. -/
theorem captured_groupSet? {items : List Item} {ps : List (List Char)} (hp : List.Forall₂ (Tame ts) items ps)
    (index : Nat) : (groupSet? index items = none ∧ captured index items ps = none) ∨
      ∃ s xs, groupSet? index items = some s ∧ captured index items ps = some xs ∧ Tame ts (.group index s) xs := by
  induction hp with
  | nil => exact .inl ⟨rfl, rfl⟩
  | @cons i xs items ps hx _ ih =>
    cases i with
    | char s | any s | several s => simpa [groupSet?, captured, Item.index?] using ih
    | group j s =>
      simp only [groupSet?, captured, Item.index?, Option.some.injEq]
      rcases ih with ⟨h₁, h₂⟩ | ⟨t, ys, h₁, h₂, hy⟩
      · rw [h₁, h₂]
        by_cases hj : j = index
        · subst hj
          exact .inr ⟨s, xs, by simp, by simp, hx⟩
        · exact .inl ⟨by simp [hj], by simp [hj]⟩
      · exact .inr ⟨t, ys, by simp [h₁], by simp [h₂], hy⟩

theorem captured_eq_none {items : List Item} {index : Nat} (h : index ∉ items.filterMap Item.index?)
    (ps : List (List Char)) : captured index items ps = none := by
  induction items generalizing ps with
  | nil => rfl
  | cons i items ih =>
    rw [List.mem_filterMap] at h ih
    cases ps with
    | nil => rfl
    | cons xs ps =>
      have hi : i.index? ≠ some index := fun hi => h ⟨i, List.mem_cons_self, hi⟩
      rw [captured, if_neg hi, ih fun ⟨j, hj, he⟩ => h ⟨j, List.mem_cons_of_mem _ hj, he⟩]
      rfl

/-- Pieces that fit items are tame if what the groups capture has no triggers. -/
theorem tame_of_captured {items : List Item} {ps : List (List Char)} (hp : Fits items ps)
    (hnodup : (items.filterMap Item.index?).Nodup)
    (h : ∀ index ∈ items.filterMap Item.index?, ∀ xs, captured index items ps = some xs → Free ts xs) :
    List.Forall₂ (Tame ts) items ps := by
  induction hp with
  | nil => exact .nil
  | @cons i xs items ps hx _ ih =>
    cases hi : i.index? with
    | none =>
      rw [List.filterMap_cons_none hi] at hnodup h
      refine .cons ⟨hx, fun index s he => ?_⟩ (ih hnodup fun index hindex ys hy => h index hindex ys ?_)
      · rw [he] at hi
        cases hi
      · rw [captured, hy]
        rfl
    | some index =>
      rw [List.filterMap_cons_some hi] at hnodup h
      obtain ⟨hnot, hnodup⟩ := List.nodup_cons.1 hnodup
      refine .cons ⟨hx, fun j s he => ?_⟩ (ih hnodup fun j hj ys hy => h j (List.mem_cons_of_mem _ hj) ys ?_)
      · refine h index List.mem_cons_self xs ?_
        rw [captured, captured_eq_none hnot, if_pos hi]
        rfl
      · rw [captured, hy]
        rfl

theorem tame_outputItem {ps : List (List Char)} (hp : List.Forall₂ (Tame ts) pf.items ps) {piece : Template.Piece}
    {i : Item} (h : pf.outputItem? piece = some i) : Tame ts i (piece.text (Rule.groupOf pf.groups pf.items ps)) := by
  unfold outputItem? at h
  split at h
  · next c =>
    cases h
    exact ⟨⟨c, rfl, singleton_contains.2 rfl⟩, fun _ _ h => by cases h⟩
  · cases h
  · next index =>
    split at h
    · next hlt =>
      obtain ⟨s, hs, rfl⟩ := Option.map_eq_some_iff.1 h
      rcases captured_groupSet? hp (index + 1) with ⟨hnone, _⟩ | ⟨t, xs, ht, hxs, htame⟩
      · rw [hnone] at hs
        cases hs
      · rw [ht] at hs
        cases hs
        simpa [Template.Piece.text, Rule.groupOf, hlt, hxs] using htame
    · cases h

/-- The pieces of an expanded template fit the items of the template. -/
theorem tame_output {ps : List (List Char)} (hp : List.Forall₂ (Tame ts) pf.items ps) {pieces : List Template.Piece}
    {out : List Item} (h : pieces.mapM pf.outputItem? = some out) :
    List.Forall₂ (Tame ts) out (pieces.map (Template.Piece.text (Rule.groupOf pf.groups pf.items ps))) := by
  induction pieces generalizing out with
  | nil =>
    cases h
    exact .nil
  | cons piece pieces ih =>
    obtain ⟨i, hi, out, hout, rfl⟩ : ∃ i, pf.outputItem? piece = some i ∧ ∃ rest,
        pieces.mapM pf.outputItem? = some rest ∧ i :: rest = out := by
      simpa [List.mapM_cons, Option.bind_eq_some_iff] using h
    exact .cons (tame_outputItem hp hi) (ih hout)

/-- What the template makes of pieces. -/
def made (pf : Profile) (ps : List (List Char)) : List Char :=
  (pf.output.map (Template.Piece.text (Rule.groupOf pf.groups pf.items ps))).flatten

theorem Of.toList_expand {r : Rule} (h : pf.Of ts r) (ps : List (List Char)) :
    (r.template.expand (Rule.groupOf pf.groups pf.items ps)).toList = pf.made ps := by
  rw [Template.expand_of_pieces h.output]
  rfl

/-- No trigger begins in what the template makes, nor does it begin inside of one. -/
theorem Converts.made_cold (h : pf.Converts ts) {ps : List (List Char)} (hp : List.Forall₂ (Tame ts) pf.items ps) :
    (∃ c cs, pf.made ps = c :: cs ∧ startsApart ts c = true) ∧ HotAt ts (pf.made ps) [] := by
  have hout := h.output
  unfold outputQuiet at hout
  split at hout
  · cases hout
  · next out hmap =>
    obtain ⟨hquiet, hstart⟩ := Bool.and_eq_true_iff.1 hout
    have htame := tame_output hp hmap
    have hhot := hotOnlyAt_spec hquiet htame
    rw [htame.length_eq, List.take_length, List.drop_length] at hhot
    exact ⟨startsApartItems_spec hstart (fits_of_tame htame), hhot⟩

end Profile

end Retarget
