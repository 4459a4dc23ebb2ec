import Mathlib.Data.List.Forall2
import Retarget.Proofs.Meaning

/-!
# Plain patterns

Many patterns are a row of items: a character of a set, or a run of such characters, which may be captured. What such
a pattern matches can be said without positions: a text fits the items if it falls into pieces, one for each item
(`Node.takes_iff`). Where every run is followed by a character that it does not hold, the pieces are determined by the
text (`pieces_unique`), and two rows of items that differ in a character do not fit the same text (`not_clash`).
-/

namespace Retarget.Pattern

/-! ## Items -/

/-- An item of a plain pattern. -/
inductive Item
  /-- A character. -/
  | char (s : CharSet)
  /-- Any number of characters. -/
  | any (s : CharSet)
  /-- At least one character. -/
  | several (s : CharSet)
  /-- At least one character, captured. -/
  | group (index : Nat) (s : CharSet)
deriving DecidableEq

/-- The items of a node, if it is plain. -/
def Node.items? : Node → Option (List Item)
  | .set s => some [.char s]
  | .repeated 0 none _ (.set s) => some [.any s]
  | .repeated 1 none _ (.set s) => some [.several s]
  | .capture index (.repeated 1 none _ (.set s)) => some [.group index s]
  | .seq m n => do return (← m.items?) ++ (← n.items?)
  | _ => none

/-- All characters are in a set. -/
def AllIn (s : CharSet) (xs : List Char) : Prop := ∀ x ∈ xs, s.contains x = true

/-- Does a piece of text fit an item? -/
def Item.Fits : Item → List Char → Prop
  | char s, xs => ∃ c, xs = [c] ∧ s.contains c = true
  | any s, xs => AllIn s xs
  | several s, xs => xs ≠ [] ∧ AllIn s xs
  | group _ s, xs => xs ≠ [] ∧ AllIn s xs

instance (s : CharSet) (xs : List Char) : Decidable (AllIn s xs) := List.decidableBAll _ xs

instance : (i : Item) → (xs : List Char) → Decidable (i.Fits xs)
  | .char _, [] => isFalse fun ⟨_, h, _⟩ => by cases h
  | .char s, [c] => decidable_of_iff (s.contains c = true)
      ⟨fun h => ⟨c, rfl, h⟩, fun ⟨_, h, hc⟩ => by cases h; exact hc⟩
  | .char _, _ :: _ :: _ => isFalse fun ⟨_, h, _⟩ => by cases h
  | .any s, xs => inferInstanceAs (Decidable (AllIn s xs))
  | .several s, xs => inferInstanceAs (Decidable (xs ≠ [] ∧ AllIn s xs))
  | .group _ s, xs => inferInstanceAs (Decidable (xs ≠ [] ∧ AllIn s xs))

/-- Pieces that fit items, one for each. -/
abbrev Fits : List Item → List (List Char) → Prop := List.Forall₂ Item.Fits

/-- What is noted when a piece at a position fits an item. -/
def Item.notes (pos : Nat) (xs : List Char) : Item → List (Nat × Nat)
  | group index _ => [(2 * index + 1, pos + xs.length), (2 * index, pos)]
  | _ => []

/-- What is noted when pieces from a position on fit items, the last note first. -/
def noted : Nat → List Item → List (List Char) → List (Nat × Nat)
  | pos, i :: items, xs :: ps => noted (pos + xs.length) items ps ++ i.notes pos xs
  | _, _, _ => []

theorem noted_append {items items' : List Item} {ps : List (List Char)} (qs : List (List Char)) (h : Fits items ps)
    (pos : Nat) : noted pos (items ++ items') (ps ++ qs) =
      noted (pos + ps.flatten.length) items' qs ++ noted pos items ps := by
  induction h generalizing pos with
  | nil => simp [noted]
  | cons _ _ ih => simp [noted, ih, Nat.add_assoc]

theorem Fits.append {items items' : List Item} {ps qs : List (List Char)} (h : Fits items ps)
    (h' : Fits items' qs) : Fits (items ++ items') (ps ++ qs) := by
  induction h with
  | nil => simpa using h'
  | cons hp _ ih => exact .cons hp ih

theorem Fits.split {items items' : List Item} {ps : List (List Char)} (h : Fits (items ++ items') ps) :
    ∃ qs rs, ps = qs ++ rs ∧ Fits items qs ∧ Fits items' rs := by
  refine ⟨ps.take items.length, ps.drop items.length, (List.take_append_drop _ _).symm, ?_, ?_⟩
  · simpa using List.forall₂_take items.length h
  · simpa using List.forall₂_drop items.length h

/-! ## What plain nodes take -/

/-- Two texts one after another at a place. -/
theorem append_isPrefix_drop {α : Type} {xs ys l : List α} {i : Nat} :
    xs ++ ys <+: l.drop i ↔ xs <+: l.drop i ∧ ys <+: l.drop (i + xs.length) := by
  constructor
  · rintro ⟨t, ht⟩
    refine ⟨⟨ys ++ t, by simpa using ht⟩, ⟨t, ?_⟩⟩
    rw [← List.drop_drop, ← ht, List.append_assoc, List.drop_left]
  · rintro ⟨⟨t, ht⟩, ⟨u, hu⟩⟩
    refine ⟨u, ?_⟩
    rw [← List.drop_drop, ← ht, List.drop_left] at hu
    rw [List.append_assoc, hu, ht]

theorem singleton_isPrefix_drop {α : Type} {c : α} {l : List α} {i : Nat} : [c] <+: l.drop i ↔ l[i]? = some c := by
  rw [← List.head?_drop]
  cases l.drop i with
  | nil => simp
  | cons d t => simp [eq_comm]

variable {text : Array Char}

theorem Node.takes_set {s : CharSet} {a b : Mark} : (Node.set s).Takes text a b ↔
    ∃ c, [c] <+: text.toList.drop a.1 ∧ s.contains c = true ∧ b = (a.1 + 1, a.2) := by
  simp only [Takes, singleton_isPrefix_drop, Array.getElem?_toList, Option.any_eq_true_iff_get]
  constructor
  · rintro ⟨⟨hs, hc⟩, rfl⟩
    exact ⟨_, (Option.some_get hs).symm, hc, rfl⟩
  · rintro ⟨c, hc, hs, rfl⟩
    refine ⟨⟨by simp [hc], ?_⟩, rfl⟩
    simpa [hc] using hs

theorem Node.times_set {s : CharSet} {k : Nat} {a b : Mark} : Times ((Node.set s).Takes text) k a b ↔
    ∃ xs, xs.length = k ∧ AllIn s xs ∧ xs <+: text.toList.drop a.1 ∧ b = (a.1 + xs.length, a.2) := by
  induction k generalizing a with
  | zero =>
    constructor
    · rintro rfl
      exact ⟨[], rfl, by simp [AllIn], List.nil_prefix, rfl⟩
    · rintro ⟨xs, hlen, _, _, rfl⟩
      obtain rfl := List.length_eq_zero_iff.1 hlen
      rfl
  | succ k ih =>
    constructor
    · rintro ⟨_, hset, hrest⟩
      obtain ⟨c, hc, hs, rfl⟩ := takes_set.1 hset
      obtain ⟨xs, rfl, hall, hpre, rfl⟩ := ih.1 hrest
      refine ⟨c :: xs, rfl, ?_, ?_, by simp [Nat.add_assoc, Nat.add_comm 1]⟩
      · exact List.forall_mem_cons.2 ⟨hs, hall⟩
      · exact append_isPrefix_drop.2 ⟨hc, hpre⟩
    · rintro ⟨xs, hlen, hall, hpre, rfl⟩
      obtain ⟨c, xs, rfl⟩ := List.exists_cons_of_length_eq_add_one hlen
      obtain ⟨hs, hall⟩ := List.forall_mem_cons.1 hall
      obtain ⟨hc, hpre⟩ := append_isPrefix_drop.1 (show [c] ++ xs <+: _ from hpre)
      refine ⟨_, takes_set.2 ⟨c, hc, hs, rfl⟩, ih.2 ⟨xs, by simpa using hlen, hall, hpre, ?_⟩⟩
      simp [Nat.add_assoc, Nat.add_comm 1]

theorem Node.takes_capture {i : Nat} {n : Node} {a b : Mark} : (Node.capture i n).Takes text a b ↔
    ∃ c, n.Takes text (a.1, (2 * i, a.1) :: a.2) c ∧ b = (c.1, (2 * i + 1, c.1) :: c.2) := Iff.rfl

/-- A run of characters. -/
theorem Node.takes_run {s : CharSet} {min : Nat} {greedy : Bool} {a b : Mark} :
    (Node.repeated min none greedy (.set s)).Takes text a b ↔
      ∃ xs, min ≤ xs.length ∧ AllIn s xs ∧ xs <+: text.toList.drop a.1 ∧ b = (a.1 + xs.length, a.2) := by
  constructor
  · rintro ⟨_, hmin, _, h⟩
    obtain ⟨xs, rfl, hxs⟩ := times_set.1 h
    exact ⟨xs, hmin, hxs⟩
  · rintro ⟨xs, hmin, hxs⟩
    exact ⟨_, hmin, by simp, times_set.2 ⟨xs, rfl, hxs⟩⟩

/-- One item is fitted by one piece. -/
theorem exists_fits_singleton {i : Item} {P : List (List Char) → Prop} :
    (∃ ps, Fits [i] ps ∧ P ps) ↔ ∃ xs, i.Fits xs ∧ P [xs] := by
  constructor
  · rintro ⟨_, hfits, hP⟩
    obtain ⟨xs, _, hxs, hnil, rfl⟩ := List.forall₂_cons_left_iff.1 hfits
    cases hnil
    exact ⟨xs, hxs, hP⟩
  · rintro ⟨xs, hxs, hP⟩
    exact ⟨[xs], .cons hxs .nil, hP⟩

/-- A plain node takes exactly the texts that fit its items. -/
theorem Node.takes_iff {n : Node} {items : List Item} (h : n.items? = some items) {a b : Mark} :
    n.Takes text a b ↔ ∃ ps, Fits items ps ∧ ps.flatten <+: text.toList.drop a.1 ∧
      b = (a.1 + ps.flatten.length, noted a.1 items ps ++ a.2) := by
  fun_induction items? n generalizing items a b with
  | case1 s =>
    cases h
    rw [takes_set, exists_fits_singleton]
    constructor
    · rintro ⟨c, hc, hs, rfl⟩
      exact ⟨[c], ⟨c, rfl, hs⟩, hc, rfl⟩
    · rintro ⟨_, ⟨c, rfl, hs⟩, hpre, rfl⟩
      exact ⟨c, hpre, hs, rfl⟩
  | case2 _ s =>
    cases h
    rw [takes_run, exists_fits_singleton]
    constructor
    · rintro ⟨xs, _, hall, hpre, rfl⟩
      exact ⟨xs, hall, by simpa using hpre, by simp [noted, Item.notes]⟩
    · rintro ⟨xs, hall, hpre, rfl⟩
      exact ⟨xs, Nat.zero_le _, hall, by simpa using hpre, by simp [noted, Item.notes]⟩
  | case3 _ s =>
    cases h
    rw [takes_run, exists_fits_singleton]
    constructor
    · rintro ⟨xs, hmin, hall, hpre, rfl⟩
      exact ⟨xs, ⟨List.ne_nil_of_length_pos hmin, hall⟩, by simpa using hpre, by simp [noted, Item.notes]⟩
    · rintro ⟨xs, ⟨hne, hall⟩, hpre, rfl⟩
      exact ⟨xs, List.length_pos_iff.2 hne, hall, by simpa using hpre, by simp [noted, Item.notes]⟩
  | case4 index _ s =>
    cases h
    simp only [takes_capture, takes_run]
    rw [exists_fits_singleton]
    constructor
    · rintro ⟨_, ⟨xs, hmin, hall, hpre, rfl⟩, rfl⟩
      exact ⟨xs, ⟨List.ne_nil_of_length_pos hmin, hall⟩, by simpa using hpre, by simp [noted, Item.notes]⟩
    · rintro ⟨xs, ⟨hne, hall⟩, hpre, rfl⟩
      exact ⟨_, ⟨xs, List.length_pos_iff.2 hne, hall, by simpa using hpre, rfl⟩, by simp [noted, Item.notes]⟩
  | case5 m n ihm ihn =>
    obtain ⟨is, hm, js, hn, rfl⟩ : ∃ is, m.items? = some is ∧ ∃ js, n.items? = some js ∧ is ++ js = items := by
      simpa [Option.bind_eq_some_iff] using h
    constructor
    · rintro ⟨c, hc, hb⟩
      obtain ⟨ps, hps, hpre, rfl⟩ := (ihm hm).1 hc
      obtain ⟨qs, hqs, hpre', rfl⟩ := (ihn hn).1 hb
      refine ⟨ps ++ qs, hps.append hqs, ?_, ?_⟩
      · rw [List.flatten_append]
        exact append_isPrefix_drop.2 ⟨hpre, hpre'⟩
      · simp [noted_append qs hps, Nat.add_assoc]
    · rintro ⟨ps, hps, hpre, rfl⟩
      obtain ⟨qs, rs, rfl, hqs, hrs⟩ := hps.split
      rw [List.flatten_append] at hpre
      obtain ⟨hpre, hpre'⟩ := append_isPrefix_drop.1 hpre
      refine ⟨_, (ihm hm).2 ⟨qs, hqs, hpre, rfl⟩, (ihn hn).2 ⟨rs, hrs, hpre', ?_⟩⟩
      simp [noted_append rs hqs, Nat.add_assoc]
  | case6 => cases h

/-! ## Pieces that the text determines -/

/-- Two sets without a common character, by their ranges. -/
def apart (s t : CharSet) : Bool := s.ranges.all fun r => t.ranges.all fun q => r.2 < q.1 || q.2 < r.1

theorem exists_range {rs : List CodeRange} {n : Nat} (h : CharSet.inRanges rs n = true) :
    ∃ r ∈ rs, r.1 ≤ n ∧ n ≤ r.2 := by
  induction rs with
  | nil => simp [CharSet.inRanges] at h
  | cons r rs ih =>
    obtain ⟨lo, hi⟩ := r
    simp only [CharSet.inRanges] at h
    split at h
    · cases h
    · next hlo =>
      rcases Bool.or_eq_true_iff.1 h with h | h
      · exact ⟨_, List.mem_cons_self, by omega, by simpa using h⟩
      · obtain ⟨r, hr, hn⟩ := ih h
        exact ⟨r, List.mem_cons_of_mem _ hr, hn⟩

theorem apart_spec {s t : CharSet} (h : apart s t = true) {c : Char} (hs : s.contains c = true) :
    t.contains c = false := by
  by_contra ht
  obtain ⟨r, hr, hr₁⟩ := exists_range hs
  obtain ⟨q, hq, hq₁⟩ := exists_range (Bool.eq_true_of_not_eq_false ht)
  have := List.all_eq_true.1 (List.all_eq_true.1 h r hr) q hq
  simp only [Bool.or_eq_true, decide_eq_true_eq] at this
  omega

/-- A text that goes on with a character outside a set. -/
def Leaves (s : CharSet) (xs : List Char) : Prop := ∃ c rest, xs = c :: rest ∧ s.contains c = false

/-- Two runs that are followed by a character outside their set. -/
theorem run_unique {s : CharSet} {xs ys A B : List Char} (hx : AllIn s xs) (hy : AllIn s ys) (hA : Leaves s A)
    (hB : Leaves s B) (he : xs ++ A = ys ++ B) : xs = ys ∧ A = B := by
  induction xs generalizing ys with
  | nil =>
    cases ys with
    | nil => exact ⟨rfl, he⟩
    | cons y ys =>
      obtain ⟨c, rest, rfl, hc⟩ := hA
      simp only [List.nil_append, List.cons_append, List.cons.injEq] at he
      have := hy y List.mem_cons_self
      rw [← he.1, hc] at this
      cases this
  | cons x xs ih =>
    cases ys with
    | nil =>
      obtain ⟨c, rest, rfl, hc⟩ := hB
      simp only [List.nil_append, List.cons_append, List.cons.injEq] at he
      have := hx x List.mem_cons_self
      rw [he.1, hc] at this
      cases this
    | cons y ys =>
      simp only [List.cons_append, List.cons.injEq] at he
      obtain ⟨rfl, he⟩ := he
      obtain ⟨rfl, rfl⟩ := ih (List.forall_mem_cons.1 hx).2 (List.forall_mem_cons.1 hy).2 he
      exact ⟨rfl, rfl⟩

/-- No text that fits the items begins with a character of the set. -/
def clear (s : CharSet) : List Item → Bool
  | [] => false
  | .char t :: _ => apart t s
  | .any t :: items => apart t s && clear s items
  | .several t :: _ => apart t s
  | .group _ t :: _ => apart t s

/-- A run of at least one character begins with a character of its set. -/
theorem leaves_of_run {s t : CharSet} (h : apart t s = true) {xs : List Char} (hne : xs ≠ []) (hx : AllIn t xs)
    (A : List Char) : Leaves s (xs ++ A) := by
  obtain ⟨x, xs, rfl⟩ := List.exists_cons_of_ne_nil hne
  exact ⟨x, xs ++ A, rfl, apart_spec h (hx x List.mem_cons_self)⟩

theorem clear_spec {s : CharSet} {items : List Item} (h : clear s items = true) {ps : List (List Char)}
    (hp : Fits items ps) (A : List Char) : Leaves s (ps.flatten ++ A) := by
  induction hp with
  | nil => cases h
  | @cons i xs items ps hx _ ih =>
    rw [List.flatten_cons, List.append_assoc]
    cases i with
    | char t =>
      obtain ⟨c, rfl, hc⟩ := hx
      exact leaves_of_run h (by simp) (by simpa [AllIn] using hc) _
    | any t =>
      simp only [clear, Bool.and_eq_true] at h
      by_cases hne : xs = []
      · subst hne
        exact ih h.2
      · exact leaves_of_run h.1 hne hx _
    | several t | group _ t => exact leaves_of_run h hx.1 hx.2 _

/-- Every run among the items is followed by a character that it does not hold. -/
def settled : List Item → Bool
  | [] => true
  | .char _ :: items => settled items
  | .any s :: items => clear s items && settled items
  | .several s :: items => clear s items && settled items
  | .group _ s :: items => clear s items && settled items

/-- The pieces of a text that begins with settled items are determined, and so is what follows them. -/
theorem pieces_unique {items : List Item} (h : settled items = true) {ps qs : List (List Char)} {A B : List Char}
    (hp : Fits items ps) (hq : Fits items qs) (he : ps.flatten ++ A = qs.flatten ++ B) : ps = qs ∧ A = B := by
  induction hp generalizing qs with
  | nil =>
    cases hq
    exact ⟨rfl, by simpa using he⟩
  | @cons i xs items ps hx hps ih =>
    obtain ⟨ys, qs, hy, hqs, rfl⟩ := List.forall₂_cons_left_iff.1 hq
    simp only [List.flatten_cons, List.append_assoc] at he
    have hrest : settled items = true := by cases i <;> simp_all [settled]
    -- the first pieces are equal, and so the texts after them
    have hfirst : xs = ys ∧ ps.flatten ++ A = qs.flatten ++ B := by
      cases i with
      | char s =>
        obtain ⟨c, rfl, _⟩ := hx
        obtain ⟨d, rfl, _⟩ := hy
        simpa using he
      | any s =>
        have hclear : clear s items = true := by simp_all [settled]
        exact run_unique hx hy (clear_spec hclear hps A) (clear_spec hclear hqs B) he
      | several s | group _ s =>
        have hclear : clear s items = true := by simp_all [settled]
        exact run_unique hx.2 hy.2 (clear_spec hclear hps A) (clear_spec hclear hqs B) he
    obtain ⟨rfl, hnext⟩ := hfirst
    obtain ⟨rfl, rfl⟩ := ih hrest hqs hnext
    exact ⟨rfl, rfl⟩

/-- Two rows of items that go the same way up to two characters that differ. -/
def clash : List Item → List Item → Bool
  | .char s :: as, .char t :: bs => apart s t || clash as bs
  | .any s :: as, .any t :: bs => decide (s = t) && clear s as && clear s bs && clash as bs
  | .group _ s :: as, .group _ t :: bs => decide (s = t) && clear s as && clear s bs && clash as bs
  | _, _ => false

/-- No text begins with pieces for both of two rows of items that clash. -/
theorem not_clash {as bs : List Item} (h : clash as bs = true) {ps qs : List (List Char)} {A B : List Char}
    (hp : Fits as ps) (hq : Fits bs qs) : ps.flatten ++ A ≠ qs.flatten ++ B := by
  intro he
  fun_induction clash as bs generalizing ps qs with
  | case1 s as t bs ih =>
    obtain ⟨_, ps, ⟨c, rfl, hc⟩, hps, rfl⟩ := List.forall₂_cons_left_iff.1 hp
    obtain ⟨_, qs, ⟨d, rfl, hd⟩, hqs, rfl⟩ := List.forall₂_cons_left_iff.1 hq
    simp only [List.flatten_cons, List.cons_append, List.nil_append, List.cons.injEq] at he
    obtain ⟨rfl, he⟩ := he
    rcases Bool.or_eq_true_iff.1 h with h | h
    · rw [apart_spec h hc] at hd
      cases hd
    · exact ih h hps hqs he
  | case2 s as t bs ih =>
    obtain ⟨xs, ps, hx, hps, rfl⟩ := List.forall₂_cons_left_iff.1 hp
    obtain ⟨ys, qs, hy, hqs, rfl⟩ := List.forall₂_cons_left_iff.1 hq
    simp only [Bool.and_eq_true, decide_eq_true_eq] at h
    obtain ⟨⟨⟨rfl, ha⟩, hb⟩, h⟩ := h
    simp only [List.flatten_cons, List.append_assoc] at he
    exact ih h hps hqs (run_unique hx hy (clear_spec ha hps A) (clear_spec hb hqs B) he).2
  | case3 i s as j t bs ih =>
    obtain ⟨xs, ps, hx, hps, rfl⟩ := List.forall₂_cons_left_iff.1 hp
    obtain ⟨ys, qs, hy, hqs, rfl⟩ := List.forall₂_cons_left_iff.1 hq
    simp only [Bool.and_eq_true, decide_eq_true_eq] at h
    obtain ⟨⟨⟨rfl, ha⟩, hb⟩, h⟩ := h
    simp only [List.flatten_cons, List.append_assoc] at he
    exact ih h hps hqs (run_unique hx.2 hy.2 (clear_spec ha hps A) (clear_spec hb hqs B) he).2
  | case4 => cases h

end Retarget.Pattern
