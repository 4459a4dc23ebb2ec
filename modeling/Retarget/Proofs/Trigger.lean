import Retarget.Proofs.PlainPattern

/-!
# Where triggers lie in a text

A trigger is a word without which no pattern of a collection matches. For texts that fit the items of plain patterns
it is computed from the items alone where a trigger can begin:

* `mayBegin`: may a word begin a text that fits the items?
* `surely`: does it always?
* `hotOnlyAt`: can a trigger begin at one item only, whatever follows the text?

A text put together from such parts and from fragments without triggers has triggers only where its parts have them
(`hot_in_parts`).
-/

namespace Retarget.Pattern

/-! ## Words -/

/-- A set of characters for each place of a word. -/
abbrev Word := List CharSet

/-- A text begins with a word. -/
def Begins : Word → List Char → Prop
  | [], _ => True
  | _ :: _, [] => False
  | s :: w, c :: cs => s.contains c = true ∧ Begins w cs

theorem begins_append {w : Word} {xs ys : List Char} (h : Begins w (xs ++ ys)) :
    Begins (w.take xs.length) xs ∧ Begins (w.drop xs.length) ys := by
  induction xs generalizing w with
  | nil => exact ⟨by simp [Begins], by simpa using h⟩
  | cons x xs ih =>
    cases w with
    | nil => simp [Begins]
    | cons s w => exact ⟨⟨h.1, (ih h.2).1⟩, (ih h.2).2⟩

theorem begins_of_append {v w : Word} {xs : List Char} (h : Begins (v ++ w) xs) : Begins v xs := by
  induction v generalizing xs with
  | nil => simp [Begins]
  | cons s v ih =>
    cases xs with
    | nil => exact h
    | cons x xs => exact ⟨h.1, ih h.2⟩

/-- The sets of a word hold characters of the text. -/
theorem exists_mem_of_begins {w : Word} {xs : List Char} (h : Begins w xs) {s : CharSet} (hs : s ∈ w) :
    ∃ x ∈ xs, s.contains x = true := by
  induction w generalizing xs with
  | nil => cases hs
  | cons t w ih =>
    cases xs with
    | nil => cases h
    | cons x xs =>
      rcases List.mem_cons.1 hs with rfl | hs
      · exact ⟨x, List.mem_cons_self, h.1⟩
      · obtain ⟨y, hy, hsy⟩ := ih h.2 hs
        exact ⟨y, List.mem_cons_of_mem _ hy, hsy⟩

theorem singleton_contains {c d : Char} : (CharSet.singleton c).contains d = true ↔ d = c := by
  simp only [CharSet.contains, CharSet.containsCode, CharSet.singleton, CharSet.inRanges]
  rw [← Char.toNat_inj]
  split <;> simp <;> omega

/-- A word of single characters. -/
theorem begins_singletons {cs xs : List Char} : Begins (cs.map .singleton) xs ↔ cs <+: xs := by
  induction cs generalizing xs with
  | nil => simp [Begins]
  | cons c cs ih =>
    cases xs with
    | nil => simp [Begins]
    | cons x xs =>
      rw [List.map_cons, Begins, singleton_contains, ih, List.cons_prefix_cons, eq_comm]

/-! ## Words and items -/

/-- May a character of a set begin a text that fits the items, with a text after it that `rest` allows? -/
def mayStart (s : CharSet) (rest : List Item → Bool) : List Item → Bool
  | [] => true
  | .char t :: items => !apart t s && rest items
  | .any t :: items => (!apart t s && rest (.any t :: items)) || mayStart s rest items
  | .several t :: items => !apart t s && rest (.any t :: items)
  | .group _ t :: items => !apart t s && rest (.any t :: items)

/-- May a word begin a text that fits the items and may go on after them? -/
def mayBegin : Word → List Item → Bool
  | [], _ => true
  | s :: w, items => mayStart s (mayBegin w) items

theorem not_apart {s t : CharSet} {c : Char} (ht : t.contains c = true) (hs : s.contains c = true) :
    apart t s = false := by
  by_contra h
  rw [apart_spec (Bool.eq_true_of_not_eq_false h) ht] at hs
  cases hs

/-- A run whose first character begins the word. -/
theorem mayStart_run {s t : CharSet} {rest : List Item → Bool} {x : Char} {xs : List Char} (hx : AllIn t (x :: xs))
    (hs : s.contains x = true) {items : List Item} (hrest : Item.Fits (.any t) xs → rest (.any t :: items) = true) :
    (!apart t s && rest (.any t :: items)) = true := by
  obtain ⟨h₁, h₂⟩ := List.forall_mem_cons.1 hx
  simp [not_apart h₁ hs, hrest h₂]

theorem mayStart_spec {s : CharSet} {rest : List Item → Bool} {items : List Item} {ps : List (List Char)}
    {c : Char} {cs B : List Char} (hp : Fits items ps) (he : ps.flatten ++ B = c :: cs) (hs : s.contains c = true)
    (hrest : ∀ items qs C, Fits items qs → qs.flatten ++ C = cs → rest items = true) :
    mayStart s rest items = true := by
  induction hp with
  | nil => rfl
  | @cons i xs items ps hx hps ih =>
    rw [List.flatten_cons, List.append_assoc] at he
    -- the pieces after the first character of a run
    have hrun : ∀ t ys, xs = c :: ys → Item.Fits (.any t) ys → rest (.any t :: items) = true := by
      rintro t ys rfl hy
      refine hrest _ (ys :: ps) B (.cons hy hps) ?_
      simpa using he
    cases i with
    | char t =>
      obtain ⟨d, rfl, hd⟩ := hx
      simp only [List.cons_append, List.nil_append, List.cons.injEq] at he
      obtain ⟨rfl, he⟩ := he
      simp [mayStart, not_apart hd hs, hrest items ps B hps he]
    | any t =>
      simp only [mayStart, Bool.or_eq_true]
      cases xs with
      | nil => exact .inr (ih (by simpa using he))
      | cons x xs =>
        simp only [List.cons_append, List.cons.injEq] at he
        obtain ⟨rfl, he⟩ := he
        exact .inl (mayStart_run hx hs (hrun t xs rfl))
    | several t | group _ t =>
      obtain ⟨hne, hx⟩ := hx
      obtain ⟨x, xs, rfl⟩ := List.exists_cons_of_ne_nil hne
      simp only [List.cons_append, List.cons.injEq] at he
      obtain ⟨rfl, he⟩ := he
      exact mayStart_run hx hs (hrun t xs rfl)

theorem mayBegin_spec {w : Word} {items : List Item} {ps : List (List Char)} {B : List Char} (hp : Fits items ps)
    (h : Begins w (ps.flatten ++ B)) : mayBegin w items = true := by
  induction w generalizing items ps B with
  | nil => rfl
  | cons s w ih =>
    generalize hcs : ps.flatten ++ B = cs at h
    cases cs with
    | nil => cases h
    | cons c cs =>
      refine mayStart_spec hp hcs h.1 fun items qs C hq hC => ih hq (B := C) ?_
      rw [hC]
      exact h.2

/-! ## Triggers -/

/-- Letters, and what must follow them for a match. -/
structure Trigger where
  letters : List Char
  after : Word := []

def Trigger.word (t : Trigger) : Word := t.letters.map .singleton ++ t.after

variable {ts : List Trigger}

/-- A trigger begins the text. -/
def Hot (ts : List Trigger) (cs : List Char) : Prop := ∃ t ∈ ts, Begins t.word cs

/-- No letters of a trigger are in the text. -/
def Free (ts : List Trigger) (cs : List Char) : Prop := ∀ t ∈ ts, ¬t.letters <:+: cs

/-- If a trigger begins in a text followed by another, then at a single cut: before it lies `pre`, and `post` after
it. There is none if `post` is empty. -/
def HotAt (ts : List Trigger) (pre post : List Char) : Prop :=
  ∀ u v B, pre ++ post = u ++ v → v ≠ [] → Hot ts (v ++ B) → u = pre ∧ v = post

/-- No trigger lies in a text whose letters are too few for it. -/
theorem letters_length {cs v B : List Char} (h : Free ts (cs ++ v)) {t : Trigger} (ht : t ∈ ts)
    (hb : Begins t.word (v ++ B)) : v.length < t.letters.length := by
  by_contra hle
  have hpre : t.letters <+: v ++ B := begins_singletons.1 (begins_of_append hb)
  have : t.letters <+: v := List.prefix_of_prefix_length_le hpre (List.prefix_append v B) (by omega)
  exact h t ht (this.isInfix.trans (List.suffix_append cs v).isInfix)

/-- A character that is not inside the letters of a trigger. -/
def startsApart (ts : List Trigger) (c : Char) : Bool := ts.all fun t => !(t.letters.drop 1).contains c

/-- A fragment without triggers, followed by nothing or by a character that is inside of none. -/
theorem fragment_cold {P B : List Char} (h : Free ts P) (hB : ∀ c ∈ B.head?, startsApart ts c = true)
    {u v : List Char} (he : P = u ++ v) (hne : v ≠ []) : ¬Hot ts (v ++ B) := by
  rintro ⟨t, ht, hb⟩
  have hlt := letters_length (he ▸ h) ht hb
  have hpre : t.letters <+: v ++ B := begins_singletons.1 (begins_of_append hb)
  obtain ⟨rest, hrest⟩ := hpre
  -- the letters end after the fragment, so the next character is one of them
  have hdrop : t.letters.drop v.length ++ rest = B := by
    have := congrArg (List.drop v.length) hrest
    rwa [List.drop_append_of_le_length hlt.le, List.drop_left] at this
  have hlen : (t.letters.drop v.length).length ≠ 0 := by
    simp only [List.length_drop]
    omega
  obtain ⟨c, cs, hc⟩ := List.exists_cons_of_length_pos (Nat.pos_of_ne_zero hlen)
  have hhead : B.head? = some c := by rw [← hdrop, hc]; rfl
  have hmem : c ∈ t.letters.drop 1 := by
    have h₁ : c ∈ t.letters.drop v.length := hc ▸ List.mem_cons_self
    have h₂ : 1 ≤ v.length := List.length_pos_iff.2 hne
    have h₃ := List.drop_drop (i := v.length - 1) (j := 1) (l := t.letters)
    rw [show 1 + (v.length - 1) = v.length by omega] at h₃
    rw [← h₃] at h₁
    exact List.mem_of_mem_drop h₁
  have := List.all_eq_true.1 (hB c hhead) t ht
  rw [List.contains_iff_mem.2 hmem] at this
  cases this

/-! ## Triggers in texts that fit items -/

/-- May a word begin in a run of a set and go on after it? -/
def crosses (w : Word) (s : CharSet) (items : List Item) : Bool :=
  (List.range w.length).any fun n =>
    n + 1 < w.length && (w.take (n + 1)).all (fun t => !apart t s) && mayBegin (w.drop (n + 1)) items

/-- Can no trigger begin in the piece of an item? What is captured is taken to be free of triggers. -/
def quietItem (ts : List Trigger) (i : Item) (items : List Item) : Bool :=
  ts.all fun t => match i with
    | .char s => !mayBegin t.word (.char s :: items)
    | .any s => !mayBegin t.word (.any s :: items)
    | .several s => !mayBegin t.word (.any s :: items)
    | .group _ s => !crosses t.word s items

/-- A piece that fits an item, without triggers if it is captured. -/
def Tame (ts : List Trigger) (i : Item) (xs : List Char) : Prop :=
  i.Fits xs ∧ ∀ index s, i = .group index s → Free ts xs

theorem fits_of_tame {items : List Item} {ps : List (List Char)} (h : List.Forall₂ (Tame ts) items ps) :
    Fits items ps := h.imp fun _ _ h => h.1

theorem quietItem_spec {i : Item} {items : List Item} (h : quietItem ts i items = true) {xs : List Char}
    {ps : List (List Char)} (hx : Tame ts i xs) (hp : Fits items ps) {u v B : List Char} (he : xs = u ++ v)
    (hne : v ≠ []) : ¬Hot ts (v ++ (ps.flatten ++ B)) := by
  rintro ⟨t, ht, hb⟩
  have hq := List.all_eq_true.1 h t ht
  -- a run goes on as a run after any of its characters
  have hrun : ∀ s, AllIn s xs → mayBegin t.word (.any s :: items) = true := by
    intro s hs
    have hv : Item.Fits (.any s) v := fun x hx => hs x (he ▸ List.mem_append_right u hx)
    refine mayBegin_spec (List.Forall₂.cons hv hp) (B := B) ?_
    rwa [List.flatten_cons, List.append_assoc]
  cases i with
  | char s =>
    obtain ⟨c, rfl, hc⟩ := hx.1
    obtain ⟨rfl, rfl⟩ : u = [] ∧ v = [c] := by
      rcases List.singleton_eq_append_iff.1 he with ⟨rfl, rfl⟩ | ⟨rfl, rfl⟩
      · exact ⟨rfl, rfl⟩
      · exact absurd rfl hne
    have := mayBegin_spec (List.Forall₂.cons hx.1 hp) (w := t.word) (B := B) (by simpa using hb)
    simp [this] at hq
  | any s => simp [hrun s hx.1] at hq
  | several s => simp [hrun s hx.1.2] at hq
  | group index s =>
    have hfree := hx.2 index s rfl
    have hlt := letters_length (he ▸ hfree) ht hb
    have hlen : v.length < t.word.length := by
      simp only [Trigger.word, List.length_append, List.length_map]
      omega
    obtain ⟨hb₁, hb₂⟩ := begins_append hb
    have hpos : 0 < v.length := List.length_pos_iff.2 hne
    have hcross : crosses t.word s items = true := by
      refine List.any_eq_true.2 ⟨v.length - 1, List.mem_range.2 (by omega), ?_⟩
      rw [Nat.sub_add_cancel hpos]
      simp only [Bool.and_eq_true, decide_eq_true_eq, List.all_eq_true, Bool.not_eq_eq_eq_not, Bool.not_true]
      refine ⟨⟨hlen, fun r hr => ?_⟩, mayBegin_spec hp hb₂⟩
      obtain ⟨x, hxv, hrx⟩ := exists_mem_of_begins hb₁ hr
      exact not_apart hrx (hx.1.2 x (he ▸ List.mem_append_right u hxv))
    simp [hcross] at hq

/-- Can triggers begin at the item of an index only, which is a character, in a text that fits the items? With the index
after the last item, can none begin at all? -/
def hotOnlyAt (ts : List Trigger) : List Item → Nat → Bool
  | [], _ => true
  | .char _ :: items, 0 => hotOnlyAt ts items items.length
  | _ :: _, 0 => false
  | i :: items, k + 1 => quietItem ts i items && hotOnlyAt ts items k

/-- A text without triggers before another one. -/
theorem HotAt.cons {xs pre post : List Char} (h : HotAt ts pre post)
    (hx : ∀ u v B, xs = u ++ v → v ≠ [] → ¬Hot ts (v ++ (pre ++ post ++ B))) : HotAt ts (xs ++ pre) post := by
  intro u v B he hne hb
  rw [List.append_assoc] at he
  rcases List.append_eq_append_iff.1 he with ⟨as, rfl, hrest⟩ | ⟨bs, hxs, rfl⟩
  · obtain ⟨rfl, rfl⟩ := h as v B hrest hne hb
    exact ⟨rfl, rfl⟩
  · by_cases hbs : bs = []
    · subst hbs
      rw [List.append_nil] at hxs
      obtain ⟨hpre, hpost⟩ := h [] (pre ++ post) B rfl (by simpa using hne) (by simpa using hb)
      exact ⟨by rw [← hpre, hxs, List.append_nil], by rw [List.nil_append, hpost]⟩
    · rw [List.append_assoc] at hb
      exact absurd hb (hx u bs B hxs hbs)

theorem hotOnlyAt_spec {items : List Item} {k : Nat} (h : hotOnlyAt ts items k = true) {ps : List (List Char)}
    (hp : List.Forall₂ (Tame ts) items ps) : HotAt ts (ps.take k).flatten (ps.drop k).flatten := by
  induction hp generalizing k with
  | nil =>
    intro u v B he
    simp_all
  | @cons i xs items ps hx hps ih =>
    cases k with
    | zero =>
      cases i with
      | char s =>
        obtain ⟨c, rfl, _⟩ := hx.1
        intro u v B he hne hb
        cases u with
        | nil => exact ⟨rfl, he.symm⟩
        | cons d u =>
          -- a cut after the character is a cut of the rest, where no trigger begins
          have hlen : ps.length = items.length := hps.length_eq.symm
          have hrest := ih (by simpa only [hotOnlyAt] using h) u v B
          simp only [← hlen, List.take_length, List.drop_length, List.flatten_nil, List.append_nil] at hrest
          simp only [List.take_zero, List.flatten_nil, List.drop_zero, List.flatten_cons, List.cons_append,
            List.nil_append, List.cons.injEq] at he
          exact absurd (hrest he.2 hne hb).2 hne
      | any s | several s | group _ s => simp [hotOnlyAt] at h
    | succ k =>
      have h' : quietItem ts i items = true ∧ hotOnlyAt ts items k = true := by
        cases i <;> simpa [hotOnlyAt] using h
      refine HotAt.cons (ih h'.2) fun u v B he hne => ?_
      rw [List.drop_succ_cons, ← List.flatten_append, List.take_append_drop]
      exact quietItem_spec h'.1 hx (fits_of_tame hps) he hne

/-! ## Items with one text -/

/-- The code of the one character in a set. -/
def only? (s : CharSet) : Option Nat :=
  match s.ranges with
  | [(lo, hi)] => if lo = hi then some lo else none
  | _ => none

theorem only?_spec {s : CharSet} {n : Nat} (h : only? s = some n) {c : Char} (hc : s.contains c = true) :
    c.toNat = n := by
  unfold only? at h
  split at h
  · next lo hi hs =>
    split at h
    · next heq =>
      cases h
      obtain ⟨r, hr, h₁, h₂⟩ := exists_range hc
      rw [hs, List.mem_singleton] at hr
      subst hr
      simp only at h₁ h₂
      omega
    · cases h
  · cases h

/-- Are all items single characters? -/
def literal : List Item → Bool
  | [] => true
  | .char s :: items => (only? s).isSome && literal items
  | _ => false

theorem literal_unique {items : List Item} (h : literal items = true) {ps qs : List (List Char)}
    (hp : Fits items ps) (hq : Fits items qs) : ps = qs := by
  fun_induction literal items generalizing ps qs with
  | case1 =>
    cases hp
    cases hq
    rfl
  | case2 s items ih =>
    obtain ⟨hs, hrest⟩ := Bool.and_eq_true_iff.1 h
    obtain ⟨n, hn⟩ := Option.isSome_iff_exists.1 hs
    obtain ⟨_, ps, ⟨c, rfl, hc⟩, hps, rfl⟩ := List.forall₂_cons_left_iff.1 hp
    obtain ⟨_, qs, ⟨d, rfl, hd⟩, hqs, rfl⟩ := List.forall₂_cons_left_iff.1 hq
    have hcd : c = d := Char.toNat_inj.1 ((only?_spec hn hc).trans (only?_spec hn hd).symm)
    rw [hcd, ih hrest hps hqs]
  | case3 => cases h

/-- Does every text that fits the items begin with the word? -/
def surely : Word → List Item → Bool
  | [], _ => true
  | s :: w, .char t :: items => (only? t).any s.containsCode && surely w items
  | _ :: _, _ => false

theorem surely_spec {w : Word} {items : List Item} (h : surely w items = true) {ps : List (List Char)}
    (hp : Fits items ps) (B : List Char) : Begins w (ps.flatten ++ B) := by
  fun_induction surely w items generalizing ps with
  | case1 => simp [Begins]
  | case2 s w t items ih =>
    obtain ⟨ht, hrest⟩ := Bool.and_eq_true_iff.1 h
    obtain ⟨n, hn, hs⟩ := (Option.any_eq_true _ _).1 ht
    obtain ⟨_, ps, ⟨c, rfl, hc⟩, hps, rfl⟩ := List.forall₂_cons_left_iff.1 hp
    refine ⟨?_, ih hrest hps⟩
    rw [CharSet.contains, only?_spec hn hc]
    exact hs
  | case3 => cases h

/-! ## Texts of several parts -/

/-- A text in which a trigger can begin at one place only, and a fragment after it. -/
structure Part where
  before : List Char
  after : List Char
  fragment : List Char

def Part.text (p : Part) : List Char := p.before ++ p.after ++ p.fragment

/-- What is asked of a part. -/
structure Part.Sound (ts : List Trigger) (p : Part) : Prop where
  starts : ∃ c cs, p.before ++ p.after = c :: cs ∧ startsApart ts c = true
  hotAt : HotAt ts p.before p.after
  free : Free ts p.fragment

/-- A trigger in a text of several parts begins where one of the parts allows it. -/
theorem hot_in_parts {head : List Char} {parts : List Part} (hhead : Free ts head) (h : ∀ p ∈ parts, p.Sound ts)
    {u v : List Char} (he : head ++ parts.flatMap Part.text = u ++ v) (hne : v ≠ []) (hv : Hot ts v) :
    ∃ parts₁ p parts₂, parts = parts₁ ++ p :: parts₂ ∧ p.after ≠ [] ∧
      u = head ++ parts₁.flatMap Part.text ++ p.before ∧
      v = p.after ++ (p.fragment ++ parts₂.flatMap Part.text) := by
  induction parts generalizing head u with
  | nil =>
    refine absurd (by simpa using hv) (fragment_cold (B := []) hhead (by simp) (u := u) (v := v) ?_ hne)
    simpa using he
  | cons p parts ih =>
    obtain ⟨hp, hparts⟩ := List.forall_mem_cons.1 h
    obtain ⟨c, cs, hc, hstart⟩ := hp.starts
    have htext : (p :: parts).flatMap Part.text = p.before ++ p.after ++ (p.fragment ++ parts.flatMap Part.text) := by
      simp [Part.text]
    rw [htext] at he
    -- not in the fragment before the part
    obtain ⟨as, rfl, hcut⟩ : ∃ as, u = head ++ as ∧
        p.before ++ p.after ++ (p.fragment ++ parts.flatMap Part.text) = as ++ v := by
      rcases List.append_eq_append_iff.1 he with hafter | ⟨bs, hbs, rfl⟩
      · exact hafter
      · by_cases hnil : bs = []
        · subst hnil
          exact ⟨[], by simpa using hbs.symm, rfl⟩
        · refine absurd hv (fragment_cold hhead ?_ hbs hnil)
          simp [hc, hstart]
    -- in the part, or after it
    have hlater : ∀ bs, as = p.before ++ p.after ++ bs → p.fragment ++ parts.flatMap Part.text = bs ++ v →
        ∃ parts₁ q parts₂, p :: parts = parts₁ ++ q :: parts₂ ∧ q.after ≠ [] ∧
          head ++ as = head ++ parts₁.flatMap Part.text ++ q.before ∧
          v = q.after ++ (q.fragment ++ parts₂.flatMap Part.text) := by
      rintro bs rfl hbs
      obtain ⟨parts₁, q, parts₂, rfl, hq, rfl, rfl⟩ := ih hp.free hparts hbs
      exact ⟨p :: parts₁, q, parts₂, rfl, hq, by simp [Part.text], rfl⟩
    rcases List.append_eq_append_iff.1 hcut with ⟨bs, has, hrest⟩ | ⟨bs, hbs, rfl⟩
    · exact hlater bs has hrest
    · by_cases hnil : bs = []
      · subst hnil
        exact hlater [] (by simpa using hbs.symm) (by simp)
      · obtain ⟨rfl, rfl⟩ := hp.hotAt as bs _ hbs hnil hv
        exact ⟨[], p, parts, rfl, hnil, by simp, rfl⟩

end Retarget.Pattern
