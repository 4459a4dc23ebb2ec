import Mathlib.Algebra.GroupWithZero.Nat
import Retarget.Proofs.Preference
import Retarget.Proofs.Profile

/-!
# Texts that are rewritten from left to right

A rule whose pattern finds the longest words of a language, and whose template is one text, rewrites a text as one reads
it (`Replaces`): where a word begins, the longest one is replaced, and all other characters stay. Said like this, what
a rule makes of a text can be put together from what it makes of the parts of the text.

* `Replaces.unique`: there is one result,
* `Replaces.append`: two texts one after the other, where no word goes over from the first into the second (`Cut`),
* `Replaces.intercalate`: texts joined by a character,
* `Rule.Swaps.apply`: a rule makes this of a text.
-/

namespace Retarget

/-! ## Rewriting by a language -/

/-- The first part of a text is the longest word that the text begins with. -/
structure Longest (M : List Char → Prop) (xs cs : List Char) : Prop where
  word : M xs
  longest : ∀ ys, M ys → ys <+: xs ++ cs → ys.length ≤ xs.length

/-- No word begins a text. -/
def Wordless (M : List Char → Prop) (cs : List Char) : Prop := ∀ ys, M ys → ¬ys <+: cs

/-- A text is read from left to right: the longest word at a place is replaced by the block, and where no word begins
the character stays. The number is that of the words. -/
inductive Replaces (M : List Char → Prop) (block : List Char) : List Char → List Char → Nat → Prop
  | nil : Replaces M block [] [] 0
  | keep {c : Char} {cs out : List Char} {k : Nat} (h : Wordless M (c :: cs)) (rest : Replaces M block cs out k) :
      Replaces M block (c :: cs) (c :: out) k
  | swap {xs cs out : List Char} {k : Nat} (h : Longest M xs cs) (rest : Replaces M block cs out k) :
      Replaces M block (xs ++ cs) (block ++ out) (k + 1)

/-- No word begins in the first text and goes over into the second. -/
def Cut (M : List Char → Prop) (xs ys : List Char) : Prop :=
  ∀ v, v <:+ xs → v ≠ [] → ∀ ws, M ws → ws <+: v ++ ys → ws <+: v

variable {M : List Char → Prop} {block : List Char}

/-- A text has one longest word at its beginning. -/
theorem Longest.eq {xs ys cs ds : List Char} (h : Longest M xs cs) (h' : Longest M ys ds)
    (he : xs ++ cs = ys ++ ds) : xs = ys ∧ cs = ds := by
  have h₁ := h.longest ys h'.word (he ▸ List.prefix_append ys ds)
  have h₂ := h'.longest xs h.word (he ▸ List.prefix_append xs cs)
  exact List.append_inj he (Nat.le_antisymm h₂ h₁)

theorem Longest.not_wordless {xs cs : List Char} (h : Longest M xs cs) : ¬Wordless M (xs ++ cs) :=
  fun hnot => hnot xs h.word (List.prefix_append xs cs)

theorem Cut.of_suffix {xs xs' ys : List Char} (h : Cut M xs ys) (hs : xs' <:+ xs) : Cut M xs' ys :=
  fun v hv => h v (hv.trans hs)

namespace Replaces

/-- The result is unique, as no word is empty. -/
theorem unique (hne : ¬M []) {cs out out' : List Char} {k k' : Nat} (h : Replaces M block cs out k)
    (h' : Replaces M block cs out' k') : out = out' ∧ k = k' := by
  have hword : ∀ {xs cs}, Longest M xs cs → xs ≠ [] := fun h he => hne (he ▸ h.word)
  induction h generalizing out' k' with
  | nil =>
    generalize he : ([] : List Char) = cs at h'
    cases h' with
    | nil => exact ⟨rfl, rfl⟩
    | keep => cases he
    | swap hl => exact absurd (List.append_eq_nil_iff.1 he.symm).1 (hword hl)
  | @keep c cs out k hc _ ih =>
    generalize he : c :: cs = ds at h'
    cases h' with
    | nil => cases he
    | keep _ hrest =>
      cases he
      obtain ⟨rfl, rfl⟩ := ih hrest
      exact ⟨rfl, rfl⟩
    | swap hl => exact absurd (he ▸ hc) hl.not_wordless
  | @swap xs cs out k hl _ ih =>
    generalize he : xs ++ cs = ds at h'
    cases h' with
    | nil => exact absurd (List.append_eq_nil_iff.1 he).1 (hword hl)
    | keep hc => exact absurd (he ▸ hc) hl.not_wordless
    | swap hl' hrest =>
      obtain ⟨rfl, rfl⟩ := hl.eq hl' he
      obtain ⟨rfl, rfl⟩ := ih hrest
      exact ⟨rfl, rfl⟩

/-- Two texts one after the other. -/
theorem append (hne : ¬M []) {xs ys out out' : List Char} {k k' : Nat} (h : Replaces M block xs out k)
    (h' : Replaces M block ys out' k') (hcut : Cut M xs ys) :
    Replaces M block (xs ++ ys) (out ++ out') (k + k') := by
  induction h with
  | nil => simpa using h'
  | @keep c cs out k hc _ ih =>
    refine .keep (fun ws hws hpre => ?_) (ih (hcut.of_suffix (List.suffix_cons c cs)))
    exact hc ws hws (hcut _ List.suffix_rfl (List.cons_ne_nil c cs) ws hws hpre)
  | @swap ws cs out k hl _ ih =>
    have hlonger : Longest M ws (cs ++ ys) := by
      refine ⟨hl.word, fun ws' hws' hpre => ?_⟩
      rw [← List.append_assoc] at hpre
      have hne' : ws ++ cs ≠ [] := fun he => hne ((List.append_eq_nil_iff.1 he).1 ▸ hl.word)
      exact hl.longest ws' hws' (hcut _ List.suffix_rfl hne' ws' hws' hpre)
    have hrest := swap hlonger (ih (hcut.of_suffix (List.suffix_append ws cs)))
    rwa [List.append_assoc, List.append_assoc, Nat.add_right_comm]

/-- A text in which no word begins at any place before what follows stays. -/
theorem skip {gap cs out : List Char} {k : Nat} (h : ∀ v, v <:+ gap → v ≠ [] → Wordless M (v ++ cs))
    (hrest : Replaces M block cs out k) : Replaces M block (gap ++ cs) (gap ++ out) k := by
  induction gap with
  | nil => exact hrest
  | cons c gap ih =>
    refine .keep (h _ List.suffix_rfl (List.cons_ne_nil c gap)) (ih fun v hv => ?_)
    exact h v (hv.trans (List.suffix_cons c gap))

/-- Texts joined by a character that begins no word, if no word goes over from one of them to the character. -/
theorem intercalate (hne : ¬M []) {sep : Char} (hsep : ∀ cs, Wordless M (sep :: cs)) {α : Type} {items : List α}
    {text out : α → List Char} {count : α → Nat} (h : ∀ x ∈ items, Replaces M block (text x) (out x) (count x))
    (hcut : ∀ x ∈ items, ∀ ys, Cut M (text x) (sep :: ys)) :
    Replaces M block ([sep].intercalate (items.map text)) ([sep].intercalate (items.map out))
      (items.map count).sum := by
  induction items with
  | nil => exact .nil
  | cons x items ih =>
    have hx := h x List.mem_cons_self
    have ih := ih (fun y hy => h y (List.mem_cons_of_mem x hy)) fun y hy => hcut y (List.mem_cons_of_mem x hy)
    cases items with
    | nil => simpa using hx
    | cons y items =>
      have hjoined := hx.append hne (keep (hsep _) ih) (hcut x List.mem_cons_self _)
      simpa [List.intercalate, List.intersperse] using hjoined

end Replaces

/-! ## The language of items -/

namespace Pattern

/-- The texts that fit items. -/
def Language (items : List Item) (xs : List Char) : Prop := ∃ ps, Fits items ps ∧ ps.flatten = xs

theorem language_append {is js : List Item} {xs : List Char} :
    Language (is ++ js) xs ↔ ∃ ys zs, Language is ys ∧ Language js zs ∧ xs = ys ++ zs := by
  constructor
  · rintro ⟨_, hps, rfl⟩
    obtain ⟨ps, qs, rfl, hp, hq⟩ := hps.split
    exact ⟨_, _, ⟨ps, hp, rfl⟩, ⟨qs, hq, rfl⟩, List.flatten_append⟩
  · rintro ⟨_, _, ⟨ps, hp, rfl⟩, ⟨qs, hq, rfl⟩, rfl⟩
    exact ⟨ps ++ qs, hp.append hq, List.flatten_append⟩

theorem language_singleton {i : Item} {xs : List Char} : Language [i] xs ↔ i.Fits xs := by
  simp only [Language, exists_fits_singleton]
  simp

/-- The items of characters that are spelled out. -/
def spelled (cs : List Char) : List Item := cs.map fun c => .char (.singleton c)

theorem language_spelled {cs xs : List Char} : Language (spelled cs) xs ↔ xs = cs := by
  induction cs generalizing xs with
  | nil => simp [Language, spelled, eq_comm]
  | cons c cs ih =>
    have hsplit : spelled (c :: cs) = [.char (.singleton c)] ++ spelled cs := rfl
    have hc : ∀ ys, Item.Fits (.char (.singleton c)) ys ↔ ys = [c] := by simp [Item.Fits, singleton_contains]
    simp only [hsplit, language_append, language_singleton, ih, hc]
    simp

/-- A plain node takes the texts of its language. -/
theorem Node.takes_language {n : Node} {items : List Item} (h : n.items? = some items) (text : Array Char) (i j : Nat) :
    (∃ notes, n.Takes text (i, []) (j, notes)) ↔
      ∃ xs, Language items xs ∧ xs <+: text.toList.drop i ∧ j = i + xs.length := by
  simp only [takes_iff h, Prod.mk.injEq]
  constructor
  · rintro ⟨_, ps, hps, hpre, rfl, _⟩
    exact ⟨_, ⟨ps, hps, rfl⟩, hpre, rfl⟩
  · rintro ⟨_, ⟨ps, hps, rfl⟩, hpre, rfl⟩
    exact ⟨_, ps, hps, hpre, rfl, rfl⟩

end Pattern

/-! ## Rules that rewrite -/

/-- A template of characters is the text that it is written as. -/
theorem Template.expand_of_chars {t : Template} {cs : List Char} (h : t.segments = Template.join [] (cs.map .char))
    (groups : Nat → Option String) : (t.expand groups).toList = cs := by
  simp [expand_of_pieces h, List.flatMap_map, Piece.text]

namespace Rule

open Pattern

/-- A rule replaces the longest words of a language by a block. -/
structure Swaps (r : Rule) (M : List Char → Prop) (block : List Char) : Prop where
  takes : ∀ (text : Array Char) (i j : Nat), (∃ notes, r.pattern.node.Takes text (i, []) (j, notes)) ↔
    ∃ xs, M xs ∧ xs <+: text.toList.drop i ∧ j = i + xs.length
  greedy : r.pattern.node.greedyBefore [] = true
  nonempty : ¬M []
  expand : ∀ groups, (r.template.expand groups).toList = block

namespace Swaps

variable {r : Rule} {text : Array Char}

/-- Where the pattern takes nothing no word begins. -/
theorem wordless (h : r.Swaps M block) {i : Nat} (hnone : ∀ b, ¬r.pattern.node.Takes text (i, []) b) :
    Wordless M (text.toList.drop i) := by
  intro xs hxs hpre
  obtain ⟨notes, htakes⟩ := (h.takes text i _).2 ⟨xs, hxs, hpre, rfl⟩
  exact hnone _ htakes

/-- What lies between two places stays, if no word begins in it. -/
theorem replaces_gap (h : r.Swaps M block) {i j : Nat} (hij : i ≤ j)
    (hnone : ∀ q, i ≤ q → q < j → ∀ b, ¬r.pattern.node.Takes text (q, []) b) {out : List Char} {k : Nat}
    (hrest : Replaces M block (text.toList.drop j) out k) :
    Replaces M block (text.toList.drop i) ((text.toList.drop i).take (j - i) ++ out) k := by
  generalize hgap : (text.toList.drop i).take (j - i) = gap
  have hcut : text.toList.drop i = gap ++ text.toList.drop j := (drop_gap hij (u := []) hgap).1
  rw [hcut]
  refine .skip (fun v hv hne => ?_) hrest
  obtain ⟨u, hu⟩ := hv
  obtain ⟨hdrop, hlen⟩ := drop_gap hij (hgap.trans hu.symm)
  have := List.length_pos_iff.2 hne
  exact hdrop ▸ h.wordless (hnone (i + u.length) (by omega) (by omega))

/-- A search finds the longest word at the first place where one begins. -/
theorem find?_longest (h : r.Swaps M block) {start : Nat} {m : Span} (hm : r.pattern.find? text start = some m) :
    ∃ xs, Longest M xs (text.toList.drop m.stop) ∧ text.toList.drop m.start = xs ++ text.toList.drop m.stop ∧
      m.start < m.stop := by
  obtain ⟨_, ⟨notes, htakes, _⟩, _⟩ := find?_eq_some hm
  obtain ⟨xs, hxs, hpre, hstop⟩ := (h.takes text m.start m.stop).1 ⟨notes, htakes⟩
  have hdrop : text.toList.drop m.start = xs ++ text.toList.drop m.stop := by
    obtain ⟨cs, hcs⟩ := hpre
    rw [hstop, ← List.drop_drop, ← hcs, List.drop_left]
  have hpos := List.length_pos_iff.2 fun he : xs = [] => h.nonempty (he ▸ hxs)
  refine ⟨xs, ⟨hxs, fun ys hys hpre => ?_⟩, hdrop, by omega⟩
  obtain ⟨notes', htakes'⟩ := (h.takes text m.start _).2 ⟨ys, hys, hdrop ▸ hpre, rfl⟩
  have hle : m.start + ys.length ≤ m.stop := Pattern.find?_longest h.greedy hm htakes'
  omega

theorem findNext? (h : r.Swaps M block) (start : Nat) (afterMatch : Bool) :
    r.pattern.findNext? text start afterMatch = r.pattern.find? text start :=
  findNext?_eq_find? fun _ hm => by
    obtain ⟨_, _, _, hlt⟩ := h.find?_longest hm
    exact hlt

/-- The searches of a pass go through the text from left to right. -/
theorem replaces_weave (h : r.Swaps M block) {start : Nat} {afterMatch : Bool} {ms : List Span}
    (hscan : Scan r.pattern text start afterMatch ms) :
    Replaces M block (text.toList.drop start) (r.weave text start ms) ms.length := by
  induction hscan with
  | @none start afterMatch hnone =>
    rw [h.findNext?] at hnone
    have hend : Replaces M block (text.toList.drop (max start text.size)) [] 0 := by
      rw [List.drop_eq_nil_of_le (by simp)]
      exact .nil
    have hgap := h.replaces_gap (Nat.le_max_left start text.size)
      (fun q hq hlt => find?_eq_none hnone q hq (by omega)) hend
    have hall : (text.toList.drop start).length ≤ max start text.size - start := by simp
    rwa [List.append_nil, List.take_of_length_le hall] at hgap
  | empty hm hempty =>
    rw [h.findNext?] at hm
    obtain ⟨_, _, _, hlt⟩ := h.find?_longest hm
    omega
  | @other start afterMatch m ms hm _ _ ih =>
    rw [h.findNext?] at hm
    obtain ⟨xs, hl, hdrop, _⟩ := h.find?_longest hm
    obtain ⟨hle, _, hfirst⟩ := find?_eq_some hm
    rw [weave, h.expand, List.append_assoc]
    refine h.replaces_gap hle hfirst ?_
    rw [hdrop]
    exact .swap hl ih

/-- What a rule makes of a text. -/
theorem apply (h : r.Swaps M block) (text : String) :
    ∃ out k, r.apply text = .ok ⟨String.ofList out, k⟩ ∧ Replaces M block text.toList out k := by
  have hscan := scan_allMatches r.pattern text.toList.toArray
  exact ⟨_, _, r.apply_eq text, by simpa using h.replaces_weave hscan⟩

end Swaps

end Rule

end Retarget
