import Mathlib.Data.Finset.Card
import Mathlib.Data.Finset.Prod
import Retarget.Pattern.Search

/-!
# What a search finds

A program runs by taking one of the next threads again and again (`Run`). A search finds the first start from which
some run accepts, and nothing only if there is no such start:

* `explore_sound`: what `explore` finds is reached by a run from the stack,
* `explore_settles`: if it finds nothing, then all that can be reached has been met and none of it accepts,
* `search_eq_some`, `search_eq_none`: the same for a search over all starts.

The proof of `explore_settles` needs that the rounds suffice: each round takes a thread off the stack, and only a place
that was not met before puts up to two on it (`work`).
-/

namespace Retarget.Pattern

/-! ## Runs -/

/-- Runs of `n` instructions from one thread to another. -/
inductive Run (program : Array Inst) (text : Array Char) : Nat → Thread → Thread → Prop
  | done (t : Thread) : Run program text 0 t t
  | step {n : Nat} {t t' u : Thread} (h : t' ∈ t.next program text) (rest : Run program text n t' u) :
      Run program text (n + 1) t u

/-- Is there a run from one thread to another? -/
def Reaches (program : Array Inst) (text : Array Char) (t u : Thread) : Prop := ∃ n, Run program text n t u

/-- Is there a run from a start that accepts? -/
def Accepting (program : Array Inst) (text : Array Char) (start : Nat) : Prop :=
  ∃ t, Reaches program text ⟨0, start, []⟩ t ∧ t.accepts program = true

/-- The address and the position of a thread. -/
def Thread.place (t : Thread) : Nat × Nat := (t.pc, t.pos)

variable {program : Array Inst} {text : Array Char}

theorem Reaches.refl (t : Thread) : Reaches program text t t := ⟨0, .done t⟩

theorem Reaches.head {t t' u : Thread} (h : t' ∈ t.next program text) (hr : Reaches program text t' u) :
    Reaches program text t u := by
  obtain ⟨n, hn⟩ := hr
  exact ⟨n + 1, .step h hn⟩

theorem Run.append {n m : Nat} {t u v : Thread} (h : Run program text n t u) (h' : Run program text m u v) :
    Run program text (n + m) t v := by
  induction h with
  | done => simpa using h'
  | @step n _ _ _ ht _ ih =>
    rw [show n + 1 + m = n + m + 1 by omega]
    exact .step ht (ih h')

theorem Reaches.trans {t u v : Thread} (h : Reaches program text t u) (h' : Reaches program text u v) :
    Reaches program text t v := by
  obtain ⟨n, hn⟩ := h
  obtain ⟨m, hm⟩ := h'
  exact ⟨n + m, hn.append hm⟩

/-- An instruction moves the position forward, and not past the end of the text. -/
theorem Thread.pos_next {t t' : Thread} (h : t' ∈ t.next program text) (ht : t.pos ≤ text.size) :
    t.pos ≤ t'.pos ∧ t'.pos ≤ text.size := by
  unfold Thread.next at h
  split at h
  · simp at h
  · simp at h
  · split at h
    · next hc =>
      have hlt : t.pos < text.size := by
        by_contra hge
        rw [Array.getElem?_eq_none (by omega)] at hc
        simp at hc
      simp only [List.mem_singleton] at h
      subst h
      exact ⟨Nat.le_succ _, hlt⟩
    · simp at h
  · split at h <;> simp_all
  · simp_all
  · simp_all
  · simp only [List.mem_cons, List.not_mem_nil, or_false] at h
    rcases h with rfl | rfl <;> exact ⟨Nat.le_refl _, ht⟩

theorem Run.pos {n : Nat} {t u : Thread} (h : Run program text n t u) (ht : t.pos ≤ text.size) :
    t.pos ≤ u.pos ∧ u.pos ≤ text.size := by
  induction h with
  | done => exact ⟨Nat.le_refl _, ht⟩
  | step hn _ ih =>
    have h₁ := Thread.pos_next hn ht
    have h₂ := ih h₁.2
    exact ⟨h₁.1.trans h₂.1, h₂.2⟩

/-- Where a thread leads to does not depend on what it has noted. -/
theorem Thread.place_next {t u t' : Thread} (h : t.place = u.place) (ht : t' ∈ t.next program text) :
    ∃ u' ∈ u.next program text, u'.place = t'.place := by
  obtain ⟨pc, pos, slots⟩ := t
  obtain ⟨pc', pos', slots'⟩ := u
  simp only [Thread.place, Prod.mk.injEq] at h
  obtain ⟨rfl, rfl⟩ := h
  unfold Thread.next at ht ⊢
  split at ht
  case h_7 first second he =>
    simp only [List.mem_cons, List.not_mem_nil, or_false] at ht
    rcases ht with rfl | rfl <;> simp [he, Thread.place]
  all_goals simp_all [Thread.place]

theorem Thread.accepts_congr {t u : Thread} (h : t.place = u.place) : t.accepts program = u.accepts program := by
  simp only [Thread.place, Prod.mk.injEq] at h
  simp [Thread.accepts, h.1]

/-! ## Exploration -/

/-- What `explore` finds is reached from a thread of the stack, and accepts. -/
theorem explore_sound {fuel : Nat} {stack : List Thread} {seen seen' : Seen} {t : Thread}
    (h : explore program text fuel stack seen = (some t, seen')) :
    ∃ s ∈ stack, Reaches program text s t ∧ t.accepts program = true := by
  induction fuel generalizing stack seen with
  | zero => simp [explore] at h
  | succ fuel ih =>
    cases stack with
    | nil => simp [explore] at h
    | cons s stack =>
      rw [explore] at h
      split at h
      · obtain ⟨s', hs', hr⟩ := ih h
        exact ⟨s', List.mem_cons_of_mem _ hs', hr⟩
      · split at h
        · next ha =>
          simp only [Prod.mk.injEq, Option.some.injEq] at h
          obtain ⟨rfl, _⟩ := h
          exact ⟨s, List.mem_cons_self, .refl s, ha⟩
        · obtain ⟨s', hs', hr, ha⟩ := ih h
          rcases List.mem_append.1 hs' with hs' | hs'
          · exact ⟨s, List.mem_cons_self, hr.head hs', ha⟩
          · exact ⟨s', List.mem_cons_of_mem _ hs', hr, ha⟩

/-- What has been met leads only to what has been met or waits on the stack, and does not accept. -/
structure Settled (program : Array Inst) (text : Array Char) (seen : Seen) (stack : List Thread) : Prop where
  closed : ∀ t t' : Thread, seen.contains t.place = true → t' ∈ t.next program text →
    seen.contains t'.place = true ∨ ∃ s ∈ stack, s.place = t'.place
  silent : ∀ t : Thread, seen.contains t.place = true → t.accepts program = false

/-- Nothing has been met. -/
theorem Settled.empty : Settled program text ∅ [] where
  closed t t' h := by simp at h
  silent t h := by simp at h

/-- A thread at a place that was met before can be left out. -/
theorem Settled.pop {seen : Seen} {s : Thread} {stack : List Thread} (h : Settled program text seen (s :: stack))
    (hs : seen.contains s.place = true) : Settled program text seen stack where
  closed t t' ht hn := by
    rcases h.closed t t' ht hn with h' | ⟨u, hu, he⟩
    · exact .inl h'
    · rcases List.mem_cons.1 hu with rfl | hu
      · exact .inl (he ▸ hs)
      · exact .inr ⟨u, hu, he⟩
  silent := h.silent

/-- A thread that does not accept is met, and the next ones wait. -/
theorem Settled.push {seen : Seen} {s : Thread} {stack : List Thread} (h : Settled program text seen (s :: stack))
    (hs : s.accepts program = false) :
    Settled program text (seen.insert s.place) (s.next program text ++ stack) where
  closed t t' ht hn := by
    simp only [Std.HashSet.contains_insert, Bool.or_eq_true, beq_iff_eq] at ht ⊢
    rcases ht with ht | ht
    · obtain ⟨u, hu, he⟩ := Thread.place_next ht.symm hn
      exact .inr ⟨u, List.mem_append_left _ hu, he⟩
    · rcases h.closed t t' ht hn with h' | ⟨u, hu, he⟩
      · exact .inl (.inr h')
      · rcases List.mem_cons.1 hu with rfl | hu
        · exact .inl (.inl he)
        · exact .inr ⟨u, List.mem_append_right _ hu, he⟩
  silent t ht := by
    simp only [Std.HashSet.contains_insert, Bool.or_eq_true, beq_iff_eq] at ht
    rcases ht with ht | ht
    · rw [Thread.accepts_congr ht.symm, hs]
    · exact h.silent t ht

/-- More threads may wait. -/
theorem Settled.wait {seen : Seen} {stack : List Thread} (h : Settled program text seen stack) (s : Thread) :
    Settled program text seen (s :: stack) where
  closed t t' ht hn := by
    rcases h.closed t t' ht hn with h' | ⟨u, hu, he⟩
    · exact .inl h'
    · exact .inr ⟨u, List.mem_cons_of_mem _ hu, he⟩
  silent := h.silent

/-- No run from a place that was met accepts, once the stack is empty. -/
theorem Settled.no_run {seen : Seen} (h : Settled program text seen []) {n : Nat} {t u : Thread}
    (hr : Run program text n t u) (ht : seen.contains t.place = true) : u.accepts program = false := by
  induction hr with
  | done t => exact h.silent t ht
  | step hn _ ih =>
    rcases h.closed _ _ ht hn with h' | ⟨_, hs, _⟩
    · exact ih h'
    · cases hs

/-! ## Enough rounds -/

/-- The places of a program and a text that have not been met. -/
def unmet (program : Array Inst) (text : Array Char) (seen : Seen) : Finset (Nat × Nat) :=
  (Finset.range program.size ×ˢ Finset.range (text.size + 1)).filter fun p => seen.contains p = false

/-- A bound on the rounds that are left. -/
def work (program : Array Inst) (text : Array Char) (stack : List Thread) (seen : Seen) : Nat :=
  stack.length + 2 * (unmet program text seen).card

theorem Thread.length_next (program : Array Inst) (text : Array Char) (t : Thread) :
    (t.next program text).length ≤ 2 := by
  unfold Thread.next
  split <;> try split
  all_goals simp

theorem Thread.next_eq_nil {t : Thread} (h : program.size ≤ t.pc) : t.next program text = [] := by
  unfold Thread.next
  rw [Array.getElem?_eq_none h]

theorem unmet_insert_subset (seen : Seen) (p : Nat × Nat) :
    unmet program text (seen.insert p) ⊆ unmet program text seen := by
  intro q hq
  simp only [unmet, Finset.mem_filter, Std.HashSet.contains_insert, Bool.or_eq_false_iff] at hq ⊢
  exact ⟨hq.1, hq.2.2⟩

theorem card_unmet_insert {seen : Seen} {t : Thread} (hs : seen.contains t.place = false)
    (hpc : t.pc < program.size) (hpos : t.pos ≤ text.size) :
    (unmet program text (seen.insert t.place)).card < (unmet program text seen).card := by
  refine Finset.card_lt_card ((Finset.ssubset_iff_of_subset (unmet_insert_subset seen _)).2 ⟨t.place, ?_, ?_⟩)
  · simp only [unmet, Finset.mem_filter, Finset.mem_product, Finset.mem_range]
    exact ⟨⟨hpc, Nat.lt_succ_of_le hpos⟩, hs⟩
  · simp [unmet]

/-- A round that meets a new place leaves less work. -/
theorem work_push {seen : Seen} {t : Thread} {stack : List Thread} (hs : seen.contains t.place = false)
    (hpos : t.pos ≤ text.size) :
    work program text (t.next program text ++ stack) (seen.insert t.place) < work program text (t :: stack) seen := by
  simp only [work, List.length_append, List.length_cons]
  by_cases hpc : t.pc < program.size
  · have h₁ := @card_unmet_insert program text _ _ hs hpc hpos
    have h₂ := Thread.length_next program text t
    omega
  · have h₁ := Finset.card_le_card (@unmet_insert_subset program text seen t.place)
    rw [Thread.next_eq_nil (by omega)]
    simp only [List.length_nil]
    omega

/-- The rounds of a search suffice for a stack of one thread. -/
theorem work_singleton_le (t : Thread) (seen : Seen) : work program text [t] seen ≤ rounds program text := by
  have h : (unmet program text seen).card ≤ program.size * (text.size + 1) := by
    refine (Finset.card_filter_le _ _).trans ?_
    simp
  simp only [work, rounds, List.length_singleton]
  rw [Nat.mul_assoc, Nat.add_mul]
  omega

/-- If `explore` finds nothing then all that can be reached has been met, and none of it accepts. -/
theorem explore_settles {fuel : Nat} {stack : List Thread} {seen seen' : Seen}
    (h : explore program text fuel stack seen = (none, seen')) (hset : Settled program text seen stack)
    (hpos : ∀ t ∈ stack, t.pos ≤ text.size) (hwork : work program text stack seen ≤ fuel) :
    Settled program text seen' [] ∧ (∀ p, seen.contains p = true → seen'.contains p = true) ∧
      ∀ t ∈ stack, seen'.contains t.place = true := by
  induction fuel generalizing stack seen with
  | zero =>
    have hnil : stack = [] := List.length_eq_zero_iff.1 (by unfold work at hwork; omega)
    subst hnil
    simp only [explore, Prod.mk.injEq, true_and] at h
    subst h
    exact ⟨hset, fun _ hp => hp, fun t ht => by cases ht⟩
  | succ fuel ih =>
    cases stack with
    | nil =>
      simp only [explore, Prod.mk.injEq, true_and] at h
      subst h
      exact ⟨hset, fun _ hp => hp, fun t ht => by cases ht⟩
    | cons s stack =>
      rw [explore] at h
      split at h
      · next hs =>
        have hw : work program text stack seen ≤ fuel := by
          simp only [work, List.length_cons] at hwork ⊢
          omega
        obtain ⟨h₁, h₂, h₃⟩ := ih h (hset.pop hs) (fun t ht => hpos t (List.mem_cons_of_mem _ ht)) hw
        refine ⟨h₁, h₂, fun t ht => ?_⟩
        rcases List.mem_cons.1 ht with rfl | ht
        · exact h₂ _ hs
        · exact h₃ t ht
      · next hs =>
        split at h
        · simp at h
        · next ha =>
          have hp := hpos s List.mem_cons_self
          have hw : work program text (s.next program text ++ stack) (seen.insert s.place) ≤ fuel := by
            have := @work_push program text _ _ stack (by simpa [Thread.place] using hs) hp
            omega
          have hpos' : ∀ t ∈ s.next program text ++ stack, t.pos ≤ text.size := by
            intro t ht
            rcases List.mem_append.1 ht with ht | ht
            · exact (Thread.pos_next ht hp).2
            · exact hpos t (List.mem_cons_of_mem _ ht)
          obtain ⟨h₁, h₂, h₃⟩ := ih h (hset.push (by simpa using ha)) hpos' hw
          refine ⟨h₁, fun p hp => h₂ p (by simp [hp]), fun t ht => ?_⟩
          rcases List.mem_cons.1 ht with rfl | ht
          · exact h₂ _ (by simp [Thread.place])
          · exact h₃ t (List.mem_append_right _ ht)

/-! ## Searches -/

/-- A match that a search gives: a run from its start accepts at its end, with its groups noted. -/
structure Finds (program : Array Inst) (groups : Nat) (text : Array Char) (m : Span) (t : Thread) : Prop where
  run : Reaches program text ⟨0, m.start, []⟩ t
  accepts : t.accepts program = true
  stop_eq : m.stop = t.pos
  groups_eq : m.groups = (List.range groups).map fun i => groupAt t.slots (i + 1)

/-- What `searchFrom` gives: the first start from which a run accepts, if there is one. -/
theorem searchFrom_spec {groups tries start : Nat} {seen : Seen} (hset : Settled program text seen [])
    (hle : start + tries ≤ text.size + 1) :
    (∀ m, searchFrom program groups text tries start seen = some m →
      (start ≤ m.start ∧ m.start < start + tries) ∧ (∃ t, Finds program groups text m t) ∧
        ∀ i, start ≤ i → i < m.start → ¬Accepting program text i) ∧
    (searchFrom program groups text tries start seen = none →
      ∀ i, start ≤ i → i < start + tries → ¬Accepting program text i) := by
  induction tries generalizing start seen with
  | zero => exact ⟨fun m h => by simp [searchFrom] at h, fun _ i h₁ h₂ => by omega⟩
  | succ tries ih =>
    rw [searchFrom]
    split
    · next t seen' he =>
      obtain ⟨s, hs, hr, ha⟩ := explore_sound he
      simp only [List.mem_singleton] at hs
      subst hs
      refine ⟨fun m hm => ?_, fun h => by simp at h⟩
      simp only [Option.some.injEq] at hm
      subst hm
      exact ⟨⟨Nat.le_refl _, by simp⟩, ⟨t, hr, ha, rfl, rfl⟩, fun i h₁ h₂ => absurd h₂ (by simp only; omega)⟩
    · next seen' he =>
      have hpos : ∀ t ∈ [(⟨0, start, []⟩ : Thread)], t.pos ≤ text.size := by
        intro t ht
        simp only [List.mem_singleton] at ht
        subst ht
        simp only
        omega
      obtain ⟨hset', _, hmet⟩ := explore_settles he (hset.wait _) hpos (work_singleton_le _ _)
      have hnone : ¬Accepting program text start := by
        rintro ⟨t, ⟨n, hn⟩, ha⟩
        have := hset'.no_run hn (hmet _ (List.mem_singleton_self _))
        simp [this] at ha
      have hle' : start + 1 + tries ≤ text.size + 1 := by omega
      obtain ⟨hsome, hnone'⟩ := ih hset' hle'
      refine ⟨fun m hm => ?_, fun h i h₁ h₂ => ?_⟩
      · obtain ⟨hb, hf, hfirst⟩ := hsome m hm
        refine ⟨⟨by omega, by omega⟩, hf, fun i h₁ h₂ => ?_⟩
        rcases Nat.lt_or_eq_of_le h₁ with h₁ | rfl
        · exact hfirst i h₁ h₂
        · exact hnone
      · rcases Nat.lt_or_eq_of_le h₁ with h₁ | rfl
        · exact hnone' h i h₁ (by omega)
        · exact hnone

/-- A search gives the first start from which a run accepts. -/
theorem search_eq_some {groups start : Nat} {m : Span} (h : search program groups text start = some m) :
    start ≤ m.start ∧ m.start ≤ text.size ∧ (∃ t, Finds program groups text m t) ∧
      ∀ i, start ≤ i → i < m.start → ¬Accepting program text i := by
  by_cases hs : start ≤ text.size
  · obtain ⟨hb, hf, hfirst⟩ := (searchFrom_spec Settled.empty (by omega)).1 m h
    exact ⟨hb.1, by omega, hf, hfirst⟩
  · rw [search, show text.size + 1 - start = 0 by omega] at h
    simp [searchFrom] at h

/-- A search gives nothing only if no run accepts from a start in the text. -/
theorem search_eq_none {groups start : Nat} (h : search program groups text start = none) (i : Nat)
    (h₁ : start ≤ i) (h₂ : i ≤ text.size) : ¬Accepting program text i :=
  (searchFrom_spec Settled.empty (by omega)).2 h i h₁ (by omega)

/-- A match lies in the text. -/
theorem Finds.bounds {groups : Nat} {m : Span} {t : Thread} (h : Finds program groups text m t)
    (hm : m.start ≤ text.size) : m.start ≤ m.stop ∧ m.stop ≤ text.size := by
  obtain ⟨n, hn⟩ := h.run
  rw [h.stop_eq]
  exact hn.pos hm

end Retarget.Pattern
