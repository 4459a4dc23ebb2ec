import Retarget.Proofs.PlainPattern

/-!
# Which match a search prefers

Of the matches that begin at one place a search gives the one that it comes to first, depth first and with the first way
of every split before the second. So if the first ways lead to longer matches only (`Greedy`), it gives the longest one:

* `explore_longest`: nothing that accepts from the stack ends after what `explore` finds,
* `Node.greedy_program`: runs of characters that are repeated greedily make such splits, where what comes after a run
  cannot begin inside of it, or is always equally long,
* `find?_longest`: the match of a plain pattern with such runs is the longest one at its place.

A thread at a place that was met before is left out; all that accepts from there accepts from a thread that still waits
(`Settled.leaves`), so nothing is lost by it.
-/

namespace Retarget.Pattern

variable {program : Array Inst} {text : Array Char}

/-! ## Threads in order -/

/-- Nothing that accepts from the second thread ends after something that accepts from the first one. -/
def Outlasts (program : Array Inst) (text : Array Char) (t t' : Thread) : Prop :=
  ∀ u u', Reaches program text t u → u.accepts program = true → Reaches program text t' u' →
    u'.accepts program = true → u'.pos ≤ u.pos

/-- The first ways of all splits lead to the longer matches. -/
def Greedy (program : Array Inst) (text : Array Char) : Prop :=
  ∀ (a : Mark) (pc first second : Nat), program[pc]? = some (.split first second) →
    Outlasts program text (a.at first) (a.at second)

/-- A run from a thread at the same place passes through the same places. -/
theorem Run.congr {n : Nat} {t t' u : Thread} (h : Run program text n t u) (hplace : t.place = t'.place) :
    ∃ u', Run program text n t' u' ∧ u'.place = u.place := by
  induction h generalizing t' with
  | done => exact ⟨t', .done t', hplace.symm⟩
  | step hn _ ih =>
    obtain ⟨v, hv, he⟩ := Thread.place_next hplace hn
    obtain ⟨u', hu', heu⟩ := ih he.symm
    exact ⟨u', .step hv hu', heu⟩

/-- A run from a place that was met to one that accepts goes through a place that waits. -/
theorem Settled.leaves {seen : Seen} {stack : List Thread} (h : Settled program text seen stack) {n : Nat}
    {t u : Thread} (hr : Run program text n t u) (hu : u.accepts program = true)
    (ht : seen.contains t.place = true) :
    ∃ s ∈ stack, ∃ u', Reaches program text s u' ∧ u'.place = u.place := by
  induction hr with
  | done t =>
    rw [h.silent t ht] at hu
    cases hu
  | step hn hrest ih =>
    rcases h.closed _ _ ht hn with hmet | ⟨s, hs, hplace⟩
    · exact ih hu hmet
    · obtain ⟨u', hu', heu⟩ := hrest.congr hplace.symm
      exact ⟨s, hs, u', ⟨_, hu'⟩, heu⟩

/-- A thread at the end of the program leads nowhere else. -/
theorem Reaches.eq_of_accepts {t u : Thread} (h : Reaches program text t u) (ht : t.accepts program = true) :
    u = t := by
  obtain ⟨_, hr⟩ := h
  cases hr with
  | done => rfl
  | step hn _ => simp [Thread.next, (Node.accepts_iff program t).1 ht] at hn

/-- A thread that does not accept leads to an accepting one by its next threads. -/
theorem Reaches.exists_next {t u : Thread} (h : Reaches program text t u) (hu : u.accepts program = true)
    (ht : t.accepts program = false) : ∃ t' ∈ t.next program text, Reaches program text t' u := by
  obtain ⟨_, hr⟩ := h
  cases hr with
  | done =>
    rw [ht] at hu
    cases hu
  | step hn hrest => exact ⟨_, hn, _, hrest⟩

/-- The next threads of a thread are in order. -/
theorem Greedy.pairwise_next (h : Greedy program text) (t : Thread) :
    (t.next program text).Pairwise (Outlasts program text) := by
  unfold Thread.next
  split
  case h_7 first second he =>
    refine List.pairwise_pair.2 ?_
    exact h (t.pos, t.slots) t.pc first second he
  all_goals first
    | exact .nil
    | exact List.pairwise_singleton _ _
    | split <;> simp

/-- Nothing that accepts from the threads of a stack ends after what `explore` finds. -/
theorem explore_longest (hgreedy : Greedy program text) {fuel : Nat} {stack : List Thread} {seen seen' : Seen}
    {u : Thread} (h : explore program text fuel stack seen = (some u, seen')) (hset : Settled program text seen stack)
    (hstack : stack.Pairwise (Outlasts program text)) :
    ∀ t ∈ stack, ∀ u', Reaches program text t u' → u'.accepts program = true → u'.pos ≤ u.pos := by
  induction fuel generalizing stack seen with
  | zero => simp [explore] at h
  | succ fuel ih =>
    cases stack with
    | nil => simp [explore] at h
    | cons s stack =>
      obtain ⟨hs, hrest⟩ := List.pairwise_cons.1 hstack
      rw [explore] at h
      split at h
      · next hmet =>
        have hset' := hset.pop hmet
        have hih := ih h hset' hrest
        refine List.forall_mem_cons.2 ⟨fun u' hr hu' => ?_, hih⟩
        obtain ⟨_, hn⟩ := hr
        obtain ⟨t, ht, v, hv, hplace⟩ := hset'.leaves hn hu' hmet
        have hpos : v.pos = u'.pos := congrArg Prod.snd hplace
        exact hpos ▸ hih t ht v hv (Thread.accepts_congr hplace ▸ hu')
      · split at h
        · next hsu =>
          simp only [Prod.mk.injEq, Option.some.injEq] at h
          obtain ⟨rfl, _⟩ := h
          refine List.forall_mem_cons.2 ⟨fun u' hr _ => ?_, fun t ht u' hr hu' => ?_⟩
          · rw [hr.eq_of_accepts hsu]
          · exact hs t ht s u' (.refl s) hsu hr hu'
        · next hsu =>
          rw [Bool.not_eq_true] at hsu
          -- the next threads come before those that wait, as the thread itself did
          have hpair : (s.next program text ++ stack).Pairwise (Outlasts program text) := by
            refine List.pairwise_append.2 ⟨hgreedy.pairwise_next s, hrest, fun t ht t' ht' v v' hr hv hr' hv' => ?_⟩
            exact hs t' ht' v v' (hr.head ht) hv hr' hv'
          have hih := ih h (hset.push hsu) hpair
          refine List.forall_mem_cons.2 ⟨fun u' hr hu' => ?_, fun t ht => hih t (List.mem_append_right _ ht)⟩
          obtain ⟨t, ht, hr⟩ := hr.exists_next hu' hsu
          exact hih t (List.mem_append_left _ ht) u' hr hu'

/-- What `searchFrom` gives was found by `explore`, when nothing waited. -/
theorem searchFrom_explored {groups tries start : Nat} {seen : Seen} {m : Span}
    (h : searchFrom program groups text tries start seen = some m) (hset : Settled program text seen [])
    (hle : start + tries ≤ text.size + 1) :
    ∃ seen₁ seen₂ t, Settled program text seen₁ [] ∧ m.stop = t.pos ∧
      explore program text (rounds program text) [⟨0, m.start, []⟩] seen₁ = (some t, seen₂) := by
  induction tries generalizing start seen with
  | zero => simp [searchFrom] at h
  | succ tries ih =>
    rw [searchFrom] at h
    split at h
    · next t seen' he =>
      cases h
      exact ⟨seen, seen', t, hset, rfl, he⟩
    · next seen' he =>
      have hpos : ∀ t ∈ [(⟨0, start, []⟩ : Thread)], t.pos ≤ text.size := by
        simp only [List.mem_singleton, forall_eq]
        omega
      exact ih h (explore_settles he (hset.wait _) hpos (work_singleton_le _ _)).1 (by omega)

/-- A search gives the longest match at its place. -/
theorem search_longest (hgreedy : Greedy program text) {groups start : Nat} {m : Span}
    (h : search program groups text start = some m) {t : Thread} (ht : Reaches program text ⟨0, m.start, []⟩ t)
    (haccepts : t.accepts program = true) : t.pos ≤ m.stop := by
  by_cases hs : start ≤ text.size
  · obtain ⟨_, _, u, hset, hstop, he⟩ := searchFrom_explored h Settled.empty (by omega)
    rw [hstop]
    exact explore_longest hgreedy he (hset.wait _) (List.pairwise_singleton _ _) _ List.mem_cons_self t ht haccepts
  · rw [search, show text.size + 1 - start = 0 by omega] at h
    simp [searchFrom] at h

/-! ## Greedy runs -/

/-- Is the item one character? -/
def Item.isChar : Item → Bool
  | char _ => true
  | _ => false

/-- Is a plain node made of characters and greedy runs of them, each followed by what cannot begin with a character of
the run, or by a fixed number of characters? What comes after the node fits the items. -/
def Node.greedyBefore : Node → List Item → Bool
  | set _, _ => true
  | repeated 1 none true (.set s), rest => clear s rest || rest.all Item.isChar
  | seq m n, rest => n.greedyBefore rest && n.items?.any fun items => m.greedyBefore (items ++ rest)
  | _, _ => false

theorem length_flatten_of_chars {items : List Item} (h : items.all Item.isChar = true) {ps : List (List Char)}
    (hp : Fits items ps) : ps.flatten.length = items.length := by
  induction hp with
  | nil => rfl
  | @cons i xs items ps hx _ ih =>
    rw [List.all_cons, Bool.and_eq_true] at h
    cases i with
    | char s =>
      obtain ⟨c, rfl, _⟩ := hx
      simpa using ih h.2
    | any s | several s | group _ s => cases h.1

/-- What accepts from an address on has gone through pieces that fit the items. -/
def Accepted (program : Array Inst) (text : Array Char) (pc : Nat) (items : List Item) : Prop :=
  ∀ (a : Mark) u, Reaches program text (a.at pc) u → u.accepts program = true →
    ∃ ps, Fits items ps ∧ ps.flatten <+: text.toList.drop a.1 ∧ u.pos = a.1 + ps.flatten.length

/-- The program accepts from an address on only. -/
def AcceptsFrom (program : Array Inst) (stop : Nat) : Prop := ∀ pc, program[pc]? = some .accept → stop ≤ pc

/-- What accepts has left the code of a node, if the program accepts behind it only. -/
theorem Node.accepted_code {n : Node} {items rest : List Item} {pc : Nat} (hitems : n.items? = some items)
    (hc : CodeAt program pc (n.code pc)) (hstop : AcceptsFrom program (pc + n.size))
    (hrest : Accepted program text (pc + n.size) rest) : Accepted program text pc (items ++ rest) := by
  rintro a u ⟨k, hr⟩ hu
  obtain ⟨b, _, _, htakes, hr'⟩ := code_exits n pc hc k a u hr (hstop _ ((accepts_iff program u).1 hu))
  obtain ⟨ps, hps, hpre, rfl⟩ := (takes_iff hitems).1 htakes
  obtain ⟨qs, hqs, hpre', hpos⟩ := hrest _ u ⟨_, hr'⟩ hu
  refine ⟨ps ++ qs, hps.append hqs, ?_, ?_⟩
  · rw [List.flatten_append]
    exact append_isPrefix_drop.2 ⟨hpre, hpre'⟩
  · rw [hpos, List.flatten_append, List.length_append, Nat.add_assoc]

/-- One more round of a run leads to longer matches than what comes after it. -/
theorem Accepted.outlasts {s : CharSet} {rest : List Item} {pc pc' : Nat}
    (h : Accepted program text pc (.several s :: rest)) (h' : Accepted program text pc' rest)
    (hrest : clear s rest = true ∨ rest.all Item.isChar = true) (a : Mark) :
    Outlasts program text (a.at pc) (a.at pc') := by
  intro u u' hr hu hr' hu'
  obtain ⟨_, hfits, ⟨A, hpre⟩, hpos⟩ := h a u hr hu
  obtain ⟨xs, ps, ⟨hne, hxs⟩, hps, rfl⟩ := List.forall₂_cons_left_iff.1 hfits
  obtain ⟨qs, hqs, ⟨B, hpre'⟩, hpos'⟩ := h' a u' hr' hu'
  rcases hrest with hclear | hchars
  · -- the text goes on with a character of the run, so what comes after the run does not begin here
    obtain ⟨c, cs, he, hc⟩ := clear_spec hclear hqs B
    obtain ⟨x, xs, rfl⟩ := List.exists_cons_of_ne_nil hne
    rw [he, ← hpre] at hpre'
    simp only [List.flatten_cons, List.cons_append, List.cons.injEq] at hpre'
    rw [hpre'.1, hxs x List.mem_cons_self] at hc
    cases hc
  · rw [hpos, hpos', List.flatten_cons, List.length_append, length_flatten_of_chars hchars hps,
      length_flatten_of_chars hchars hqs]
    omega

/-- The splits in the code of a node with greedy runs. -/
theorem Node.outlasts_code {n : Node} {rest : List Item} (h : n.greedyBefore rest = true) {pc : Nat}
    (hc : CodeAt program pc (n.code pc)) (hstop : AcceptsFrom program (pc + n.size))
    (hrest : Accepted program text (pc + n.size) rest) (a : Mark) {at' first second : Nat} (hle : pc ≤ at')
    (hlt : at' < pc + n.size) (hsplit : program[at']? = some (.split first second)) :
    Outlasts program text (a.at first) (a.at second) := by
  fun_induction greedyBefore n rest generalizing pc with
  | case1 s rest =>
    obtain rfl : at' = pc := by simp only [size] at hlt; omega
    rw [hc.head] at hsplit
    cases hsplit
  | case2 s rest =>
    have hrun := accepted_code (n := .repeated 1 none true (.set s)) rfl hc hstop hrest
    obtain ⟨_, hbody, hfork⟩ := codeAt_atLeast hc
    simp only [size, Nat.zero_mul, Nat.add_zero, Nat.reduceAdd, Nat.reduceMul] at hbody hfork hlt hrest
    obtain rfl | rfl : at' = pc ∨ at' = pc + 1 := by omega
    · rw [hbody.head] at hsplit
      cases hsplit
    · rw [hfork] at hsplit
      cases hsplit
      exact hrun.outlasts hrest ((Bool.or_eq_true_iff ..).1 h) a
  | case3 m n rest ihn ihm =>
    obtain ⟨hn, hm⟩ := Bool.and_eq_true_iff.1 h
    obtain ⟨items, hitems, hm⟩ := (Option.any_eq_true _ _).1 hm
    obtain ⟨hcm, hcn⟩ := codeAt_seq hc
    simp only [size, ← Nat.add_assoc] at hstop hrest hlt
    by_cases hat : at' < pc + m.size
    · refine ihm items hm hcm (fun q hq => ?_) (accepted_code hitems hcn hstop hrest) hle hat
      have := hstop q hq
      omega
    · exact ihn hn hcn hstop hrest (by omega) hlt
  | case4 => cases h

/-- The program of a node with greedy runs prefers longer matches. -/
theorem Node.greedy_program {n : Node} (h : n.greedyBefore [] = true) (text : Array Char) :
    Greedy n.program text := by
  intro a pc first second hsplit
  have hlt : pc < n.size := by
    have hle : pc < n.program.size := by
      by_contra hge
      rw [Array.getElem?_eq_none (by omega)] at hsplit
      cases hsplit
    have hne : pc ≠ n.size := by
      rintro rfl
      rw [(program_accept_iff n n.size).2 rfl] at hsplit
      cases hsplit
    simp only [program, List.size_toArray, List.length_append, length_code, List.length_singleton] at hle
    omega
  have hstop : AcceptsFrom n.program (0 + n.size) := fun q hq => by
    rw [(program_accept_iff n q).1 hq]
    omega
  -- behind the code the program only accepts
  have hend : Accepted n.program text (0 + n.size) [] := by
    intro b u hr hu
    have haccepts : (b.at (0 + n.size)).accepts n.program = true :=
      (accepts_iff _ _).2 ((program_accept_iff n _).2 (Nat.zero_add _))
    exact ⟨[], .nil, List.nil_prefix, congrArg Thread.pos (hr.eq_of_accepts haccepts)⟩
  exact outlasts_code h (codeAt_program n) hstop hend a (Nat.zero_le _) (by omega) hsplit

/-- The match that a pattern with greedy runs finds is the longest one at its place. -/
theorem find?_longest {p : Pattern} (hgreedy : p.node.greedyBefore [] = true) {start : Nat} {m : Span}
    (h : p.find? text start = some m) {b : Mark} (hb : p.node.Takes text (m.start, []) b) : b.1 ≤ m.stop := by
  rw [find?, p.program_eq] at h
  obtain ⟨hr, haccepts⟩ := (Node.reaches_iff p.node m.start (b.at p.node.size)).2 ⟨rfl, hb⟩
  exact search_longest (Node.greedy_program hgreedy text) h hr haccepts

end Retarget.Pattern
