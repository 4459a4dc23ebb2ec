import Retarget.Proofs.Search
import Retarget.Pattern.Basic

/-!
# What the program of a node takes

`Node.Takes` says what a node matches without any program: from a place in the text, with what has been noted so far,
to another place with more notes. The program of a node does exactly that, whichever way its splits go:

* `Node.code_exits`: every run through the code of a node leaves it at its end, after the node took something,
* `Node.code_enters`: whatever the node takes, some run through its code takes it,
* `Node.reaches_iff`: both for the whole program.

So a pattern finds a match exactly where its node takes something (`Pattern.find?_eq_some`, `Pattern.find?_eq_none`).
-/

namespace Retarget.Pattern

/-- A place in a text and the positions noted so far, the last one first. -/
abbrev Mark := Nat × List (Nat × Nat)

/-- A relation so many times in a row. -/
def Times (R : Mark → Mark → Prop) : Nat → Mark → Mark → Prop
  | 0, a, b => b = a
  | k + 1, a, b => ∃ c, R a c ∧ Times R k c b

/-- What a node takes. The upper bound of a repetition counts from the lower one on. -/
def Node.Takes (text : Array Char) : Node → Mark → Mark → Prop
  | .empty, a, b => b = a
  | .set s, a, b => text[a.1]?.any s.contains = true ∧ b = (a.1 + 1, a.2)
  | .look l, a, b => l.holds (before? text a.1) text[a.1]? = true ∧ b = a
  | .seq m n, a, b => ∃ c, m.Takes text a c ∧ n.Takes text c b
  | .alt m n, a, b => m.Takes text a b ∨ n.Takes text a b
  | .repeated min max _ n, a, b =>
    ∃ k, min ≤ k ∧ (∀ top, max = some top → k ≤ min + (top - min)) ∧ Times (n.Takes text) k a b
  | .capture i n, a, b =>
    ∃ c, n.Takes text (a.1, (2 * i, a.1) :: a.2) c ∧ b = (c.1, (2 * i + 1, c.1) :: c.2)

/-- The thread at an address with a mark. -/
def Mark.at (a : Mark) (pc : Nat) : Thread := ⟨pc, a.1, a.2⟩

@[simp] theorem Mark.at_pc (a : Mark) (pc : Nat) : (a.at pc).pc = pc := rfl

variable {program : Array Inst} {text : Array Char}

theorem Times.add {R : Mark → Mark → Prop} {j k : Nat} {a b c : Mark} (h : Times R j a b) (h' : Times R k b c) :
    Times R (j + k) a c := by
  induction j generalizing a with
  | zero =>
    cases h
    simpa using h'
  | succ j ih =>
    obtain ⟨d, hd, hrest⟩ := h
    rw [show j + 1 + k = j + k + 1 by omega]
    exact ⟨d, hd, ih hrest⟩

theorem Times.split {R : Mark → Mark → Prop} {j k : Nat} {a c : Mark} (h : Times R (j + k) a c) :
    ∃ b, Times R j a b ∧ Times R k b c := by
  induction j generalizing a with
  | zero => exact ⟨a, rfl, by simpa using h⟩
  | succ j ih =>
    rw [show j + 1 + k = j + k + 1 by omega] at h
    obtain ⟨d, hd, hrest⟩ := h
    obtain ⟨b, h₁, h₂⟩ := ih hrest
    exact ⟨b, ⟨d, hd, h₁⟩, h₂⟩

/-! ## Code in a program -/

/-- The instructions stand in the program from an address on. -/
def CodeAt (program : Array Inst) (pc : Nat) (code : List Inst) : Prop :=
  ∀ i < code.length, program[pc + i]? = code[i]?

theorem CodeAt.left {pc : Nat} {c d : List Inst} (h : CodeAt program pc (c ++ d)) : CodeAt program pc c := by
  intro i hi
  rw [h i (by simp; omega), List.getElem?_append_left hi]

theorem CodeAt.right {pc : Nat} {c d : List Inst} (h : CodeAt program pc (c ++ d)) :
    CodeAt program (pc + c.length) d := by
  intro i hi
  rw [show pc + c.length + i = pc + (c.length + i) by omega, h (c.length + i) (by simp; omega),
    List.getElem?_append_right (by omega)]
  simp

theorem CodeAt.head {pc : Nat} {i : Inst} {c : List Inst} (h : CodeAt program pc (i :: c)) :
    program[pc]? = some i := by simpa using h 0 (by simp)

theorem CodeAt.tail {pc : Nat} {i : Inst} {c : List Inst} (h : CodeAt program pc (i :: c)) :
    CodeAt program (pc + 1) c := CodeAt.right (c := [i]) h

namespace Node

theorem copies_succ (block : Nat → List Inst) (width n pc : Nat) :
    copies block width (n + 1) pc = copies block width n pc ++ block (pc + n * width) := by
  induction n generalizing pc with
  | zero => simp [copies]
  | succ n ih =>
    rw [copies, ih (pc + width), ← List.append_assoc, ← copies]
    congr 2
    rw [Nat.add_mul]
    omega

/-! Where the parts of a node's code stand. -/

section Parts

variable {m n : Node} {pc : Nat} {greedy : Bool}

theorem codeAt_seq (hc : CodeAt program pc ((seq m n).code pc)) :
    CodeAt program pc (m.code pc) ∧ CodeAt program (pc + m.size) (n.code (pc + m.size)) := by
  have hright := hc.right
  rw [length_code] at hright
  exact ⟨hc.left, hright⟩

theorem codeAt_alt (hc : CodeAt program pc ((alt m n).code pc)) :
    program[pc]? = some (.split (pc + 1) (pc + m.size + 2)) ∧ CodeAt program (pc + 1) (m.code (pc + 1)) ∧
      program[pc + 1 + m.size]? = some (.jump (pc + m.size + n.size + 2)) ∧
      CodeAt program (pc + m.size + 2) (n.code (pc + m.size + 2)) := by
  simp only [code] at hc
  have hjump := hc.tail.right
  rw [length_code] at hjump
  refine ⟨hc.head, hc.tail.left, hjump.head, ?_⟩
  simpa [show pc + 1 + m.size + 1 = pc + m.size + 2 by omega] using hjump.tail

theorem codeAt_capture {i : Nat} (hc : CodeAt program pc ((capture i n).code pc)) :
    program[pc]? = some (.save (2 * i)) ∧ CodeAt program (pc + 1) (n.code (pc + 1)) ∧
      program[pc + 1 + n.size]? = some (.save (2 * i + 1)) := by
  simp only [code] at hc
  have hlast := hc.tail.right
  rw [length_code] at hlast
  exact ⟨hc.head, hc.tail.left, hlast.head⟩

theorem codeAt_star (hc : CodeAt program pc ((repeated 0 none greedy n).code pc)) :
    program[pc]? = some (.fork greedy (pc + 1) (pc + n.size + 2)) ∧ CodeAt program (pc + 1) (n.code (pc + 1)) ∧
      (program[pc + 1 + n.size]? = some (.jump pc) ∨
        program[pc + 1 + n.size]? = some (.fork greedy (pc + 1) (pc + n.size + 2))) := by
  simp only [code] at hc
  have hlast := hc.tail.right.head
  rw [length_code] at hlast
  refine ⟨hc.head, hc.tail.left, ?_⟩
  split at hlast
  · exact .inl hlast
  · exact .inr hlast

theorem codeAt_atLeast {min : Nat} (hc : CodeAt program pc ((repeated (min + 1) none greedy n).code pc)) :
    CodeAt program pc (copies n.code n.size min pc) ∧
      CodeAt program (pc + min * n.size) (n.code (pc + min * n.size)) ∧
      program[pc + min * n.size + n.size]? =
        some (.fork greedy (pc + min * n.size) (pc + min * n.size + n.size + 1)) := by
  have hstop : pc + min * n.size + n.size = pc + (min + 1) * n.size := by rw [Nat.add_mul]; omega
  simp only [code] at hc
  have hfork := hc.right.head
  rw [length_copies (length_code n), ← hstop] at hfork
  have hcopies := hc.left
  rw [copies_succ] at hcopies
  have hlast := hcopies.right
  rw [length_copies (length_code n)] at hlast
  exact ⟨hcopies.left, hlast, hfork⟩

theorem codeAt_between {min max : Nat} (hc : CodeAt program pc ((repeated min (some max) greedy n).code pc)) :
    let start := pc + min * n.size
    let out := start + (max - min) * (n.size + 1)
    CodeAt program pc (copies n.code n.size min pc) ∧
      CodeAt program start
        (copies (fun pc => .fork greedy (pc + 1) out :: n.code (pc + 1)) (n.size + 1) (max - min) start) := by
  simp only [code] at hc
  have hright := hc.right
  rw [length_copies (length_code n)] at hright
  exact ⟨hc.left, hright⟩

end Parts

end Node

/-! ## One instruction -/

theorem mem_next_set {pc : Nat} {s : CharSet} (h : program[pc]? = some (.set s)) {a : Mark} {t : Thread} :
    t ∈ (a.at pc).next program text ↔ text[a.1]?.any s.contains = true ∧ t = Mark.at (a.1 + 1, a.2) (pc + 1) := by
  by_cases hs : text[a.1]?.any s.contains = true <;> simp only [Thread.next, Mark.at, h, hs] <;> simp

theorem mem_next_look {pc : Nat} {l : Look} (h : program[pc]? = some (.look l)) {a : Mark} {t : Thread} :
    t ∈ (a.at pc).next program text ↔ l.holds (before? text a.1) text[a.1]? = true ∧ t = a.at (pc + 1) := by
  by_cases hl : l.holds (before? text a.1) text[a.1]? = true <;> simp only [Thread.next, Mark.at, h, hl] <;> simp

theorem mem_next_save {pc slot : Nat} (h : program[pc]? = some (.save slot)) {a : Mark} {t : Thread} :
    t ∈ (a.at pc).next program text ↔ t = Mark.at (a.1, (slot, a.1) :: a.2) (pc + 1) := by
  simp [Thread.next, Mark.at, h]

theorem mem_next_jump {pc target : Nat} (h : program[pc]? = some (.jump target)) {a : Mark} {t : Thread} :
    t ∈ (a.at pc).next program text ↔ t = a.at target := by
  simp [Thread.next, Mark.at, h]

theorem mem_next_split {pc first second : Nat} (h : program[pc]? = some (.split first second)) {a : Mark}
    {t : Thread} : t ∈ (a.at pc).next program text ↔ t = a.at first ∨ t = a.at second := by
  simp [Thread.next, Mark.at, h]

theorem mem_next_fork {pc on out : Nat} {greedy : Bool} (h : program[pc]? = some (.fork greedy on out)) {a : Mark}
    {t : Thread} : t ∈ (a.at pc).next program text ↔ t = a.at on ∨ t = a.at out := by
  cases greedy
  · rw [mem_next_split (by simpa [Inst.fork] using h), or_comm]
  · exact mem_next_split (by simpa [Inst.fork] using h)

/-- A run that ends at another address starts with an instruction. -/
theorem Run.uncons {k : Nat} {t u : Thread} (h : Run program text k t u) (hne : t.pc ≠ u.pc) :
    ∃ k' t', k = k' + 1 ∧ t' ∈ t.next program text ∧ Run program text k' t' u := by
  cases h with
  | done => exact absurd rfl hne
  | step ht rest => exact ⟨_, _, rfl, ht, rest⟩

/-! ## Runs leave code at its end -/

/-- Runs from `pc` to an address from `stop` on come through `stop`, after `R` was done. -/
def Exits (program : Array Inst) (text : Array Char) (pc stop : Nat) (R : Mark → Mark → Prop) : Prop :=
  ∀ k (a : Mark) u, Run program text k (a.at pc) u → stop ≤ u.pc →
    ∃ b k', k' ≤ k ∧ R a b ∧ Run program text k' (b.at stop) u

theorem Exits.trans {pc mid stop : Nat} {R S : Mark → Mark → Prop} (h : Exits program text pc mid R)
    (h' : Exits program text mid stop S) (hle : mid ≤ stop) :
    Exits program text pc stop fun a b => ∃ c, R a c ∧ S c b := by
  intro k a u hr hu
  obtain ⟨c, k₁, hk₁, hR, hr₁⟩ := h k a u hr (hle.trans hu)
  obtain ⟨b, k₂, hk₂, hS, hr₂⟩ := h' k₁ c u hr₁ hu
  exact ⟨b, k₂, hk₂.trans hk₁, ⟨c, hR, hS⟩, hr₂⟩

namespace Node

/-- Copies of a block, one after another. -/
theorem copies_exits {block : Nat → List Inst} {width : Nat} {R : Mark → Mark → Prop}
    (hlen : ∀ pc, (block pc).length = width)
    (hblock : ∀ pc, CodeAt program pc (block pc) → Exits program text pc (pc + width) R) (n pc : Nat)
    (hc : CodeAt program pc (copies block width n pc)) : Exits program text pc (pc + n * width) (Times R n) := by
  induction n generalizing pc with
  | zero =>
    intro k a u hr _
    exact ⟨a, k, Nat.le_refl _, rfl, by simpa using hr⟩
  | succ n ih =>
    have hrest := ih (pc + width) (by simpa [hlen] using hc.right)
    have hstop : pc + width + n * width = pc + (n + 1) * width := by rw [Nat.add_mul]; omega
    rw [hstop] at hrest
    exact (hblock pc hc.left).trans hrest (by rw [Nat.add_mul]; omega)

/-- Optional copies of a node: each is entered or left for `out`. -/
theorem optional_exits {n : Node} {greedy : Bool} {out : Nat}
    (hn : ∀ pc, CodeAt program pc (n.code pc) → Exits program text pc (pc + n.size) (n.Takes text)) (m pc : Nat)
    (hout : out = pc + m * (n.size + 1))
    (hc : CodeAt program pc (copies (fun pc => .fork greedy (pc + 1) out :: n.code (pc + 1)) (n.size + 1) m pc)) :
    Exits program text pc out fun a b => ∃ k ≤ m, Times (n.Takes text) k a b := by
  induction m generalizing pc with
  | zero =>
    intro k a u hr _
    exact ⟨a, k, Nat.le_refl _, ⟨0, Nat.le_refl _, rfl⟩, by simpa [hout] using hr⟩
  | succ m ih =>
    intro k a u hr hu
    have hpc : pc + (n.size + 1) ≤ out := by rw [hout, Nat.add_mul]; omega
    obtain ⟨k', t, rfl, ht, hr'⟩ := hr.uncons (by simp only [Mark.at_pc]; omega)
    rcases (mem_next_fork hc.left.head).1 ht with rfl | rfl
    · obtain ⟨b, k₁, hk₁, hb, hr₁⟩ := hn _ hc.left.tail _ _ _ hr' (by omega)
      have hc' := hc.right
      simp only [List.length_cons, length_code] at hc'
      obtain ⟨c, k₂, hk₂, ⟨j, hj, hjc⟩, hr₂⟩ :=
        ih (pc + (n.size + 1)) (by rw [hout, Nat.add_mul]; omega) hc' k₁ b u
          (by rwa [show pc + (n.size + 1) = pc + 1 + n.size by omega]) hu
      exact ⟨c, k₂, by omega, ⟨j + 1, by omega, b, hb, hjc⟩, hr₂⟩
    · exact ⟨a, k', by omega, ⟨0, by omega, rfl⟩, hr'⟩

/-- A loop that is tested at its start. -/
theorem star_exits {n : Node} {greedy : Bool} {pc : Nat}
    (hn : Exits program text (pc + 1) (pc + 1 + n.size) (n.Takes text))
    (hc : CodeAt program pc ((repeated 0 none greedy n).code pc)) :
    Exits program text pc (pc + n.size + 2) fun a b => ∃ k, Times (n.Takes text) k a b := by
  obtain ⟨hfirst, _, hlast⟩ := codeAt_star hc
  -- a run that is at the last instruction goes on with a shorter run from the start, or leaves
  have hmain : ∀ k (a : Mark) u, (Run program text k (a.at pc) u ∨ Run program text k (a.at (pc + 1 + n.size)) u) →
      pc + n.size + 2 ≤ u.pc →
      ∃ b k', k' ≤ k ∧ (∃ j, Times (n.Takes text) j a b) ∧ Run program text k' (b.at (pc + n.size + 2)) u := by
    intro k
    induction k using Nat.strong_induction_on with
    | _ k ih =>
      have hinner : ∀ k' < k, ∀ (a : Mark) u, Run program text k' (a.at (pc + 1)) u → pc + n.size + 2 ≤ u.pc →
          ∃ b k'', k'' ≤ k ∧ (∃ j, Times (n.Takes text) j a b) ∧
            Run program text k'' (b.at (pc + n.size + 2)) u := by
        intro k' hk' a u hr hu
        obtain ⟨c, k₁, hk₁, hc', hr₁⟩ := hn _ _ _ hr (by omega)
        obtain ⟨b, k₂, hk₂, ⟨j, hj⟩, hr₂⟩ := ih k₁ (by omega) c u (.inr hr₁) hu
        exact ⟨b, k₂, by omega, ⟨j + 1, c, hc', hj⟩, hr₂⟩
      rintro a u (hr | hr) hu
      · obtain ⟨k', t, rfl, ht, hr'⟩ := hr.uncons (by simp only [Mark.at_pc]; omega)
        rcases (mem_next_fork hfirst).1 ht with rfl | rfl
        · exact hinner k' (by omega) a u hr' hu
        · exact ⟨a, k', by omega, ⟨0, rfl⟩, hr'⟩
      · obtain ⟨k', t, rfl, ht, hr'⟩ := hr.uncons (by simp only [Mark.at_pc]; omega)
        rcases hlast with hlast | hlast
        · rw [mem_next_jump hlast] at ht
          subst ht
          obtain ⟨b, k₂, hk₂, hj, hr₂⟩ := ih k' (by omega) a u (.inl hr') hu
          exact ⟨b, k₂, by omega, hj, hr₂⟩
        · rcases (mem_next_fork hlast).1 ht with rfl | rfl
          · exact hinner k' (by omega) a u hr' hu
          · exact ⟨a, k', by omega, ⟨0, rfl⟩, hr'⟩
  exact fun k a u hr hu => hmain k a u (.inl hr) hu

/-- A loop that is tested at its end. -/
theorem plus_exits {n : Node} {greedy : Bool} {pc : Nat} (hn : Exits program text pc (pc + n.size) (n.Takes text))
    (hc : program[pc + n.size]? = some (.fork greedy pc (pc + n.size + 1))) :
    Exits program text pc (pc + n.size + 1) fun a b => ∃ k, Times (n.Takes text) (k + 1) a b := by
  intro k
  induction k using Nat.strong_induction_on with
  | _ k ih =>
    intro a u hr hu
    obtain ⟨b, k₁, hk₁, hb, hr₁⟩ := hn _ _ _ hr (by omega)
    obtain ⟨k₂, t, rfl, ht, hr₂⟩ := hr₁.uncons (by simp only [Mark.at_pc]; omega)
    rcases (mem_next_fork hc).1 ht with rfl | rfl
    · obtain ⟨c, k₃, hk₃, ⟨j, hj⟩, hr₃⟩ := ih k₂ (by omega) b u hr₂ hu
      exact ⟨c, k₃, by omega, ⟨j + 1, b, hb, hj⟩, hr₃⟩
    · exact ⟨b, k₂, by omega, ⟨0, b, hb, rfl⟩, hr₂⟩

/-- A node again and again. -/
theorem repeated_exits {n : Node} {min : Nat} {max : Option Nat} {greedy : Bool} {pc : Nat}
    (hn : ∀ pc, CodeAt program pc (n.code pc) → Exits program text pc (pc + n.size) (n.Takes text))
    (hc : CodeAt program pc ((repeated min max greedy n).code pc)) :
    Exits program text pc (pc + (repeated min max greedy n).size) ((repeated min max greedy n).Takes text) := by
  intro k a u hr hu
  match min, max with
  | 0, none =>
    simp only [size] at hu ⊢
    obtain ⟨_, hbody, _⟩ := codeAt_star hc
    obtain ⟨b, k', hk', ⟨j, hj⟩, hr'⟩ := star_exits (hn _ hbody) hc k a u hr (by omega)
    exact ⟨b, k', hk', ⟨j, Nat.zero_le _, by simp, hj⟩, hr'⟩
  | min + 1, none =>
    simp only [size] at hu ⊢
    have hstop : pc + ((min + 1) * n.size + 1) = pc + min * n.size + n.size + 1 := by rw [Nat.add_mul]; omega
    obtain ⟨hcopies, hbody, hfork⟩ := codeAt_atLeast hc
    have hfirst := copies_exits (length_code n) hn min pc hcopies
    have hlast := plus_exits (hn _ hbody) hfork
    obtain ⟨b, k', hk', ⟨c, hc₁, j, hj⟩, hr'⟩ := hfirst.trans hlast (by omega) k a u hr (by omega)
    exact ⟨b, k', hk', ⟨min + (j + 1), by omega, by simp, hc₁.add hj⟩, by rwa [hstop]⟩
  | min, some max =>
    simp only [size] at hu ⊢
    obtain ⟨hcopies, hoptional⟩ := codeAt_between hc
    have hfirst := copies_exits (length_code n) hn min pc hcopies
    have hrest := optional_exits hn (max - min) (pc + min * n.size) rfl hoptional
    obtain ⟨b, k', hk', ⟨c, hc₁, j, hj, hjb⟩, hr'⟩ := hfirst.trans hrest (by omega) k a u hr (by omega)
    refine ⟨b, k', hk', ⟨min + j, by omega, fun top htop => ?_, hc₁.add hjb⟩, by rwa [← Nat.add_assoc]⟩
    cases htop
    omega

/-- Every run through the code of a node leaves it at its end, after the node took something. -/
theorem code_exits (n : Node) (pc : Nat) (hc : CodeAt program pc (n.code pc)) :
    Exits program text pc (pc + n.size) (n.Takes text) := by
  induction n generalizing pc with
  | empty => exact fun k a u hr _ => ⟨a, k, Nat.le_refl _, rfl, hr⟩
  | set s =>
    intro k a u hr hu
    simp only [size] at hu
    obtain ⟨k', t, rfl, ht, hr'⟩ := hr.uncons (by simp only [Mark.at_pc]; omega)
    obtain ⟨hs, rfl⟩ := (mem_next_set hc.head).1 ht
    exact ⟨_, k', by omega, ⟨hs, rfl⟩, hr'⟩
  | look l =>
    intro k a u hr hu
    simp only [size] at hu
    obtain ⟨k', t, rfl, ht, hr'⟩ := hr.uncons (by simp only [Mark.at_pc]; omega)
    obtain ⟨hl, rfl⟩ := (mem_next_look hc.head).1 ht
    exact ⟨_, k', by omega, ⟨hl, rfl⟩, hr'⟩
  | seq m n ihm ihn =>
    obtain ⟨hm, hn⟩ := codeAt_seq hc
    have h := (ihm pc hm).trans (ihn _ hn) (by omega)
    rwa [show pc + m.size + n.size = pc + (seq m n).size by simp only [size]; omega] at h
  | alt m n ihm ihn =>
    obtain ⟨hsplit, hm, hjump, hn⟩ := codeAt_alt hc
    intro k a u hr hu
    simp only [size] at hu ⊢
    obtain ⟨k₁, t, rfl, ht, hr₁⟩ := hr.uncons (by simp only [Mark.at_pc]; omega)
    rcases (mem_next_split hsplit).1 ht with rfl | rfl
    · obtain ⟨b, k₂, hk₂, hb, hr₂⟩ := ihm _ hm _ _ _ hr₁ (by omega)
      obtain ⟨k₃, t, rfl, ht, hr₃⟩ := hr₂.uncons (by simp only [Mark.at_pc]; omega)
      rw [mem_next_jump hjump] at ht
      subst ht
      exact ⟨b, k₃, by omega, .inl hb, by rwa [show pc + (m.size + n.size + 2) = pc + m.size + n.size + 2 by omega]⟩
    · obtain ⟨b, k₂, hk₂, hb, hr₂⟩ := ihn _ hn _ _ _ hr₁ (by omega)
      exact ⟨b, k₂, by omega, .inr hb, by rwa [show pc + (m.size + n.size + 2) = pc + m.size + 2 + n.size by omega]⟩
  | capture i n ih =>
    obtain ⟨hopen, hn, hclose⟩ := codeAt_capture hc
    intro k a u hr hu
    simp only [size] at hu ⊢
    obtain ⟨k₁, t, rfl, ht, hr₁⟩ := hr.uncons (by simp only [Mark.at_pc]; omega)
    rw [mem_next_save hopen] at ht
    subst ht
    obtain ⟨b, k₂, hk₂, hb, hr₂⟩ := ih _ hn _ _ _ hr₁ (by omega)
    obtain ⟨k₃, t, rfl, ht, hr₃⟩ := hr₂.uncons (by simp only [Mark.at_pc]; omega)
    rw [mem_next_save hclose] at ht
    subst ht
    exact ⟨_, k₃, by omega, ⟨b, hb, rfl⟩, by rwa [show pc + (n.size + 2) = pc + 1 + n.size + 1 by omega]⟩
  | repeated min max greedy n ih => exact repeated_exits ih hc

/-! ## Runs through code -/

/-- Copies of a block, one after another. -/
theorem copies_enters {block : Nat → List Inst} {width : Nat} {R : Mark → Mark → Prop}
    (hlen : ∀ pc, (block pc).length = width)
    (hblock : ∀ pc, CodeAt program pc (block pc) → ∀ {a b}, R a b → Reaches program text (a.at pc) (b.at (pc + width)))
    (n pc : Nat) (hc : CodeAt program pc (copies block width n pc)) {a b : Mark} (h : Times R n a b) :
    Reaches program text (a.at pc) (b.at (pc + n * width)) := by
  induction n generalizing pc a with
  | zero =>
    cases h
    simpa using Reaches.refl _
  | succ n ih =>
    obtain ⟨c, hc₁, hrest⟩ := h
    have := ih (pc + width) (by simpa [hlen] using hc.right) hrest
    rw [show pc + (n + 1) * width = pc + width + n * width by rw [Nat.add_mul]; omega]
    exact (hblock pc hc.left hc₁).trans this

/-- Optional copies of a node. -/
theorem optional_enters {n : Node} {greedy : Bool} {out : Nat}
    (hn : ∀ pc, CodeAt program pc (n.code pc) → ∀ {a b}, n.Takes text a b →
      Reaches program text (a.at pc) (b.at (pc + n.size))) (m pc : Nat) (hout : out = pc + m * (n.size + 1))
    (hc : CodeAt program pc (copies (fun pc => .fork greedy (pc + 1) out :: n.code (pc + 1)) (n.size + 1) m pc))
    {k : Nat} (hk : k ≤ m) {a b : Mark} (h : Times (n.Takes text) k a b) :
    Reaches program text (a.at pc) (b.at out) := by
  induction m generalizing pc k a with
  | zero =>
    obtain rfl : k = 0 := by omega
    cases h
    simpa [hout] using Reaches.refl _
  | succ m ih =>
    cases k with
    | zero =>
      cases h
      exact (Reaches.refl _).head ((mem_next_fork hc.left.head).2 (.inr rfl))
    | succ k =>
      obtain ⟨c, hc₁, hrest⟩ := h
      have hc' := hc.right
      simp only [List.length_cons, length_code] at hc'
      have h₁ := hn _ hc.left.tail hc₁
      have h₂ := ih (pc + (n.size + 1)) (by rw [hout, Nat.add_mul]; omega) hc' (by omega) hrest
      rw [show pc + (n.size + 1) = pc + 1 + n.size by omega] at h₂
      exact (h₁.trans h₂).head ((mem_next_fork hc.left.head).2 (.inl rfl))

/-- A loop that is tested at its start. -/
theorem star_enters {n : Node} {greedy : Bool} {pc : Nat}
    (hn : ∀ {a b}, n.Takes text a b → Reaches program text (a.at (pc + 1)) (b.at (pc + 1 + n.size)))
    (hc : CodeAt program pc ((repeated 0 none greedy n).code pc)) {k : Nat} {a b : Mark}
    (h : Times (n.Takes text) k a b) : Reaches program text (a.at pc) (b.at (pc + n.size + 2)) := by
  obtain ⟨hfirst, _, hlast⟩ := codeAt_star hc
  -- from the start and from the last instruction at once
  have hmain : ∀ k (a : Mark), Times (n.Takes text) k a b → Reaches program text (a.at pc) (b.at (pc + n.size + 2)) ∧
      Reaches program text (a.at (pc + 1 + n.size)) (b.at (pc + n.size + 2)) := by
    intro k
    induction k with
    | zero =>
      rintro a rfl
      have h₁ : Reaches program text (b.at pc) (b.at (pc + n.size + 2)) :=
        (Reaches.refl _).head ((mem_next_fork hfirst).2 (.inr rfl))
      refine ⟨h₁, ?_⟩
      rcases hlast with hlast | hlast
      · exact h₁.head ((mem_next_jump hlast).2 rfl)
      · exact (Reaches.refl _).head ((mem_next_fork hlast).2 (.inr rfl))
    | succ k ih =>
      rintro a ⟨c, hc₁, hrest⟩
      have h₁ := (hn hc₁).trans (ih c hrest).2
      have h₂ := h₁.head ((mem_next_fork hfirst).2 (.inl rfl))
      refine ⟨h₂, ?_⟩
      rcases hlast with hlast | hlast
      · exact h₂.head ((mem_next_jump hlast).2 rfl)
      · exact h₁.head ((mem_next_fork hlast).2 (.inl rfl))
  exact (hmain k a h).1

/-- A loop that is tested at its end. -/
theorem plus_enters {n : Node} {greedy : Bool} {pc : Nat}
    (hn : ∀ {a b}, n.Takes text a b → Reaches program text (a.at pc) (b.at (pc + n.size)))
    (hc : program[pc + n.size]? = some (.fork greedy pc (pc + n.size + 1))) {k : Nat} {a b : Mark}
    (h : Times (n.Takes text) (k + 1) a b) : Reaches program text (a.at pc) (b.at (pc + n.size + 1)) := by
  induction k generalizing a with
  | zero =>
    obtain ⟨c, hc₁, rfl⟩ := h
    exact (hn hc₁).trans ((Reaches.refl _).head ((mem_next_fork hc).2 (.inr rfl)))
  | succ k ih =>
    obtain ⟨c, hc₁, hrest⟩ := h
    exact (hn hc₁).trans ((ih hrest).head ((mem_next_fork hc).2 (.inl rfl)))

/-- A node again and again. -/
theorem repeated_enters {n : Node} {min : Nat} {max : Option Nat} {greedy : Bool} {pc : Nat}
    (hn : ∀ pc, CodeAt program pc (n.code pc) → ∀ {a b}, n.Takes text a b →
      Reaches program text (a.at pc) (b.at (pc + n.size)))
    (hc : CodeAt program pc ((repeated min max greedy n).code pc)) {a b : Mark}
    (h : (repeated min max greedy n).Takes text a b) :
    Reaches program text (a.at pc) (b.at (pc + (repeated min max greedy n).size)) := by
  obtain ⟨k, hmin, hmax, hk⟩ := h
  match min, max with
  | 0, none =>
    obtain ⟨_, hbody, _⟩ := codeAt_star hc
    exact star_enters (hn _ hbody) hc hk
  | min + 1, none =>
    obtain ⟨hcopies, hbody, hfork⟩ := codeAt_atLeast hc
    obtain ⟨j, rfl⟩ := Nat.exists_eq_add_of_le hmin
    rw [show min + 1 + j = min + (j + 1) by omega] at hk
    obtain ⟨c, h₁, h₂⟩ := hk.split
    have hstop : pc + ((min + 1) * n.size + 1) = pc + min * n.size + n.size + 1 := by rw [Nat.add_mul]; omega
    simp only [size]
    rw [hstop]
    exact (copies_enters (length_code n) hn min pc hcopies h₁).trans (plus_enters (hn _ hbody) hfork h₂)
  | min, some max =>
    obtain ⟨hcopies, hoptional⟩ := codeAt_between hc
    have hle := hmax max rfl
    obtain ⟨j, rfl⟩ := Nat.exists_eq_add_of_le hmin
    obtain ⟨c, h₁, h₂⟩ := hk.split
    have h₃ := copies_enters (length_code n) hn min pc hcopies h₁
    have h₄ := optional_enters hn (max - min) (pc + min * n.size) rfl hoptional (by omega) h₂
    simp only [size]
    rw [← Nat.add_assoc]
    exact h₃.trans h₄

/-- Whatever a node takes, some run through its code takes it. -/
theorem code_enters (n : Node) (pc : Nat) (hc : CodeAt program pc (n.code pc)) {a b : Mark} (h : n.Takes text a b) :
    Reaches program text (a.at pc) (b.at (pc + n.size)) := by
  induction n generalizing pc a b with
  | empty =>
    cases h
    exact .refl _
  | set s =>
    obtain ⟨hs, rfl⟩ := h
    exact (Reaches.refl _).head ((mem_next_set hc.head).2 ⟨hs, rfl⟩)
  | look l =>
    obtain ⟨hl, rfl⟩ := h
    exact (Reaches.refl _).head ((mem_next_look hc.head).2 ⟨hl, rfl⟩)
  | seq m n ihm ihn =>
    obtain ⟨hm, hn⟩ := codeAt_seq hc
    obtain ⟨c, h₁, h₂⟩ := h
    have := (ihm pc hm h₁).trans (ihn _ hn h₂)
    rwa [show pc + m.size + n.size = pc + (seq m n).size by simp only [size]; omega] at this
  | alt m n ihm ihn =>
    obtain ⟨hsplit, hm, hjump, hn⟩ := codeAt_alt hc
    simp only [size]
    rcases h with h | h
    · have h₁ : Reaches program text (b.at (pc + 1 + m.size)) (b.at (pc + m.size + n.size + 2)) :=
        (Reaches.refl _).head ((mem_next_jump hjump).2 rfl)
      rw [show pc + (m.size + n.size + 2) = pc + m.size + n.size + 2 by omega]
      exact ((ihm _ hm h).trans h₁).head ((mem_next_split hsplit).2 (.inl rfl))
    · rw [show pc + (m.size + n.size + 2) = pc + m.size + 2 + n.size by omega]
      exact (ihn _ hn h).head ((mem_next_split hsplit).2 (.inr rfl))
  | capture i n ih =>
    obtain ⟨hopen, hn, hclose⟩ := codeAt_capture hc
    obtain ⟨c, hc₁, rfl⟩ := h
    have h₁ : Reaches program text (c.at (pc + 1 + n.size)) _ :=
      (Reaches.refl _).head ((mem_next_save hclose).2 rfl)
    simp only [size]
    rw [show pc + (n.size + 2) = pc + 1 + n.size + 1 by omega]
    exact ((ih _ hn hc₁).trans h₁).head ((mem_next_save hopen).2 rfl)
  | repeated min max greedy n ih => exact repeated_enters ih hc h

/-! ## Whole programs -/

theorem codeAt_program (n : Node) : CodeAt n.program 0 (n.code 0) := by
  intro i hi
  simp [program, List.getElem?_append_left hi]

theorem accept_not_mem_copies {block : Nat → List Inst} {width : Nat} (h : ∀ pc, Inst.accept ∉ block pc) (n pc : Nat) :
    Inst.accept ∉ copies block width n pc := by
  induction n generalizing pc with
  | zero => simp [copies]
  | succ n ih => simp [copies, h, ih]

theorem accept_ne_fork (greedy : Bool) (on out : Nat) : Inst.accept ≠ .fork greedy on out := by
  cases greedy <;> simp [Inst.fork]

theorem accept_not_mem_repeated {n : Node} (h : ∀ pc, Inst.accept ∉ n.code pc) (min : Nat) (max : Option Nat)
    (greedy : Bool) (pc : Nat) : Inst.accept ∉ (repeated min max greedy n).code pc := by
  cases max with
  | none =>
    cases min with
    | zero =>
      simp only [code, List.mem_cons, List.mem_append, h, List.not_mem_nil, accept_ne_fork, false_or, or_false]
      split
      · simp
      · exact accept_ne_fork _ _ _
    | succ min => simp [code, accept_not_mem_copies h, accept_ne_fork]
  | some max =>
    have hoptional (out m start : Nat) : Inst.accept ∉
        copies (fun pc' => Inst.fork greedy (pc' + 1) out :: n.code (pc' + 1)) (n.size + 1) m start :=
      accept_not_mem_copies (by simp [h, accept_ne_fork]) m start
    simp [code, accept_not_mem_copies h, hoptional]

/-- The code of a node does not accept by itself. -/
theorem accept_not_mem_code (n : Node) (pc : Nat) : Inst.accept ∉ n.code pc := by
  induction n generalizing pc with
  | empty | set _ | look _ => simp [code]
  | seq m n ihm ihn | alt m n ihm ihn => simp [code, ihm, ihn]
  | capture i n ih => simp [code, ih]
  | repeated min max greedy n ih => exact accept_not_mem_repeated ih min max greedy pc

/-- The program of a node accepts at its end only. -/
theorem program_accept_iff (n : Node) (pc : Nat) : n.program[pc]? = some .accept ↔ pc = n.size := by
  simp only [program, List.getElem?_toArray]
  constructor
  · intro h
    rcases Nat.lt_trichotomy pc n.size with hlt | heq | hgt
    · rw [List.getElem?_append_left (by rwa [length_code])] at h
      exact absurd (List.mem_of_getElem? h) (accept_not_mem_code n 0)
    · exact heq
    · rw [List.getElem?_eq_none (by simp [length_code]; omega)] at h
      cases h
  · rintro rfl
    rw [List.getElem?_append_right (by rw [length_code])]
    simp [length_code]

theorem accepts_iff (program : Array Inst) (t : Thread) :
    t.accepts program = true ↔ program[t.pc]? = some .accept := by
  unfold Thread.accepts
  cases program[t.pc]? with
  | none => simp
  | some i => cases i <;> simp <;> rfl

/-- A run of the program of a node accepts exactly when the node takes what lies between. -/
theorem reaches_iff (n : Node) (start : Nat) (t : Thread) :
    (Reaches n.program text ⟨0, start, []⟩ t ∧ t.accepts n.program = true) ↔
      t.pc = n.size ∧ n.Takes text (start, []) (t.pos, t.slots) := by
  rw [accepts_iff, program_accept_iff]
  constructor
  · rintro ⟨⟨k, hk⟩, hpc⟩
    obtain ⟨b, k', _, hb, hr⟩ := code_exits n 0 (codeAt_program n) k (start, []) t hk (by omega)
    rw [Nat.zero_add] at hr
    cases hr with
    | done => exact ⟨rfl, hb⟩
    | step hn _ =>
      have haccept := (program_accept_iff n n.size).2 rfl
      simp [Thread.next, Mark.at, haccept] at hn
  · rintro ⟨hpc, ht⟩
    have h := code_enters n 0 (codeAt_program n) ht
    rw [Nat.zero_add, ← hpc] at h
    exact ⟨h, hpc⟩

/-- A start accepts exactly when the node takes something from there. -/
theorem accepting_iff (n : Node) (start : Nat) :
    Accepting n.program text start ↔ ∃ b, n.Takes text (start, []) b := by
  constructor
  · rintro ⟨t, ht⟩
    exact ⟨_, ((reaches_iff n start t).1 ht).2⟩
  · rintro ⟨b, hb⟩
    exact ⟨b.at n.size, (reaches_iff n start (b.at n.size)).2 ⟨rfl, hb⟩⟩

end Node

/-! ## Matches of patterns -/

/-- The first match lies where the node first takes something, and its groups are what the node noted. -/
theorem find?_eq_some {p : Pattern} {start : Nat} {m : Span} (h : p.find? text start = some m) :
    start ≤ m.start ∧ (∃ notes, p.node.Takes text (m.start, []) (m.stop, notes) ∧
      m.groups = (List.range p.groups).map fun i => groupAt notes (i + 1)) ∧
        ∀ i, start ≤ i → i < m.start → ∀ b, ¬p.node.Takes text (i, []) b := by
  rw [find?, p.program_eq] at h
  obtain ⟨h₁, _, ⟨t, ht⟩, hfirst⟩ := search_eq_some h
  have htakes := (Node.reaches_iff p.node m.start t).1 ⟨ht.run, ht.accepts⟩
  refine ⟨h₁, ⟨t.slots, ht.stop_eq ▸ htakes.2, ht.groups_eq⟩, fun i hi hlt b hb => ?_⟩
  exact hfirst i hi hlt ((Node.accepting_iff p.node i).2 ⟨b, hb⟩)

/-- There is no match only if the node takes nothing. -/
theorem find?_eq_none {p : Pattern} {start : Nat} (h : p.find? text start = none) (i : Nat) (h₁ : start ≤ i)
    (h₂ : i ≤ text.size) (b : Mark) : ¬p.node.Takes text (i, []) b := by
  rw [find?, p.program_eq] at h
  exact fun hb => search_eq_none h i h₁ h₂ ((Node.accepting_iff p.node i).2 ⟨b, hb⟩)

end Retarget.Pattern
