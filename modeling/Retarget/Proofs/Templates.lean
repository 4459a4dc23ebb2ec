import Mathlib.Data.List.Basic
import Retarget.Template

/-!
# What templates mean

A template is read from left to right, one character or reference at a time. What may be read is said by rules
(`Reference`, `Reads`, `Scan`), apart from how it is read.

* `expand_of_pieces`: the text of a template, piece by piece,
* `reference?_eq_some_iff`, `Reads.pieces_eq`: the reader takes one step as the rules say,
* `Reads.unique`, `Scan.total`, `Scan.unique`: there is one way to read a template, and it goes on to the end,
* `Scan.pieces_cases`: what the reader makes of a whole template,
* `parse_substitutes`: a template stands for what replacing its references from left to right gives.
-/

namespace Retarget.Template

/-! ## The text of pieces -/

/-- The text of a segment. -/
def segmentText (groups : Nat → Option String) : Segment → List Char
  | .literal text => text.toList
  | .group index => ((groups index).getD "").toList

theorem toList_expand (t : Template) (groups : Nat → Option String) :
    (t.expand groups).toList = t.segments.flatMap (segmentText groups) := by
  rw [expand, String.toList_join, List.flatMap_map]
  congr 1
  funext s
  cases s <;> rfl

theorem flatMap_literalSegment (groups : Nat → Option String) (cs : List Char) :
    (literalSegment cs).flatMap (segmentText groups) = cs := by
  unfold literalSegment
  split
  · next he => simpa using (List.isEmpty_iff.1 he).symm
  · simp [segmentText]

/-- The text of one piece of a template. -/
def Piece.text (groups : Nat → Option String) : Piece → List Char
  | .char c => [c]
  | .group index => ((groups index).getD "").toList

theorem flatMap_join (groups : Nat → Option String) (run : List Char) (pieces : List Piece) :
    (join run pieces).flatMap (segmentText groups) = run.reverse ++ pieces.flatMap (Piece.text groups) := by
  fun_induction join run pieces with
  | case1 run => simp [flatMap_literalSegment]
  | case2 run c rest ih => simpa [Piece.text] using ih
  | case3 run g rest ih =>
    rw [List.flatMap_append, flatMap_literalSegment, List.flatMap_cons, ih]
    simp [Piece.text, segmentText]

/-- The text of a template is that of its pieces, one after another. -/
theorem expand_of_pieces {t : Template} {pieces : List Piece} (h : t.segments = join [] pieces)
    (groups : Nat → Option String) : (t.expand groups).toList = pieces.flatMap (Piece.text groups) := by
  rw [toList_expand, h, flatMap_join, List.reverse_nil, List.nil_append]

/-! ## The rules -/

/-- What a dollar sign and the characters after it stand for, with what comes after these. -/
inductive Reference (count : Nat) : List Char → Piece → List Char → Prop
  | dollar {rest : List Char} : Reference count ('$' :: rest) (.char '$') rest
  | whole {rest : List Char} : Reference count ('&' :: rest) (.group 0) rest
  | braced {digits rest : List Char} (hne : digits ≠ []) (hdigits : ∀ d ∈ digits, d.isDigit = true)
    (hlt : Nat.ofDigitChars 10 digits 0 < Nat.pow 2 64) :
    Reference count ('\x7b' :: (digits ++ '\x7d' :: rest)) (.group (Nat.ofDigitChars 10 digits 0)) rest
  | two {d e : Char} {rest : List Char} (hd : '1' ≤ d ∧ d ≤ '9') (he : e.isDigit = true)
    (hle : Nat.ofDigitChars 10 [d, e] 0 ≤ count) :
    Reference count (d :: e :: rest) (.group (Nat.ofDigitChars 10 [d, e] 0)) rest
  | one {d : Char} {rest : List Char} (hd : '1' ≤ d ∧ d ≤ '9')
    (halone : ∀ e after, rest = e :: after → e.isDigit = true → count < Nat.ofDigitChars 10 [d, e] 0) :
    Reference count (d :: rest) (.group (Nat.ofDigitChars 10 [d] 0)) rest

/-- The first piece of a template, and what comes after it. A dollar sign that begins no reference stands for itself. -/
inductive Reads (count : Nat) : List Char → Piece → List Char → Prop
  | text {c : Char} {rest : List Char} (hc : c ≠ '$') : Reads count (c :: rest) (.char c) rest
  | reference {cs rest : List Char} {p : Piece} (h : Reference count cs p rest) : Reads count ('$' :: cs) p rest
  | stray {cs : List Char} (h : ∀ p rest, ¬ Reference count cs p rest) : Reads count ('$' :: cs) (.char '$') cs

/-- The pieces of a template from left to right, up to some place, and what comes after it. -/
inductive Scan (count : Nat) : List Char → List Piece → List Char → Prop
  | done (cs : List Char) : Scan count cs [] cs
  | step {cs next rest : List Char} {p : Piece} {ps : List Piece} (h : Reads count cs p next)
    (hrest : Scan count next ps rest) : Scan count cs (p :: ps) rest

variable {count : Nat} {cs next rest rest' : List Char} {p p' : Piece} {ps ps' : List Piece}

/-! ## Digits -/

theorem isDigit_iff {d : Char} : d.isDigit = true ↔ 48 ≤ d.toNat ∧ d.toNat ≤ 57 := by
  simp only [Char.isDigit, Bool.and_eq_true, decide_eq_true_eq]
  exact and_congr UInt32.le_iff_toNat_le UInt32.le_iff_toNat_le

theorem first_iff {d : Char} : ('1' ≤ d ∧ d ≤ '9') ↔ 49 ≤ d.toNat ∧ d.toNat ≤ 57 :=
  and_congr UInt32.le_iff_toNat_le UInt32.le_iff_toNat_le

theorem ofDigitChars_one (d : Char) : Nat.ofDigitChars 10 [d] 0 = d.toNat - 48 := by
  simp [Nat.ofDigitChars]

theorem ofDigitChars_two (d e : Char) :
    Nat.ofDigitChars 10 [d, e] 0 = 10 * (d.toNat - 48) + (e.toNat - 48) := by
  simp [Nat.ofDigitChars]

/-! ## Numbers after a dollar sign -/

theorem close_not_digit {d : Char} (h : d.isDigit = true) : (d == '\x7d') = false := by
  rw [beq_eq_false_iff_ne]
  rintro rfl
  cases h

/-- The digits are added to the number `n` that has been read so far. -/
theorem readBraced_digits {digits : List Char} {n : Option Nat} (hdigits : ∀ d ∈ digits, d.isDigit = true)
    (hsome : digits = [] → n.isSome = true) (hlt : Nat.ofDigitChars 10 digits (n.getD 0) < Nat.pow 2 64) :
    readBraced n (digits ++ '\x7d' :: rest) = some (Nat.ofDigitChars 10 digits (n.getD 0), rest) := by
  induction digits generalizing n with
  | nil =>
    obtain ⟨m, rfl⟩ := Option.isSome_iff_exists.1 (hsome rfl)
    have hm : m < Nat.pow 2 64 := hlt
    simp [readBraced, hm]
  | cons d digits ih =>
    have hd := hdigits d List.mem_cons_self
    rw [Nat.ofDigitChars_cons] at hlt ⊢
    rw [List.cons_append, readBraced, close_not_digit hd, hd]
    exact ih (fun e he => hdigits e (List.mem_cons_of_mem _ he)) (fun _ => rfl) hlt

theorem digits_of_readBraced {n : Option Nat} {g : Nat} (h : readBraced n cs = some (g, rest)) :
    ∃ digits, cs = digits ++ '\x7d' :: rest ∧ (digits = [] → n.isSome = true) ∧ (∀ d ∈ digits, d.isDigit = true) ∧
      g = Nat.ofDigitChars 10 digits (n.getD 0) ∧ g < Nat.pow 2 64 := by
  induction cs generalizing n with
  | nil => cases h
  | cons c cs ih =>
    rw [readBraced] at h
    split at h
    · next hclose =>
      obtain ⟨m, hm, hg⟩ := Option.bind_eq_some_iff.1 h
      split at hg
      · next hlt =>
        cases hg
        exact ⟨[], by simpa using hclose, fun _ => by simp [hm], by simp, by simp [hm], hlt⟩
      · cases hg
    · split at h
      · next hc =>
        obtain ⟨digits, rfl, _, hdigits, hg, hlt⟩ := ih h
        refine ⟨c :: digits, rfl, by simp, ?_, hg, hlt⟩
        simpa [hc] using hdigits
      · cases h

/-- A number in braces is one or more digits and the closing brace. -/
theorem readBraced_eq_some_iff {g : Nat} : readBraced none cs = some (g, rest) ↔
    ∃ digits, digits ≠ [] ∧ (∀ d ∈ digits, d.isDigit = true) ∧ cs = digits ++ '\x7d' :: rest ∧
      g = Nat.ofDigitChars 10 digits 0 ∧ g < Nat.pow 2 64 := by
  constructor
  · intro h
    obtain ⟨digits, hcs, hsome, hdigits, hg, hlt⟩ := digits_of_readBraced h
    refine ⟨digits, ?_, hdigits, hcs, hg, hlt⟩
    intro hnil
    cases hsome hnil
  · rintro ⟨digits, hne, hdigits, rfl, rfl, hlt⟩
    exact readBraced_digits hdigits (fun hnil => absurd hnil hne) hlt

theorem readSecond_eq_some_iff {first g : Nat} : readSecond count first cs = some (g, rest) ↔
    ∃ e, cs = e :: rest ∧ e.isDigit = true ∧ g = 10 * first + (e.toNat - 48) ∧ g ≤ count := by
  cases cs with
  | nil => simp [readSecond]
  | cons e cs =>
    rw [readSecond]
    split
    · next h =>
      simp only [Bool.and_eq_true, decide_eq_true_eq] at h
      constructor
      · rintro ⟨⟩
        exact ⟨e, rfl, h.1, rfl, h.2⟩
      · rintro ⟨_, ⟨⟩, _, rfl, _⟩
        rfl
    · next h =>
      simp only [Bool.and_eq_true, decide_eq_true_eq] at h
      simp only [reduceCtorEq, false_iff]
      rintro ⟨_, ⟨⟩, he, rfl, hle⟩
      exact h ⟨he, hle⟩

/-! ## One step -/

/-- The reference that a dollar sign and the characters after it are, if they are one. -/
def reference? (count : Nat) : List Char → Option (Piece × List Char)
  | [] => none
  | c :: rest =>
    if c = '$' then some (.char '$', rest)
    else if c = '&' then some (.group 0, rest)
    else if c = '\x7b' then (readBraced none rest).map fun (g, after) => (.group g, after)
    else if '1' ≤ c ∧ c ≤ '9' then
      some (((readSecond count (c.toNat - 48) rest).map fun (g, after) => (.group g, after)).getD
        (.group (c.toNat - 48), rest))
    else none

/-- A digit from 1 to 9 is none of the other characters that may follow a dollar sign. -/
theorem first_ne {d : Char} (hd : '1' ≤ d ∧ d ≤ '9') : d ≠ '$' ∧ d ≠ '&' ∧ d ≠ '\x7b' := by
  refine ⟨?_, ?_, ?_⟩ <;>
  · rintro rfl
    revert hd
    decide

theorem reference?_first {d : Char} (hd : '1' ≤ d ∧ d ≤ '9') (rest : List Char) :
    reference? count (d :: rest) = some (((readSecond count (d.toNat - 48) rest).map
      fun (g, after) => (.group g, after)).getD (.group (d.toNat - 48), rest)) := by
  obtain ⟨h₁, h₂, h₃⟩ := first_ne hd
  rw [reference?, if_neg h₁, if_neg h₂, if_neg h₃, if_pos hd]

theorem readSecond_eq_none_iff {first : Nat} : readSecond count first cs = none ↔
    ∀ e after, cs = e :: after → e.isDigit = true → count < 10 * first + (e.toNat - 48) := by
  rw [Option.eq_none_iff_forall_ne_some]
  constructor
  · intro h e after hcs he
    by_contra hle
    exact h (_, after) (readSecond_eq_some_iff.2 ⟨e, hcs, he, rfl, by omega⟩)
  · rintro h ⟨g, after⟩ hsome
    obtain ⟨e, hcs, he, rfl, hle⟩ := readSecond_eq_some_iff.1 hsome
    have := h e after hcs he
    omega

/-- What is computed is what the rules say. -/
theorem reference?_eq_some_iff : reference? count cs = some (p, rest) ↔ Reference count cs p rest := by
  constructor
  · intro h
    cases cs with
    | nil => cases h
    | cons c cs =>
      rw [reference?] at h
      split_ifs at h with hdollar hwhole hopen hfirst
      · subst hdollar
        cases h
        exact .dollar
      · subst hwhole
        cases h
        exact .whole
      · obtain ⟨⟨g, after⟩, hread, he⟩ := Option.map_eq_some_iff.1 h
        cases he
        obtain ⟨digits, hne, hdigits, rfl, rfl, hlt⟩ := readBraced_eq_some_iff.1 hread
        exact hopen ▸ .braced hne hdigits hlt
      · cases hread : readSecond count (c.toNat - 48) cs with
        | none =>
          rw [hread] at h
          cases h
          rw [← ofDigitChars_one]
          refine .one hfirst fun e after hcs he => ?_
          rw [ofDigitChars_two]
          exact readSecond_eq_none_iff.1 hread e after hcs he
        | some ga =>
          rw [hread] at h
          cases h
          obtain ⟨e, rfl, he, hg, hle⟩ := readSecond_eq_some_iff.1 hread
          rw [hg, ← ofDigitChars_two] at hle ⊢
          exact .two hfirst he hle
  · intro h
    cases h with
    | dollar => rfl
    | whole => rfl
    | @braced digits rest hne hdigits hlt =>
      have hread : readBraced none (digits ++ '\x7d' :: rest) = some (Nat.ofDigitChars 10 digits 0, rest) :=
        readBraced_eq_some_iff.2 ⟨digits, hne, hdigits, rfl, rfl, hlt⟩
      simp [reference?, hread]
    | @two d e rest hd he hle =>
      rw [ofDigitChars_two] at hle ⊢
      rw [reference?_first hd, readSecond_eq_some_iff.2 ⟨e, rfl, he, rfl, hle⟩]
      rfl
    | @one d rest hd halone =>
      simp only [ofDigitChars_two] at halone
      rw [reference?_first hd, readSecond_eq_none_iff.2 halone, ofDigitChars_one]
      rfl

/-- A piece, if it refers to no group that the pattern does not have. -/
def confirmed (count : Nat) : Piece → Except UnknownGroup Piece
  | .char c => .ok (.char c)
  | .group g => checked count g

theorem pieces_dollar (count : Nat) (cs : List Char) : pieces count ('$' :: cs) =
    match reference? count cs with
    | some (p, after) => do return (← confirmed count p) :: (← pieces count after)
    | none => do return .char '$' :: (← pieces count cs) := by
  rw [pieces.eq_def]
  split
  · next h => cases h
  · next h =>
    cases h
    rfl
  · next h =>
    cases h
    rfl
  · next c rest hdollar hwhole h =>
    cases h
    rw [reference?, if_neg hdollar, if_neg hwhole]
    by_cases hopen : c = '\x7b'
    · rw [if_pos (by simpa using hopen), if_pos hopen]
      split
      · next h =>
        simp only [h]
        rfl
      · next h =>
        simp only [h]
        rfl
    · rw [if_neg (by simpa using hopen), if_neg hopen]
      by_cases hfirst : '1' ≤ c ∧ c ≤ '9'
      · rw [if_pos hfirst, if_pos hfirst]
        split
        · next g after h =>
          -- The group of two digits has been compared already, so that it is confirmed.
          obtain ⟨_, _, _, _, hle⟩ := readSecond_eq_some_iff.1 h
          simp only [h, Option.map_some, Option.getD_some, confirmed, checked, if_neg (Nat.not_lt.2 hle)]
          rfl
        · next h =>
          simp only [h]
          rfl
      · rw [if_neg hfirst, if_neg hfirst]
  · next c rest _ _ hnone h =>
    cases h
    cases cs with
    | nil => rfl
    | cons c cs => exact (hnone c cs rfl rfl).elim

theorem pieces_text {c : Char} (hc : c ≠ '$') (cs : List Char) :
    pieces count (c :: cs) = do return .char c :: (← pieces count cs) := by
  rw [pieces.eq_def]
  split
  · next h => cases h
  · next h => cases h; exact absurd rfl hc
  · next h => cases h; exact absurd rfl hc
  · next h => cases h; exact absurd rfl hc
  · next h => cases h; rfl

/-- The reader takes one step as the rules say. -/
theorem Reads.pieces_eq (h : Reads count cs p rest) :
    pieces count cs = do return (← confirmed count p) :: (← pieces count rest) := by
  cases h with
  | text hc => exact pieces_text hc _
  | reference h => rw [pieces_dollar, reference?_eq_some_iff.2 h]
  | stray h =>
    have hnone : reference? count rest = none := by
      rw [Option.eq_none_iff_forall_ne_some]
      exact fun pa hpa => h pa.1 pa.2 (reference?_eq_some_iff.1 hpa)
    rw [pieces_dollar, hnone]
    rfl

/-- The first piece of a template can be read in one way only. -/
theorem Reads.unique (h : Reads count cs p rest) (h' : Reads count cs p' rest') : p = p' ∧ rest = rest' := by
  cases h with
  | text hc =>
    cases h' with
    | text => exact ⟨rfl, rfl⟩
    | reference | stray => exact absurd rfl hc
  | reference h =>
    cases h' with
    | text hc => exact absurd rfl hc
    | reference h' =>
      have hsame := (reference?_eq_some_iff.2 h).symm.trans (reference?_eq_some_iff.2 h')
      simpa using hsame
    | stray hnone => exact absurd h (hnone _ _)
  | stray hnone =>
    cases h' with
    | text hc => exact absurd rfl hc
    | reference h' => exact absurd h' (hnone _ _)
    | stray => exact ⟨rfl, rfl⟩

/-- Something can be read of all that is not empty. -/
theorem exists_reads (count : Nat) (c : Char) (cs : List Char) : ∃ p rest, Reads count (c :: cs) p rest := by
  by_cases hc : c = '$'
  · subst hc
    by_cases h : ∃ p rest, Reference count cs p rest
    · obtain ⟨p, rest, h⟩ := h
      exact ⟨p, rest, .reference h⟩
    · exact ⟨_, _, .stray fun p rest hp => h ⟨p, rest, hp⟩⟩
  · exact ⟨_, _, .text hc⟩

theorem Reads.length_lt (h : Reads count cs p rest) : rest.length < cs.length := by
  cases h with
  | text | stray => simp
  | reference h =>
    cases h <;> simp <;> omega

/-! ## The whole template -/

theorem Scan.total (count : Nat) (cs : List Char) : ∃ ps, Scan count cs ps [] := by
  match cs with
  | [] => exact ⟨[], .done []⟩
  | c :: cs =>
    obtain ⟨p, rest, h⟩ := exists_reads count c cs
    obtain ⟨ps, hrest⟩ := Scan.total count rest
    exact ⟨p :: ps, .step h hrest⟩
termination_by cs.length
decreasing_by exact h.length_lt

/-- A template that is read to the end is read by way of every place that the rules lead to. -/
theorem Scan.split (h : Scan count cs ps rest) (h' : Scan count cs ps' []) :
    ∃ tail, ps' = ps ++ tail ∧ Scan count rest tail [] := by
  induction h generalizing ps' with
  | done => exact ⟨ps', rfl, h'⟩
  | step h _ ih =>
    cases h' with
    | done => cases h
    | step h₁ hrest =>
      obtain ⟨rfl, rfl⟩ := h.unique h₁
      obtain ⟨tail, rfl, htail⟩ := ih hrest
      exact ⟨tail, rfl, htail⟩

theorem Scan.of_nil (h : Scan count [] ps rest) : ps = [] := by
  cases h with
  | done => rfl
  | step h => cases h

/-- There is one way only to read a template to its end. -/
theorem Scan.unique (h : Scan count cs ps []) (h' : Scan count cs ps' []) : ps' = ps := by
  obtain ⟨tail, rfl, htail⟩ := h.split h'
  rw [htail.of_nil, List.append_nil]

/-! ## Groups that are there -/

/-- All groups that pieces refer to are there. -/
def Known (count : Nat) (ps : List Piece) : Prop := ∀ g, .group g ∈ ps → g ≤ count

/-- The first group of some pieces that is not there. -/
def FirstUnknown (count : Nat) (ps : List Piece) (g : Nat) : Prop :=
  ∃ before after, ps = before ++ .group g :: after ∧ Known count before ∧ count < g

theorem confirmed_cases (count : Nat) (p : Piece) :
    (confirmed count p = .ok p ∧ Known count [p]) ∨
    ∃ g, p = .group g ∧ count < g ∧ confirmed count p = .error ⟨g, count⟩ := by
  cases p with
  | char c => exact .inl ⟨rfl, by simp [Known]⟩
  | group g =>
    by_cases h : count < g
    · exact .inr ⟨g, rfl, h, by simp [confirmed, checked, h]⟩
    · exact .inl ⟨by simp [confirmed, checked, h], by simpa [Known] using h⟩

theorem known_cons : Known count (p :: ps) ↔ Known count [p] ∧ Known count ps := by
  simp [Known, or_imp, forall_and]

/-- The reader gives the pieces that the rules give if all groups are there, or else names the first that is not. -/
theorem Scan.pieces_cases (h : Scan count cs ps []) :
    (pieces count cs = .ok ps ∧ Known count ps) ∨
    ∃ g, pieces count cs = .error ⟨g, count⟩ ∧ FirstUnknown count ps g := by
  generalize hstop : ([] : List Char) = stop at h
  induction h with
  | done cs =>
    subst hstop
    exact .inl ⟨by rw [pieces], by simp [Known]⟩
  | @step cs next stop p ps h _ ih =>
    rw [h.pieces_eq]
    rcases confirmed_cases count p with ⟨hp, hknown⟩ | ⟨g, rfl, hlt, hp⟩
    · rcases ih hstop with ⟨hrest, hps⟩ | ⟨g, hrest, before, after, rfl, hbefore, hlt⟩
      · refine .inl ⟨?_, known_cons.2 ⟨hknown, hps⟩⟩
        rw [hp, hrest]
        rfl
      · refine .inr ⟨g, ?_, p :: before, after, rfl, known_cons.2 ⟨hknown, hbefore⟩, hlt⟩
        rw [hp, hrest]
        rfl
    · refine .inr ⟨g, ?_, [], ps, rfl, by simp [Known], hlt⟩
      rw [hp]
      rfl

theorem Known.not_firstUnknown (h : Known count ps) (g : Nat) : ¬ FirstUnknown count ps g := by
  rintro ⟨before, after, rfl, _, hlt⟩
  have := h g (by simp)
  omega

/-- The reader gives some pieces exactly if the rules do and all groups are there. -/
theorem pieces_eq_ok_iff : pieces count cs = .ok ps ↔ Scan count cs ps [] ∧ Known count ps := by
  constructor
  · intro h
    obtain ⟨ps', hscan⟩ := Scan.total count cs
    rcases hscan.pieces_cases with ⟨hpieces, hknown⟩ | ⟨g, hpieces, _⟩
    · cases hpieces.symm.trans h
      exact ⟨hscan, hknown⟩
    · cases hpieces.symm.trans h
  · rintro ⟨hscan, hknown⟩
    rcases hscan.pieces_cases with ⟨hpieces, _⟩ | ⟨g, _, hfirst⟩
    · exact hpieces
    · exact absurd hfirst (hknown.not_firstUnknown g)

theorem FirstUnknown.unique {g g' : Nat} (h : FirstUnknown count ps g) (h' : FirstUnknown count ps g') : g = g' := by
  -- Of two places the later one would have the earlier group in front of it.
  have hle : ∀ {before after mid after' : List Piece} {g g' : Nat}, .group g :: after = mid ++ .group g' :: after' →
      Known count (before ++ mid) → count < g → g = g' := by
    intro before after mid after' g g' he hknown hlt
    cases mid with
    | nil =>
      cases he
      rfl
    | cons p mid =>
      cases he
      have := hknown g (by simp)
      omega
  obtain ⟨before, after, rfl, hbefore, hlt⟩ := h
  obtain ⟨before', after', he, hbefore', hlt'⟩ := h'
  rcases List.append_eq_append_iff.1 he with ⟨mid, rfl, hmid⟩ | ⟨mid, rfl, hmid⟩
  · exact hle hmid hbefore' hlt
  · exact (hle hmid hbefore hlt').symm

/-! ## Templates as written -/

theorem parse_eq (source : String) (count : Nat) :
    parse source count = (pieces count source.toList).map fun ps => ⟨source, join [] ps⟩ := by
  rw [parse]
  cases pieces count source.toList <;> rfl

theorem parse_eq_ok_iff {source : String} {t : Template} : parse source count = .ok t ↔
    ∃ ps, pieces count source.toList = .ok ps ∧ t = ⟨source, join [] ps⟩ := by
  rw [parse_eq]
  cases pieces count source.toList with
  | error e => simp [Except.map]
  | ok ps => simp [Except.map, eq_comm]

theorem parse_of_scan {source : String} (h : Scan count source.toList ps []) (hknown : Known count ps) :
    parse source count = .ok ⟨source, join [] ps⟩ :=
  parse_eq_ok_iff.2 ⟨ps, pieces_eq_ok_iff.2 ⟨h, hknown⟩, rfl⟩

theorem exists_scan_of_parse {source : String} {t : Template} (h : parse source count = .ok t) :
    ∃ ps, Scan count source.toList ps [] ∧ Known count ps ∧ t = ⟨source, join [] ps⟩ := by
  obtain ⟨ps, hpieces, ht⟩ := parse_eq_ok_iff.1 h
  obtain ⟨hscan, hknown⟩ := pieces_eq_ok_iff.1 hpieces
  exact ⟨ps, hscan, hknown, ht⟩

/-- Reading a template succeeds exactly if no group that it refers to is missing. It then stands for what replacing its
references from left to right gives; else the first group that is missing is named. -/
theorem parse_substitutes (source : String) (count : Nat) :
    ∃ ps, (∀ other, Scan count source.toList other [] ↔ other = ps) ∧
      ((∃ t, parse source count = .ok t) ↔ Known count ps) ∧
      (∀ t, parse source count = .ok t → t.source = source ∧
        ∀ groups, t.expand groups = String.ofList (ps.flatMap (Piece.text groups))) ∧
      ∀ e, parse source count = .error e ↔ FirstUnknown count ps e.group ∧ e.available = count := by
  obtain ⟨ps, hscan⟩ := Scan.total count source.toList
  refine ⟨ps, fun other => ⟨hscan.unique, fun h => h ▸ hscan⟩, ?_⟩
  rw [parse_eq]
  rcases hscan.pieces_cases with ⟨hpieces, hknown⟩ | ⟨g, hpieces, hfirst⟩
  · rw [hpieces]
    refine ⟨⟨fun _ => hknown, fun _ => ⟨_, rfl⟩⟩, ?_, fun e => ⟨fun h => (by cases h), ?_⟩⟩
    · rintro t ⟨⟩
      refine ⟨rfl, fun groups => ?_⟩
      rw [← String.toList_inj, String.toList_ofList]
      exact expand_of_pieces rfl groups
    · rintro ⟨hfirst, _⟩
      exact absurd hfirst (hknown.not_firstUnknown _)
  · rw [hpieces]
    refine ⟨⟨?_, fun hknown => absurd hfirst (hknown.not_firstUnknown g)⟩, ?_, fun e => ⟨?_, ?_⟩⟩
    · rintro ⟨t, ⟨⟩⟩
    · rintro t ⟨⟩
    · rintro ⟨⟩
      exact ⟨hfirst, rfl⟩
    · rintro ⟨hfirst', rfl⟩
      rw [hfirst.unique hfirst']
      rfl

/-- Braces that hold no number, a group with one digit too many, and a dollar sign at the end. -/
example : (parse "$$$\x7b1$\x7b2\x7d0$12$" 2).map Template.segments =
    .ok [.literal "$$\x7b1", .group 2, .literal "0", .group 1, .literal "2$"] := by decide +kernel

end Retarget.Template
