import Mathlib.Data.List.Chain
import Retarget.Proofs.Templates

/-!
# Canonical templates

What reading gives is in a normal form, and each normal form has a template that is read as just that: dollar signs are
doubled, and groups are numbers in braces.

* `flatMap_pieces_join`, `join_pieces`: pieces and segments in normal form stand for each other,
* `normal_join`: what reading gives is in normal form,
* `scan_written`: a canonical template is read as the pieces of its segments,
* `Scan.group_lt`: only numbers that can be written in braces are read,
* `parse_canonical`: reading and writing templates, there and back.
-/

namespace Retarget

namespace Segment

/-- Is a segment text? -/
def isLiteral : Segment → Bool
  | .literal _ => true
  | .group _ => false

/-- The pieces that a segment is joined from. -/
def pieces : Segment → List Template.Piece
  | .literal text => text.toList.map .char
  | .group g => [.group g]

/-- A segment as a template has it, in the one way that needs no look at what comes next. -/
def written : Segment → List Char
  | .literal text => text.toList.flatMap fun c => if c = '$' then ['$', '$'] else [c]
  | .group g => '$' :: '\x7b' :: (Nat.toDigits 10 g ++ ['\x7d'])

end Segment

namespace Template

/-- Segments as reading gives them: there is text in each literal, no two literals are neighbours, and the groups are
there. -/
structure Normal (count : Nat) (segments : List Segment) : Prop where
  nonempty : .literal "" ∉ segments
  apart : segments.IsChain fun a b => ¬ (a.isLiteral = true ∧ b.isLiteral = true)
  known : ∀ g, .group g ∈ segments → g ≤ count

/-- The canonical template of some segments. -/
def canonical (segments : List Segment) : String := String.ofList (segments.flatMap Segment.written)

variable {count : Nat} {cs rest : List Char} {ps : List Piece} {segments : List Segment}

/-! ## Pieces and segments -/

theorem flatMap_pieces_literalSegment (cs : List Char) :
    (literalSegment cs).flatMap Segment.pieces = cs.map .char := by
  unfold literalSegment
  split
  · next he => simp [List.isEmpty_iff.1 he]
  · simp [Segment.pieces]

/-- Joining pieces loses none of them. -/
theorem flatMap_pieces_join (run : List Char) (ps : List Piece) :
    (join run ps).flatMap Segment.pieces = run.reverse.map .char ++ ps := by
  fun_induction join run ps with
  | case1 run => simp [flatMap_pieces_literalSegment]
  | case2 run c rest ih => simpa using ih
  | case3 run g rest ih =>
    rw [List.flatMap_append, flatMap_pieces_literalSegment, List.flatMap_cons, ih]
    simp [Segment.pieces]

theorem join_inj {ps qs : List Piece} : join [] ps = join [] qs ↔ ps = qs := by
  constructor
  · intro h
    have hpieces := congrArg (List.flatMap Segment.pieces) h
    simpa [flatMap_pieces_join] using hpieces
  · rintro rfl
    rfl

theorem join_chars (run cs : List Char) (ps : List Piece) :
    join run (cs.map .char ++ ps) = join (cs.reverse ++ run) ps := by
  induction cs generalizing run with
  | nil => rfl
  | cons c cs ih =>
    rw [List.map_cons, List.cons_append, join, ih]
    simp

theorem join_group (run : List Char) (g : Nat) (ps : List Piece) :
    join run (.group g :: ps) = literalSegment run.reverse ++ join [] (.group g :: ps) := rfl

theorem literalSegment_toList {text : String} (h : text ≠ "") : literalSegment text.toList = [.literal text] := by
  simp [literalSegment, h]

theorem Normal.tail {s : Segment} (h : Normal count (s :: segments)) : Normal count segments where
  nonempty hmem := h.nonempty (List.mem_cons_of_mem _ hmem)
  apart := h.apart.tail
  known g hmem := h.known g (List.mem_cons_of_mem _ hmem)

/-- Segments in normal form are what is joined from their pieces. -/
theorem join_pieces (h : Normal count segments) : join [] (segments.flatMap Segment.pieces) = segments := by
  induction segments with
  | nil => rfl
  | cons s segments ih =>
    have hjoin := ih h.tail
    cases s with
    | group g =>
      show .group g :: join [] (segments.flatMap Segment.pieces) = _
      rw [hjoin]
    | literal text =>
      have htext : text ≠ "" := by
        rintro rfl
        exact h.nonempty List.mem_cons_self
      rw [List.flatMap_cons]
      show join [] (text.toList.map .char ++ _) = _
      rw [join_chars, List.append_nil]
      -- After the literal there is nothing, or else a group, where it ends.
      cases segments with
      | nil => simp [join, literalSegment_toList htext]
      | cons s' segments =>
        cases s' with
        | literal text' => exact absurd ⟨rfl, rfl⟩ (List.isChain_cons_cons.1 h.apart).1
        | group g =>
          show join _ (.group g :: segments.flatMap Segment.pieces) = _
          rw [join_group, List.reverse_reverse, literalSegment_toList htext]
          exact congrArg (.literal text :: ·) hjoin

/-! ## What reading gives -/

theorem Normal.nil (count : Nat) : Normal count [] := ⟨by simp, .nil, by simp⟩

theorem Normal.group {g : Nat} (h : Normal count segments) (hg : g ≤ count) : Normal count (.group g :: segments) where
  nonempty hmem := h.nonempty (by simpa using hmem)
  apart := List.isChain_cons.2 ⟨fun s _ hs => (by cases hs.1), h.apart⟩
  known g' hmem := by
    rcases List.mem_cons.1 hmem with he | hmem
    · cases he
      exact hg
    · exact h.known g' hmem

theorem Normal.literalSegment (h : Normal count segments)
    (hhead : ∀ s ∈ segments.head?, s.isLiteral = false) (cs : List Char) :
    Normal count (literalSegment cs ++ segments) := by
  unfold Template.literalSegment
  split
  · exact h
  · next hne =>
    have htext : String.ofList cs ≠ "" := by simpa using hne
    refine ⟨?_, List.isChain_cons.2 ⟨fun s hs hboth => ?_, h.apart⟩, fun g hmem => h.known g (by simpa using hmem)⟩
    · intro hmem
      rcases List.mem_cons.1 hmem with he | hmem
      · injection he with he
        exact htext he.symm
      · exact h.nonempty hmem
    · cases (hhead s hs).symm.trans hboth.2

/-- What is joined from pieces is in normal form. -/
theorem normal_join (run : List Char) (h : Known count ps) : Normal count (join run ps) := by
  fun_induction join run ps with
  | case1 run => simpa using (Normal.nil count).literalSegment (by simp) run.reverse
  | case2 run c rest ih => exact ih (known_cons.1 h).2
  | case3 run g rest ih =>
    have hg : g ≤ count := h g List.mem_cons_self
    exact ((ih (known_cons.1 h).2).group hg).literalSegment (by simp [Segment.isLiteral]) _

/-! ## What is written -/

theorem Scan.append {next : List Char} {qs : List Piece} (h : Scan count cs ps next) (h' : Scan count next qs rest) :
    Scan count cs (ps ++ qs) rest := by
  induction h with
  | done => exact h'
  | step h _ ih => exact .step h (ih h')

/-- A segment is read as it was written, whatever comes after it. -/
theorem scan_segment (s : Segment) (rest : List Char) (h : ∀ g, s = .group g → g < Nat.pow 2 64) :
    Scan count (s.written ++ rest) s.pieces rest := by
  cases s with
  | group g =>
    have hnumber : Nat.ofDigitChars 10 (Nat.toDigits 10 g) 0 = g := Nat.ofDigitChars_ten_toDigits
    have hlt : Nat.ofDigitChars 10 (Nat.toDigits 10 g) 0 < Nat.pow 2 64 := by
      rw [hnumber]
      exact h g rfl
    have hread : Reference count ('\x7b' :: (Nat.toDigits 10 g ++ '\x7d' :: rest)) _ rest :=
      .braced Nat.toDigits_ne_nil (fun d hd => Nat.isDigit_of_mem_toDigits (by omega) (by omega) hd) hlt
    rw [hnumber] at hread
    refine .step (.reference ?_) (.done rest)
    simpa using hread
  | literal text =>
    show Scan count (text.toList.flatMap _ ++ rest) (text.toList.map .char) rest
    induction text.toList with
    | nil => exact .done rest
    | cons c cs ih =>
      rw [List.flatMap_cons, List.append_assoc, List.map_cons]
      by_cases hc : c = '$'
      · subst hc
        exact .step (.reference .dollar) ih
      · rw [if_neg hc]
        exact .step (.text hc) ih

theorem scan_written (segments : List Segment) (h : ∀ g, .group g ∈ segments → g < Nat.pow 2 64) :
    Scan count (segments.flatMap Segment.written) (segments.flatMap Segment.pieces) [] := by
  induction segments with
  | nil => exact .done []
  | cons s segments ih =>
    rw [List.flatMap_cons, List.flatMap_cons]
    refine (scan_segment s _ ?_).append (ih fun g hg => h g (List.mem_cons_of_mem _ hg))
    rintro g rfl
    exact h g List.mem_cons_self

/-! ## Numbers -/

/-- A group that is read can be written in braces. -/
theorem Reads.group_lt {g : Nat} (h : Reads count cs (.group g) rest) : g < Nat.pow 2 64 := by
  have hlimit : 99 < Nat.pow 2 64 := by decide
  cases h with
  | reference h =>
    generalize hp : Piece.group g = p at h
    cases h with
    | dollar => cases hp
    | whole =>
      cases hp
      omega
    | braced _ _ hlt =>
      cases hp
      exact hlt
    | @two d e _ hd he _ =>
      cases hp
      have := first_iff.1 hd
      have := isDigit_iff.1 he
      rw [ofDigitChars_two]
      omega
    | @one d _ hd _ =>
      cases hp
      have := first_iff.1 hd
      rw [ofDigitChars_one]
      omega

theorem Scan.group_lt {g : Nat} (h : Scan count cs ps rest) (hg : .group g ∈ ps) : g < Nat.pow 2 64 := by
  induction h with
  | done => cases hg
  | step h _ ih =>
    rcases List.mem_cons.1 hg with rfl | hg
    · exact h.group_lt
    · exact ih hg

/-! ## There and back -/

theorem mem_join_group {g : Nat} (h : .group g ∈ join [] ps) : .group g ∈ ps := by
  have hmem : Piece.group g ∈ (join [] ps).flatMap Segment.pieces :=
    List.mem_flatMap.2 ⟨_, h, List.mem_singleton_self _⟩
  simpa [flatMap_pieces_join] using hmem

theorem known_pieces (h : ∀ g, .group g ∈ segments → g ≤ count) : Known count (segments.flatMap Segment.pieces) := by
  intro g hg
  obtain ⟨s, hs, hpiece⟩ := List.mem_flatMap.1 hg
  cases s with
  | literal text => simp [Segment.pieces] at hpiece
  | group g' =>
    cases List.mem_singleton.1 hpiece
    exact h g hs

theorem parse_written (h : ∀ g, .group g ∈ segments → g ≤ count ∧ g < Nat.pow 2 64) :
    parse (canonical segments) count =
      .ok ⟨canonical segments, join [] (segments.flatMap Segment.pieces)⟩ := by
  apply parse_of_scan
  · rw [canonical, String.toList_ofList]
    exact scan_written segments fun g hg => (h g hg).2
  · exact known_pieces fun g hg => (h g hg).1

/-- What is read is in normal form, and each normal form whose groups can be written is read from its canonical
template, so that of all that is read too. Any text is what some template stands for. -/
theorem parse_canonical (count : Nat) :
    (∀ source t, parse source count = .ok t →
      Normal count t.segments ∧ parse (canonical t.segments) count = .ok ⟨canonical t.segments, t.segments⟩) ∧
    (∀ segments, Normal count segments → (∀ g, .group g ∈ segments → g < Nat.pow 2 64) →
      parse (canonical segments) count = .ok ⟨canonical segments, segments⟩) ∧
    ∀ text, ∃ t, parse (canonical [.literal text]) count = .ok t ∧ ∀ groups, t.expand groups = text := by
  have hback : ∀ segments, Normal count segments → (∀ g, .group g ∈ segments → g < Nat.pow 2 64) →
      parse (canonical segments) count = .ok ⟨canonical segments, segments⟩ := by
    intro segments h hlt
    rw [parse_written fun g hg => ⟨h.known g hg, hlt g hg⟩, join_pieces h]
  refine ⟨?_, hback, ?_⟩
  · intro source t h
    obtain ⟨ps, hscan, hknown, rfl⟩ := exists_scan_of_parse h
    have hnormal := normal_join [] hknown
    exact ⟨hnormal, hback _ hnormal fun g hg => hscan.group_lt (mem_join_group hg)⟩
  · intro text
    refine ⟨_, parse_written (by simp), fun groups => ?_⟩
    rw [← String.toList_inj, expand_of_pieces rfl]
    simp [Segment.pieces, List.flatMap_map, Piece.text]

/-- Literals that end in a dollar sign, or look like the beginning of a reference, next to groups. -/
theorem parse_canonical_dollars :
    Normal 12 [.literal "$1\x7b", .group 12, .literal "2$", .group 0] ∧
      parse "$$1\x7b$\x7b12\x7d2$$$\x7b0\x7d" 12 = .ok ⟨"$$1\x7b$\x7b12\x7d2$$$\x7b0\x7d",
        [.literal "$1\x7b", .group 12, .literal "2$", .group 0]⟩ := by
  have hnormal : Normal 12 [.literal "$1\x7b", .group 12, .literal "2$", .group 0] :=
    ⟨by simp, by decide, by simp⟩
  have hcanonical : canonical [.literal "$1\x7b", .group 12, .literal "2$", .group 0] =
      "$$1\x7b$\x7b12\x7d2$$$\x7b0\x7d" := rfl
  refine ⟨hnormal, ?_⟩
  rw [← hcanonical]
  exact (parse_canonical 12).2.1 _ hnormal (by simp)

end Template

end Retarget
