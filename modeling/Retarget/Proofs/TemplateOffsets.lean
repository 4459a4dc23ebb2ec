import Retarget.Proofs.Slices
import Retarget.Proofs.TemplateForms
import Retarget.Template.Offsets

/-!
# Reading templates by offsets

A reading by offsets looks at single bytes and cuts out text, so that it could break off inside of a character. It never
does: each of its offsets is the place after some characters of the template, and the bytes that it looks at are ASCII
characters or else the first bytes of other ones. So it can be followed along the characters.

* `yields_numberIn`, `takes_pieceAt`: numbers and references are read as by characters, up to a boundary,
* `round_cases`: a round goes on from a boundary to a boundary,
* `yields_run`: from any boundary the reading comes to what reading by characters gives,
* `Reached.left`: all rounds begin at a boundary,
* `read_unbroken`: all this for every template.
-/

namespace Retarget.Template

open Text

variable {source : String} {count : Nat} {before cs : List Char}

/-! ## Numbers -/

theorem isDigitByte_eq {b : UInt8} {c : Char} (h : IsLead b c) : isDigitByte b = c.isDigit := by
  rw [Bool.eq_iff_iff, isDigit_iff]
  simp only [isDigitByte, Bool.and_eq_true, decide_eq_true_eq]
  show 48 ≤ b.toNat ∧ b.toNat ≤ 57 ↔ _
  rcases h with h | h <;> omega

/-- Digits are told by their bytes, as no byte of another character looks like one. -/
theorem all_isDigitByte (digits : List Char) : (encodeChars digits).all isDigitByte = digits.all Char.isDigit := by
  induction digits with
  | nil => rfl
  | cons c digits ih =>
    obtain ⟨b, bs, hbytes, hlead, hone⟩ := exists_isLead c
    rw [encodeChars_cons, hbytes, List.all_append, ih, List.all_cons, List.all_cons, isDigitByte_eq hlead]
    cases hc : c.isDigit with
    | false => rfl
    | true =>
      have := isDigit_iff.1 hc
      rw [hone (by omega)]
      rfl

theorem isEmpty_encodeChars (cs : List Char) : (encodeChars cs).isEmpty = cs.isEmpty := by
  cases cs with
  | nil => rfl
  | cons c cs =>
    obtain ⟨b, bs, hbytes, _, _⟩ := exists_isLead c
    rw [encodeChars_cons, hbytes]
    rfl

/-- The bytes between the braces are looked at for what the rules say of the characters. -/
theorem not_digits_iff (digits : List Char) :
    ((encode (String.ofList digits)).isEmpty || !(encode (String.ofList digits)).all isDigitByte) = true ↔
      ¬ (digits ≠ [] ∧ ∀ d ∈ digits, d.isDigit = true) := by
  rw [encode_ofList, isEmpty_encodeChars, all_isDigitByte]
  simp [or_iff_not_imp_left]

/-- Only the first closing brace can close a number. -/
theorem readBraced_close_none {digits after : List Char} (hclose : '\x7d' ∉ digits)
    (h : ¬ ((digits ≠ [] ∧ ∀ d ∈ digits, d.isDigit = true) ∧ Nat.ofDigitChars 10 digits 0 < Nat.pow 2 64)) :
    readBraced none (digits ++ '\x7d' :: after) = none := by
  rw [Option.eq_none_iff_forall_ne_some]
  rintro ⟨group, rest⟩ hread
  obtain ⟨digits', hne, hdigits, he, rfl, hlt⟩ := readBraced_eq_some_iff.1 hread
  have hclose' : '\x7d' ∉ digits' := fun hmem => by cases hdigits _ hmem
  obtain ⟨rfl, rfl⟩ := (append_first_inj hclose hclose').1 he
  exact h ⟨⟨hne, hdigits⟩, hlt⟩

/-- A number in braces is read by offsets as it is by characters. -/
theorem yields_numberIn (text : List Char) :
    (readBraced none text = none ∧ (numberIn text).Yields none) ∨
    ∃ group digits after, text = digits ++ '\x7d' :: after ∧ readBraced none text = some (group, after) ∧
      (numberIn text).Yields (some (group, byteLength digits + 1)) := by
  rw [numberIn]
  rcases offsetOf?_cases '\x7d' text with ⟨hmem, hclose⟩ | ⟨digits, after, rfl, hmem, hclose⟩
  · rw [hclose]
    refine .inl ⟨?_, Slicing.yields_pure none⟩
    rw [Option.eq_none_iff_forall_ne_some]
    rintro ⟨group, after⟩ h
    obtain ⟨digits, _, _, rfl, _⟩ := readBraced_eq_some_iff.1 h
    exact hmem (by simp)
  · have hcut : (Slicing.cut (digits ++ '\x7d' :: after) 0 (byteLength digits)).Yields digits :=
      Slicing.yields_cut_zero rfl
    rw [hclose]
    -- Up to the first closing brace there is a number, or one that is too large, or none.
    by_cases hdigits : digits ≠ [] ∧ ∀ d ∈ digits, d.isDigit = true
    · have hbytes := fun h => (not_digits_iff digits).1 h hdigits
      by_cases hlt : Nat.ofDigitChars 10 digits 0 < Nat.pow 2 64
      · have hread : readBraced none (digits ++ '\x7d' :: after) = some (Nat.ofDigitChars 10 digits 0, after) :=
          readBraced_digits hdigits.2 (fun hnil => absurd hnil hdigits.1) hlt
        refine .inr ⟨_, digits, after, rfl, hread, hcut.bind ?_⟩
        simp only [if_neg hbytes, if_pos hlt]
        exact Slicing.yields_pure _
      · refine .inl ⟨readBraced_close_none hmem fun h => hlt h.2, hcut.bind ?_⟩
        simp only [if_neg hbytes, if_neg hlt]
        exact Slicing.yields_pure none
    · refine .inl ⟨readBraced_close_none hmem fun h => hdigits h.1, hcut.bind ?_⟩
      simp only [if_pos ((not_digits_iff digits).2 hdigits)]
      exact Slicing.yields_pure none

/-! ## What a dollar sign stands for -/

theorem isFirst_iff {b : UInt8} {c : Char} (h : IsLead b c) :
    ('1'.toNat ≤ b.toNat ∧ b.toNat ≤ '9'.toNat) ↔ ('1' ≤ c ∧ c ≤ '9') := by
  rw [first_iff]
  show 49 ≤ b.toNat ∧ b.toNat ≤ 57 ↔ _
  rcases h with h | h <;> omega

theorem secondAt_eq {first : Nat} (hsource : source.toList = before ++ cs) :
    secondAt source count first (byteLength before) = (readSecond count first cs).map (·.1) := by
  rw [secondAt]
  cases cs with
  | nil =>
    rw [getElem?_encode_end (by rw [hsource, List.append_nil])]
    rfl
  | cons e cs =>
    obtain ⟨b, hb, hlead⟩ := getElem?_encode hsource
    rw [hb, readSecond, Option.filter_some, isDigitByte_eq hlead]
    cases he : e.isDigit with
    | false => rfl
    | true =>
      have hrange := isDigit_iff.1 he
      rw [if_pos rfl, Option.map_some, hlead.toNat_eq (by omega), Option.filter_some]
      show (if decide (10 * first + (e.toNat - 48) ≤ count) = true then _ else none) =
        (if (true && decide (10 * first + (e.toNat - 48) ≤ count)) = true then _ else none : Option _).map _
      rw [Bool.true_and]
      split <;> rfl

theorem Reads.of_none (h : reference? count cs = none) : Reads count ('$' :: cs) (.char '$') cs := by
  refine .stray fun p after hp => ?_
  rw [reference?_eq_some_iff.2 hp] at h
  cases h

/-- A computation reads a dollar sign and what comes after it as the rules say, and takes the bytes of the characters
that belong to it. -/
def Takes (count : Nat) (cs : List Char) (x : Slicing (Except UnknownGroup (Piece × Nat))) : Prop :=
  ∃ p taken after, Reads count ('$' :: cs) p after ∧ '$' :: cs = taken ++ after ∧
    x.Yields ((confirmed count p).map (·, byteLength taken))

theorem takes_stray (h : reference? count cs = none) : Takes count cs (pure (.ok (.char '$', 1))) :=
  ⟨.char '$', ['$'], cs, .of_none h, rfl, Slicing.yields_pure _⟩

theorem takes_bracedAt (hsource : source.toList = before ++ '$' :: '\x7b' :: cs) :
    Takes count ('\x7b' :: cs) (bracedAt source count (byteLength before)) := by
  have hcut : (Slicing.cutFrom source.toList (byteLength before + 2)).Yields cs := by
    have hopen : source.toList = before ++ ['$'] ++ ['\x7b'] ++ cs := by simpa using hsource
    have h := Slicing.yields_cutFrom hopen
    rwa [byteLength_append_ascii _ (by decide), byteLength_append_ascii _ (by decide)] at h
  rcases yields_numberIn cs with ⟨hnone, hnumber⟩ | ⟨group, digits, after, rfl, hsome, hnumber⟩
  · refine ⟨.char '$', ['$'], '\x7b' :: cs, .of_none ?_, rfl, hcut.bind (hnumber.bind (Slicing.yields_pure _))⟩
    simp [reference?, hnone]
  · have hwidth : byteLength ('$' :: '\x7b' :: (digits ++ ['\x7d'])) = 2 + (byteLength digits + 1) := by
      rw [byteLength_cons_ascii (by decide), byteLength_cons_ascii (by decide), byteLength_append_ascii _ (by decide)]
      omega
    refine ⟨.group group, '$' :: '\x7b' :: (digits ++ ['\x7d']), after, .reference ?_, by simp, ?_⟩
    · exact reference?_eq_some_iff.1 (by simp [reference?, hsome])
    · rw [hwidth]
      exact hcut.bind (hnumber.bind (Slicing.yields_pure _))

theorem takes_digitsAt {c : Char} (hsource : source.toList = before ++ '$' :: c :: cs) (hc : '1' ≤ c ∧ c ≤ '9') :
    Takes count (c :: cs) (pure (digitsAt source count (byteLength before) (c.toNat - 48))) := by
  have hrange := first_iff.1 hc
  have hsecond : secondAt source count (c.toNat - 48) (byteLength before + 2) =
      (readSecond count (c.toNat - 48) cs).map (·.1) := by
    have hfirst : source.toList = before ++ ['$'] ++ [c] ++ cs := by simpa using hsource
    have h : secondAt source count (c.toNat - 48) (byteLength (before ++ ['$'] ++ [c])) = _ := secondAt_eq hfirst
    rwa [byteLength_append_ascii _ (by omega), byteLength_append_ascii _ (by decide)] at h
  rw [digitsAt, hsecond]
  cases hread : readSecond count (c.toNat - 48) cs with
  | none =>
    have hwidth : byteLength ['$', c] = 2 := by
      rw [byteLength_cons_ascii (by decide), byteLength_cons_ascii (by omega), byteLength]
    refine ⟨.group (c.toNat - 48), ['$', c], cs, .reference ?_, rfl, ?_⟩
    · exact reference?_eq_some_iff.1 (by rw [reference?_first hc, hread]; rfl)
    · rw [hwidth]
      exact Slicing.yields_pure _
  | some found =>
    obtain ⟨group, after⟩ := found
    obtain ⟨e, rfl, he, _, hle⟩ := readSecond_eq_some_iff.1 hread
    have hdigit := isDigit_iff.1 he
    have hwidth : byteLength ['$', c, e] = 3 := by
      rw [byteLength_cons_ascii (by decide), byteLength_cons_ascii (by omega), byteLength_cons_ascii (by omega),
        byteLength]
    refine ⟨.group group, ['$', c, e], after, .reference ?_, rfl, ?_⟩
    · exact reference?_eq_some_iff.1 (by rw [reference?_first hc, hread]; rfl)
    · have hconfirmed : confirmed count (.group group) = .ok (.group group) := if_neg (Nat.not_lt.2 hle)
      rw [hwidth, hconfirmed]
      exact Slicing.yields_pure _

/-- A dollar sign is read by offsets as it is by characters. -/
theorem takes_pieceAt (count : Nat) (hsource : source.toList = before ++ '$' :: cs) :
    Takes count cs (pieceAt source count (byteLength before)) := by
  have hafter : source.toList = before ++ ['$'] ++ cs := by simpa using hsource
  have hplace : byteLength (before ++ ['$']) = byteLength before + 1 := byteLength_append_ascii before (by decide)
  rw [pieceAt, ← hplace]
  cases cs with
  | nil =>
    rw [getElem?_encode_end hsource]
    exact takes_stray rfl
  | cons c cs =>
    obtain ⟨b, hb, hlead⟩ := getElem?_encode hafter
    have hdollar : b.toNat = '$'.toNat ↔ c = '$' := hlead.eq_iff (by decide)
    have hwhole : b.toNat = '&'.toNat ↔ c = '&' := hlead.eq_iff (by decide)
    have hopen : b.toNat = '\x7b'.toNat ↔ c = '\x7b' := hlead.eq_iff (by decide)
    -- The byte tells what the character would, so that the cases are those of the rules.
    simp only [hb, hdollar, hwhole, hopen, isFirst_iff hlead]
    split
    · next h =>
      subst h
      exact ⟨.char '$', ['$', '$'], cs, .reference .dollar, rfl, Slicing.yields_pure _⟩
    split
    · next h =>
      subst h
      exact ⟨.group 0, ['$', '&'], cs, .reference .whole, rfl, Slicing.yields_pure _⟩
    split
    · next h =>
      subst h
      exact takes_bracedAt hsource
    split
    · next h =>
      have := first_iff.1 h
      rw [hlead.toNat_eq (by omega)]
      exact takes_digitsAt hsource h
    · next hdollar hwhole hopen hfirst =>
      apply takes_stray
      rw [reference?, if_neg hdollar, if_neg hwhole, if_neg hopen, if_neg hfirst]

/-! ## Rounds -/

/-- A reading stands at a boundary, with some characters left. -/
def Left (source : String) (r : Reading) (cs : List Char) : Prop :=
  ∃ before, source.toList = before ++ cs ∧ r.rest = byteLength before

variable {r : Reading}

theorem Left.start (source : String) : Left source ⟨0, [], []⟩ source.toList := ⟨[], rfl, rfl⟩

/-- A round reads the text up to the next dollar sign and what this stands for, and leaves what comes after it. -/
theorem round_cases (count : Nat) (h : Left source r cs) : ('$' ∉ cs ∧ (round source count r).Yields none) ∨
    ∃ text tail p after rest, cs = text ++ '$' :: tail ∧ '$' ∉ text ∧ Reads count ('$' :: tail) p after ∧
      (∀ p, Left source (r.push text rest p) after) ∧
      (round source count r).Yields (some ((confirmed count p).map (r.push text rest))) := by
  obtain ⟨before, hsource, hrest⟩ := h
  have hleft := Slicing.yields_cutFrom hsource
  rw [round, hrest]
  rcases offsetOf?_cases '$' cs with ⟨hmem, hfound⟩ | ⟨text, tail, rfl, hmem, hfound⟩
  · refine .inl ⟨hmem, hleft.bind ?_⟩
    rw [hfound]
    exact Slicing.yields_pure none
  · have hdollar : source.toList = (before ++ text) ++ '$' :: tail := by rw [hsource, List.append_assoc]
    obtain ⟨p, taken, after, hreads, htaken, hpiece⟩ := takes_pieceAt count hdollar
    rw [byteLength_append] at hpiece
    refine .inr ⟨text, tail, p, after, byteLength before + byteLength text + byteLength taken, rfl, hmem, hreads,
      fun p => ⟨before ++ text ++ taken, ?_, ?_⟩, hleft.bind ?_⟩
    · rw [hdollar, htaken, List.append_assoc _ taken]
    · rw [Reading.rest_push, byteLength_append, byteLength_append]
    · rw [hfound]
      refine (Slicing.yields_cut hsource).bind (hpiece.bind ?_)
      cases confirmed count p <;> exact Slicing.yields_pure _

theorem pieces_chars {text : List Char} (h : '$' ∉ text) (cs : List Char) :
    pieces count (text ++ cs) = (pieces count cs).map (text.map .char ++ ·) := by
  induction text with
  | nil => cases hcs : pieces count cs <;> simp [hcs, Except.map]
  | cons c text ih =>
    rw [List.mem_cons, not_or] at h
    rw [List.cons_append, pieces_text (Ne.symm h.1), ih h.2]
    cases pieces count cs <;> rfl

/-- The text and the piece of a round are joined to what has been read. -/
theorem segments_push (r : Reading) (text : List Char) (rest : Nat) (p : Piece) (ps : List Piece) :
    (r.push text rest p).segments ++ join (r.push text rest p).literal.reverse ps =
      r.segments ++ join r.literal.reverse (text.map .char ++ p :: ps) := by
  rw [join_chars]
  cases p with
  | char c => simp [Reading.push, join]
  | group g => simp [Reading.push, join]

/-- Without a dollar sign all that is left is text. -/
theorem yields_finish (count : Nat) (h : Left source r cs) (hmem : '$' ∉ cs) : (finish source r).Yields
    ((pieces count cs).map fun ps => ⟨source, r.segments ++ join r.literal.reverse ps⟩) := by
  obtain ⟨before, hsource, hrest⟩ := h
  have hpieces : pieces count cs = .ok (cs.map .char) := by
    have hchars : pieces count (cs ++ []) = _ := pieces_chars hmem []
    rwa [List.append_nil, pieces, Except.map, List.append_nil] at hchars
  have hjoin : join r.literal.reverse (cs.map .char) = literalSegment (r.literal ++ cs) := by
    have hchars := join_chars r.literal.reverse cs []
    rwa [List.append_nil, join, List.reverse_append, List.reverse_reverse, List.reverse_reverse] at hchars
  rw [hpieces]
  show Slicing.Yields (finish source r) (.ok ⟨source, r.segments ++ join r.literal.reverse (cs.map .char)⟩)
  rw [hjoin, finish, hrest]
  exact (Slicing.yields_cutFrom hsource).bind (Slicing.yields_pure _)

/-- Reading by offsets goes on from any place that it can be at as reading by characters does. -/
theorem yields_run (h : Left source r cs) : (run source count r).Yields
    ((pieces count cs).map fun ps => ⟨source, r.segments ++ join r.literal.reverse ps⟩) := by
  -- A round leaves fewer characters than there were.
  induction hn : cs.length using Nat.strong_induction_on generalizing r cs with
  | _ n ih =>
    subst hn
    rw [run_eq]
    rcases round_cases count h with ⟨hmem, hround⟩ | ⟨text, tail, p, after, rest, rfl, hmem, hreads, hleft, hround⟩
    · exact hround.bind (yields_finish count h hmem)
    · refine hround.bind ?_
      rw [pieces_chars hmem, hreads.pieces_eq]
      rcases confirmed_cases count p with ⟨hp, _⟩ | ⟨g, rfl, _, hp⟩
      · have hlt : after.length < (text ++ '$' :: tail).length := by
          have := hreads.length_lt
          rw [List.length_append]
          omega
        have hnext := ih _ hlt (hleft p) rfl
        simp only [segments_push] at hnext
        rw [hp]
        cases hafter : pieces count after with
        | error e =>
          rw [hafter] at hnext
          exact hnext
        | ok ps =>
          rw [hafter] at hnext
          exact hnext
      · rw [hp]
        exact Slicing.yields_pure _

theorem yields_read (source : String) (count : Nat) : (read source count).Yields (parse source count) := by
  rw [parse_eq]
  exact yields_run (Left.start source)

/-! ## All rounds -/

/-- The readings that rounds of reading a template lead to. -/
inductive Reached (source : String) (count : Nat) : Reading → Prop
  | start : Reached source count ⟨0, [], []⟩
  | next {r r' : Reading} (h : Reached source count r)
      (hround : (round source count r).result = some (some (.ok r'))) : Reached source count r'

/-- Every round begins at a boundary. -/
theorem Reached.left (h : Reached source count r) : ∃ cs, Left source r cs := by
  induction h with
  | start => exact ⟨_, Left.start source⟩
  | next _ hround ih =>
    obtain ⟨cs, hleft⟩ := ih
    rcases round_cases count hleft with ⟨_, h⟩ | ⟨text, _, p, after, rest, _, _, _, hnext, h⟩
    · cases h.result.symm.trans hround
    · cases hp : confirmed count p with
      | error e =>
        rw [hp] at h
        cases h.result.symm.trans hround
      | ok p =>
        rw [hp] at h
        cases h.result.symm.trans hround
        exact ⟨after, hnext p⟩

theorem exists_yields_round (count : Nat) (h : Left source r cs) : ∃ o, (round source count r).Yields o := by
  rcases round_cases count h with ⟨_, h⟩ | ⟨_, _, _, _, _, _, _, _, _, h⟩
  · exact ⟨_, h⟩
  · exact ⟨_, h⟩

/-- Reading a template by offsets never breaks off: each round begins at a boundary and cuts out valid slices only, the
next one begins behind it, and the whole comes to what reading by characters gives. -/
theorem read_unbroken (source : String) (count : Nat) :
    (∀ r, Reached source count r →
      r.rest ≤ byteLength source.toList ∧ isBoundary source.toList r.rest = true ∧
      (∀ s ∈ (round source count r).slices, s.Valid) ∧ (round source count r).result.isSome = true ∧
      ∀ r', (round source count r).result = some (some (.ok r')) → r.rest < r'.rest) ∧
    (∀ s ∈ (read source count).slices, s.Valid) ∧ (read source count).result = some (parse source count) := by
  refine ⟨fun r hreached => ?_, (yields_read source count).valid, (yields_read source count).result⟩
  obtain ⟨cs, hleft⟩ := hreached.left
  obtain ⟨o, hround⟩ := exists_yields_round count hleft
  obtain ⟨before, hsource, hrest⟩ := hleft
  refine ⟨?_, isBoundary_iff.2 ⟨before, cs, hsource, hrest.symm⟩, hround.valid, ?_, fun r' h => (rest_lt_of_round h).2⟩
  · rw [hrest, hsource, byteLength_append]
    exact Nat.le_add_right _ _
  · rw [hround.result]
    rfl

/-- Characters of two bytes after a dollar sign, after a digit, and in braces. -/
example : (read "$é$1é$\x7bé$\x7b1é\x7d$\x7b1\x7dé" 1).result.map (·.map Template.segments) =
    some (.ok [.literal "$é", .group 1, .literal "é$\x7bé$\x7b1é\x7d", .group 1, .literal "é"]) := by decide +kernel

end Retarget.Template
