import Mathlib.Data.List.Infix
import Retarget.Exclusion
import Retarget.Proofs.Sessions

/-!
# Excluded directories

An exclusion such as `build/` or `gen/out/` excludes what lies in directories of these names. It is decided on the
text of a path, by what the text begins with and what is found in it, although it is a statement about components.

* `Text.decodeLossy_encode`: a text is read back from its bytes,
* `Glob.isMatch_literal`: a glob without wildcards matches its own text only,
* `slashed_infix_iff`: found in the text from a slash to a slash, or at its beginning, is found as components,
* `ExclusionSet.isMatch_directories`: directory exclusions match the paths with their names among the components before
  the last one, in whatever order they stand and however often.
-/

namespace Retarget

/-! ## Texts and their bytes -/

namespace Text

theorem toNat_ofNat {n : Nat} (h : n < 256) : (UInt8.ofNat n).toNat = n := UInt8.toNat_ofNat_of_lt' h

/-- The bytes of a character by its number. -/
theorem utf8EncodeChar_eq (c : Char) : String.utf8EncodeChar c =
    if c.toNat ≤ 127 then [UInt8.ofNat c.toNat]
    else if c.toNat ≤ 2047 then [UInt8.ofNat (c.toNat / 64 % 32 + 192), UInt8.ofNat (c.toNat % 64 + 128)]
    else if c.toNat ≤ 65535 then
      [UInt8.ofNat (c.toNat / 4096 % 16 + 224), UInt8.ofNat (c.toNat / 64 % 64 + 128), UInt8.ofNat (c.toNat % 64 + 128)]
    else
      [UInt8.ofNat (c.toNat / 262144 % 8 + 240), UInt8.ofNat (c.toNat / 4096 % 64 + 128),
        UInt8.ofNat (c.toNat / 64 % 64 + 128), UInt8.ofNat (c.toNat % 64 + 128)] := rfl

/-- A continuation byte adds six bits. -/
theorem readTail_ofNat {range : Nat × Nat} {value width k : Nat} {more : List (Nat × Nat)} {rest : Bytes} (hk : k < 64)
    (hrange : range.1 ≤ k + 128 ∧ k + 128 ≤ range.2) :
    readTail value width (range :: more) (UInt8.ofNat (k + 128) :: rest) =
      readTail (64 * value + k) (width + 1) more rest := by
  obtain ⟨lo, hi⟩ := range
  obtain ⟨hlo, hhi⟩ := hrange
  have hb : (UInt8.ofNat (k + 128)).toNat = k + 128 := toNat_ofNat (by omega)
  rw [readTail, within, hb, if_pos (by simp only [decide_eq_true hlo, decide_eq_true hhi, Bool.and_self]),
    Nat.add_sub_cancel]

/-- The second of three bytes is in its range: the number is not too small for three bytes and no surrogate. -/
theorem secondRange_three {v : Nat} (hlo : 2047 < v) (hhi : v ≤ 65535) (h : v < 0xD800 ∨ 0xDFFF < v) :
    (secondRange (v / 4096 % 16 + 224)).1 ≤ v / 64 % 64 + 128 ∧
      v / 64 % 64 + 128 ≤ (secondRange (v / 4096 % 16 + 224)).2 := by
  simp only [secondRange, beq_iff_eq]
  split
  · omega
  split
  · omega
  · rw [if_neg (by omega), if_neg (by omega)]
    omega

/-- The second of four bytes is in its range. -/
theorem secondRange_four {v : Nat} (hlo : 65535 < v) (hhi : v < 0x110000) :
    (secondRange (v / 262144 % 8 + 240)).1 ≤ v / 4096 % 64 + 128 ∧
      v / 4096 % 64 + 128 ≤ (secondRange (v / 262144 % 8 + 240)).2 := by
  simp only [secondRange, beq_iff_eq]
  rw [if_neg (by omega), if_neg (by omega)]
  split
  · omega
  split <;> omega

/-- A character is read back from its bytes. -/
theorem readChunk_utf8EncodeChar (c : Char) : ∃ b bs, String.utf8EncodeChar c = b :: bs ∧
    ∀ rest, readChunk b (bs ++ rest) = .char c (bs.length + 1) := by
  have hvalid : c.toNat < 0xD800 ∨ 0xDFFF < c.toNat ∧ c.toNat < 0x110000 := c.valid
  have hback : Char.ofNat c.toNat = c := Char.ofNat_toNat c
  rw [utf8EncodeChar_eq]
  generalize c.toNat = v at hvalid hback
  subst hback
  split
  · refine ⟨_, _, rfl, fun rest => ?_⟩
    rw [readChunk, toNat_ofNat (by omega), if_pos (by omega)]
    rfl
  split
  · refine ⟨_, _, rfl, fun rest => ?_⟩
    have hv : 64 * (v / 64 % 32 + 192 - 192) + v % 64 = v := by omega
    rw [readChunk, toNat_ofNat (by omega), if_neg (by omega), if_neg (by omega), if_pos (by omega),
      List.singleton_append, readTail_ofNat (by omega) (by omega), readTail, hv]
    rfl
  split
  · refine ⟨_, _, rfl, fun rest => ?_⟩
    have hv : 64 * (64 * (v / 4096 % 16 + 224 - 224) + v / 64 % 64) + v % 64 = v := by omega
    rw [readChunk, toNat_ofNat (by omega), if_neg (by omega), if_neg (by omega), if_neg (by omega), if_pos (by omega),
      List.cons_append, List.singleton_append,
      readTail_ofNat (by omega) (secondRange_three (by omega) (by omega) (by omega)),
      readTail_ofNat (by omega) (by omega), readTail, hv]
    rfl
  · refine ⟨_, _, rfl, fun rest => ?_⟩
    have hv : 64 * (64 * (64 * (v / 262144 % 8 + 240 - 240) + v / 4096 % 64) + v / 64 % 64) + v % 64 = v := by omega
    rw [readChunk, toNat_ofNat (by omega), if_neg (by omega), if_neg (by omega), if_neg (by omega), if_neg (by omega),
      if_pos (by omega), List.cons_append, List.cons_append, List.singleton_append,
      readTail_ofNat (by omega) (secondRange_four (by omega) (by omega)), readTail_ofNat (by omega) (by omega),
      readTail_ofNat (by omega) (by omega), readTail, hv]
    rfl

theorem decodeLossyFrom_encode (cs : List Char) {fuel : Nat} (h : (cs.flatMap String.utf8EncodeChar).length ≤ fuel) :
    decodeLossyFrom fuel (cs.flatMap String.utf8EncodeChar) = cs := by
  induction cs generalizing fuel with
  | nil => rw [List.flatMap_nil, decodeLossyFrom]
  | cons c cs ih =>
    obtain ⟨b, bs, hbytes, hread⟩ := readChunk_utf8EncodeChar c
    rw [List.flatMap_cons, hbytes, List.cons_append] at h ⊢
    obtain _ | fuel := fuel
    · cases h
    · simp only [List.length_cons, List.length_append] at h
      simp only [decodeLossyFrom, hread, Nat.add_sub_cancel, List.drop_left]
      rw [ih (by omega)]

/-- A text is read back from its bytes. -/
theorem decodeLossy_encode (s : String) : decodeLossy (encode s) = s := by
  rw [decodeLossy, encode, decodeLossyFrom_encode _ (Nat.le_refl _), String.ofList_toList]

theorem slash_mem_encode {s : String} (h : Path.slash ∈ encode s) : '/' ∈ s.toList := by
  obtain ⟨c, hc, hb⟩ := List.mem_flatMap.1 h
  exact eq_slash_of_mem hb ▸ hc

theorem encode_append (s t : String) : encode (s ++ t) = encode s ++ encode t := by
  rw [encode, String.toList_append, List.flatMap_append]
  rfl

end Text

/-! ## Globs without wildcards -/

namespace Glob

/-- A character that stands for itself in a glob. -/
def IsLiteral (c : Char) : Prop := c ≠ '?' ∧ c ≠ '*' ∧ c ≠ '['

instance (c : Char) : Decidable (IsLiteral c) := inferInstanceAs (Decidable (_ ∧ _ ∧ _))

theorem readFrom_literal {cs : List Char} (h : ∀ c ∈ cs, IsLiteral c) {fuel position : Nat} {prev : Option Char}
    {rev : List GlobToken} (hfuel : cs.length ≤ fuel) :
    readFrom fuel position prev rev cs = .ok (rev.reverse ++ cs.map .char) := by
  induction cs generalizing fuel position prev rev with
  | nil =>
    rw [readFrom, List.map_nil, List.append_nil]
  | cons c cs ih =>
    obtain ⟨hc, hcs⟩ := List.forall_mem_cons.1 h
    obtain _ | fuel := fuel
    · cases hfuel
    · rw [readFrom, if_neg (by simpa using hc.1), if_neg (by simpa using hc.2.1), if_neg (by simpa using hc.2.2),
        ih hcs (Nat.le_of_succ_le_succ hfuel), List.reverse_cons, List.append_assoc]
      rfl

theorem parse_literal {text : String} (h : ∀ c ∈ text.toList, IsLiteral c) :
    parse text = .ok ⟨text.toList.map .char⟩ := by
  simp only [parse, readFrom_literal h (Nat.le_succ _)]
  rfl

theorem run_literal (cs t : List Char) : run (cs.map .char) t = .matched ↔ t = cs := by
  induction cs generalizing t with
  | nil => cases t <;> simp [run]
  | cons c cs ih =>
    cases t with
    | nil => simp [run]
    | cons d t =>
      by_cases hd : d = c
      · simp [run, hd, ih]
      · simp [run, hd]

theorem Verdict.beq_matched (v : Verdict) : (v == .matched) = true ↔ v = .matched := by cases v <;> decide

/-- A glob without wildcards matches its own text only. -/
theorem isMatch_literal {text t : String} {g : Glob} (h : ∀ c ∈ text.toList, IsLiteral c) (hg : parse text = .ok g) :
    g.isMatch t = true ↔ t = text := by
  rw [parse_literal h] at hg
  rw [← Except.ok.inj hg, isMatch, Verdict.beq_matched, run_literal, String.toList_inj]

end Glob

/-! ## Texts with slashes -/

/-- Some names with a slash after each. -/
def slashed (names : List (List Char)) : List Char := names.flatMap (· ++ ['/'])

theorem slashed_cons (name : List Char) (names : List (List Char)) :
    slashed (name :: names) = name ++ '/' :: slashed names := by
  rw [slashed, List.flatMap_cons, List.append_assoc]
  rfl

/-- What stands before the first place of a character, and what after it. -/
theorem append_first_inj {a : Char} {x y s t : List Char} (hx : a ∉ x) (hy : a ∉ y) :
    x ++ a :: s = y ++ a :: t ↔ x = y ∧ s = t := by
  induction x generalizing y with
  | nil =>
    cases y with
    | nil => simp
    | cons d y => exact iff_of_false (fun h => hy (List.mem_cons.2 (.inl (List.cons.inj h).1))) (by simp)
  | cons c x ih =>
    cases y with
    | nil => exact iff_of_false (fun h => hx (List.mem_cons.2 (.inl (List.cons.inj h).1.symm))) (by simp)
    | cons d y =>
      obtain ⟨_, hx⟩ := not_or.1 (fun h => hx (List.mem_cons.2 h))
      obtain ⟨_, hy⟩ := not_or.1 (fun h => hy (List.mem_cons.2 h))
      rw [List.cons_append, List.cons_append, List.cons.injEq, List.cons.injEq, ih hx hy, and_assoc]

/-- One text with slashes begins another if its names do. -/
theorem slashed_prefix_iff {xs ys : List (List Char)} {last : List Char} (hxs : ∀ x ∈ xs, '/' ∉ x)
    (hys : ∀ y ∈ ys, '/' ∉ y) (hlast : '/' ∉ last) : slashed xs <+: slashed ys ++ last ↔ xs <+: ys := by
  induction xs generalizing ys with
  | nil => exact iff_of_true (List.nil_prefix) (List.nil_prefix)
  | cons x xs ih =>
    obtain ⟨hx, hxs⟩ := List.forall_mem_cons.1 hxs
    cases ys with
    | nil =>
      refine iff_of_false (fun h => hlast (h.subset ?_)) (by simp)
      rw [slashed_cons]
      exact List.mem_append_right _ List.mem_cons_self
    | cons y ys =>
      obtain ⟨hy, hys⟩ := List.forall_mem_cons.1 hys
      rw [List.cons_prefix_cons, ← ih hxs hys, slashed_cons, slashed_cons]
      constructor
      · rintro ⟨t, ht⟩
        rw [List.append_assoc, List.append_assoc, List.cons_append, List.cons_append, append_first_inj hx hy] at ht
        exact ⟨ht.1, t, ht.2⟩
      · rintro ⟨rfl, t, ht⟩
        exact ⟨t, by rw [List.append_assoc, List.append_assoc, List.cons_append, List.cons_append, ht]⟩

/-- A part that begins with a slash is found behind a name, or in what follows it. -/
theorem slash_infix_append {y part rest : List Char} (hy : '/' ∉ y) :
    '/' :: part <:+: y ++ '/' :: rest ↔ part <+: rest ∨ '/' :: part <:+: rest := by
  induction y with
  | nil => rw [List.nil_append, List.infix_cons_iff, List.cons_prefix_cons, and_iff_right rfl]
  | cons c y ih =>
    obtain ⟨hc, hy⟩ := not_or.1 (fun h => hy (List.mem_cons.2 h))
    rw [List.cons_append, List.infix_cons_iff, List.cons_prefix_cons, ih hy, or_iff_right fun h => hc h.1]

/-- **Found in a text is found among its names**: a text with slashes begins another one, or stands behind a slash in
it, exactly if its names follow one another among the names before the last slash. -/
theorem slashed_infix_iff {xs ys : List (List Char)} {last : List Char} (hxs : ∀ x ∈ xs, '/' ∉ x)
    (hys : ∀ y ∈ ys, '/' ∉ y) (hlast : '/' ∉ last) :
    (slashed xs <+: slashed ys ++ last ∨ '/' :: slashed xs <:+: slashed ys ++ last) ↔ xs <:+: ys := by
  induction ys with
  | nil =>
    rw [slashed_prefix_iff hxs hys hlast, List.prefix_nil, List.infix_nil]
    exact or_iff_left fun h => hlast (h.subset List.mem_cons_self)
  | cons y ys ih =>
    obtain ⟨hy, hys'⟩ := List.forall_mem_cons.1 hys
    rw [List.infix_cons_iff, ← ih hys', slashed_prefix_iff hxs hys hlast, slashed_cons, List.append_assoc,
      List.cons_append, slash_infix_append hy]

/-! ## Names as text -/

/-- A component of a path as text. -/
structure IsComponent (name : String) : Prop where
  ne_empty : name ≠ ""
  no_slash : '/' ∉ name.toList
  no_backslash : '\\' ∉ name.toList

instance (name : String) : Decidable (IsComponent name) :=
  decidable_of_iff (name ≠ "" ∧ '/' ∉ name.toList ∧ '\\' ∉ name.toList)
    ⟨fun ⟨h₁, h₂, h₃⟩ => ⟨h₁, h₂, h₃⟩, fun ⟨h₁, h₂, h₃⟩ => ⟨h₁, h₂, h₃⟩⟩

variable {names comps : List String}

theorem toList_intercalate_concat (names : List String) (last : String) :
    ("/".intercalate (names ++ [last])).toList = slashed (names.map String.toList) ++ last.toList := by
  induction names with
  | nil => simp [slashed]
  | cons name names ih =>
    rw [List.cons_append, String.intercalate_cons_of_ne_nil (by simp), String.toList_append, String.toList_append, ih,
      List.map_cons, slashed_cons, List.append_assoc, List.append_assoc]
    rfl

/-- The names but the last one stand before slashes. -/
theorem intercalate_spec (h : ∀ name ∈ names, IsComponent name) : ∃ last, '/' ∉ last ∧ (last = [] → names = []) ∧
    ("/".intercalate names).toList = slashed (names.dropLast.map String.toList) ++ last := by
  rcases names.eq_nil_or_concat' with rfl | ⟨before, last, rfl⟩
  · exact ⟨[], by simp, fun _ => rfl, rfl⟩
  · have hlast : IsComponent last := h _ (by simp)
    refine ⟨last.toList, hlast.no_slash, fun hnil => absurd (String.toList_eq_nil_iff.1 hnil) hlast.ne_empty, ?_⟩
    rw [List.dropLast_concat, toList_intercalate_concat]

/-- Names with slashes between them do not end in a slash. -/
theorem getLast?_intercalate (h : ∀ name ∈ names, IsComponent name) :
    ("/".intercalate names).toList.getLast? ≠ some '/' := by
  obtain ⟨last, hlast, hnil, htext⟩ := intercalate_spec h
  rw [htext]
  cases last with
  | nil =>
    rw [hnil rfl]
    exact nofun
  | cons c last =>
    rw [List.getLast?_append_of_ne_nil _ (by simp)]
    exact fun he => hlast (List.mem_of_getLast? he)

theorem getLast?_slashed {xs : List (List Char)} (h : xs ≠ []) : (slashed xs).getLast? = some '/' := by
  obtain ⟨before, x, rfl⟩ := xs.eq_nil_or_concat'.resolve_left h
  rw [slashed, List.flatMap_append, List.flatMap_singleton, ← List.append_assoc, List.getLast?_concat]

theorem mem_slashed {c : Char} {xs : List (List Char)} (h : c ∈ slashed xs) : c = '/' ∨ ∃ x ∈ xs, c ∈ x := by
  obtain ⟨x, hx, hc⟩ := List.mem_flatMap.1 h
  rcases List.mem_append.1 hc with hc | hc
  · exact .inr ⟨x, hx, hc⟩
  · exact .inl (List.mem_singleton.1 hc)

theorem mem_intercalate {c : Char} (h : c ∈ ("/".intercalate names).toList) :
    c = '/' ∨ ∃ name ∈ names, c ∈ name.toList := by
  rcases names.eq_nil_or_concat' with rfl | ⟨before, last, rfl⟩
  · cases h
  rw [toList_intercalate_concat, List.mem_append] at h
  rcases h with h | h
  · rcases mem_slashed h with hc | ⟨x, hx, hc⟩
    · exact .inl hc
    · obtain ⟨name, hname, rfl⟩ := List.mem_map.1 hx
      exact .inr ⟨name, List.mem_append_left _ hname, hc⟩
  · exact .inr ⟨last, by simp, h⟩

/-- The parts of a path are its components. -/
theorem parts_intercalate (hne : comps ≠ []) (h : ∀ comp ∈ comps, IsComponent comp) :
    Path.parts (Text.encode ("/".intercalate comps)) = comps.map Text.encode := by
  induction comps with
  | nil => exact absurd rfl hne
  | cons comp comps ih =>
    obtain ⟨hcomp, hcomps⟩ := List.forall_mem_cons.1 h
    have hslash : Path.slash ∉ Text.encode comp := fun hmem => hcomp.no_slash (Text.slash_mem_encode hmem)
    cases comps with
    | nil => rw [String.intercalate_singleton, Path.parts_of_not_mem hslash, List.map_singleton]
    | cons next comps =>
      have hbytes : Text.encode (comp ++ "/" ++ "/".intercalate (next :: comps)) =
          Text.encode comp ++ Path.slash :: Text.encode ("/".intercalate (next :: comps)) := by
        rw [Text.encode_append, Text.encode_append, List.append_assoc]
        rfl
      rw [String.intercalate_cons_cons, hbytes, Path.parts_append_slash, Path.parts_of_not_mem hslash,
        ih (by simp) hcomps, List.singleton_append]
      rfl

/-- The file name of a path is one of its components. -/
theorem fileName?_intercalate (h : ∀ comp ∈ comps, IsComponent comp) {n : Name}
    (hn : (Path.ofString ("/".intercalate comps)).fileName? = some n) : ∃ comp ∈ comps, n = Text.encode comp := by
  by_cases hne : comps = []
  · subst hne
    cases hn
  obtain ⟨part, hpart, hc⟩ := List.mem_filterMap.1 (List.mem_of_getLast? (Path.fileName?_eq_some.1 hn))
  obtain ⟨rfl, -⟩ := Path.component?_eq_name hc
  rw [Path.steps, Path.ofString, parts_intercalate hne h] at hpart
  obtain ⟨comp, hcomp, he⟩ := List.mem_map.1 (List.mem_filter.1 hpart).1
  exact ⟨comp, hcomp, he.symm⟩

/-! ## Exclusions of directories -/

/-- The exclusion of what lies in some directories, one in the other. -/
def directoryText (names : List String) : String := "/".intercalate names ++ "/"

theorem toList_directoryText (hne : names ≠ []) : (directoryText names).toList = slashed (names.map String.toList) := by
  obtain ⟨before, last, rfl⟩ := names.eq_nil_or_concat'.resolve_left hne
  rw [directoryText, String.toList_append, toList_intercalate_concat, List.map_append, slashed, slashed,
    List.flatMap_append, List.append_assoc]
  simp

namespace Exclusion

/-- A name of a directory that is no glob. -/
structure IsPlain (name : String) : Prop extends IsComponent name where
  literal : ∀ c ∈ name.toList, Glob.IsLiteral c

instance (name : String) : Decidable (IsPlain name) :=
  haveI : Decidable (∀ c ∈ name.toList, Glob.IsLiteral c) := List.decidableBAll _ _
  decidable_of_iff (IsComponent name ∧ ∀ c ∈ name.toList, Glob.IsLiteral c)
    ⟨fun ⟨h₁, h₂⟩ => ⟨h₁, h₂⟩, fun ⟨h₁, h₂⟩ => ⟨h₁, h₂⟩⟩

theorem occurs_eq_true {part cs : List Char} : occurs part cs = true ↔ part <:+: cs := by
  induction cs with
  | nil => simp [occurs]
  | cons c cs ih => rw [occurs, Bool.or_eq_true, List.isPrefixOf_iff_prefix, ih, List.infix_cons_iff]

theorem directory?_directoryText (h : ∀ name ∈ names, IsComponent name) :
    (ofText (directoryText names)).directory? = some ("/".intercalate names).toList := by
  have hrev : (ofText (directoryText names)).text.toList.reverse = '/' :: ("/".intercalate names).toList.reverse := by
    simp [ofText, directoryText]
  have hhead : ∀ c ∈ ("/".intercalate names).toList.reverse.head?, (c == '/') = false := fun c hc => by
    rw [List.head?_reverse] at hc
    exact beq_eq_false_iff_ne.2 fun he => getLast?_intercalate h (he ▸ hc)
  have hdrop : ('/' :: ("/".intercalate names).toList.reverse).dropWhile (· == '/') =
      ("/".intercalate names).toList.reverse := by
    rw [List.dropWhile_cons_of_pos rfl]
    cases hr : ("/".intercalate names).toList.reverse with
    | nil => rfl
    | cons c cs => rw [List.dropWhile_cons_of_neg (by simpa using hhead c (by rw [hr]; rfl))]
  rw [directory?, hrev, hdrop, List.reverse_reverse]
  rfl

/-- An exclusion of directories matches no path and no file name as a glob. -/
theorem matchesGlob_directoryText (hne : names ≠ []) (h : ∀ name ∈ names, IsPlain name) {path : String}
    {fileName : Option String} (hpath : path.toList.getLast? ≠ some '/')
    (hfile : ∀ n, fileName = some n → n.toList.getLast? ≠ some '/') :
    (ofText (directoryText names)).matchesGlob path fileName = false := by
  have hliteral : ∀ c ∈ (directoryText names).toList, Glob.IsLiteral c := fun c hc => by
    rw [toList_directoryText hne] at hc
    rcases mem_slashed hc with rfl | ⟨x, hx, hc⟩
    · simp [Glob.IsLiteral]
    · obtain ⟨name, hname, rfl⟩ := List.mem_map.1 hx
      exact (h name hname).literal c hc
  have hends : (directoryText names).toList.getLast? = some '/' := by
    rw [toList_directoryText hne, getLast?_slashed (by simpa using hne)]
  have hnever : ∀ t : String, t.toList.getLast? ≠ some '/' →
      ¬(⟨(directoryText names).toList.map .char⟩ : Glob).isMatch t = true := fun t ht hm => by
    rw [(Glob.isMatch_literal hliteral (Glob.parse_literal hliteral)).1 hm] at ht
    exact ht hends
  simp only [matchesGlob, ofText, Glob.parse_literal hliteral, Bool.or_eq_false_iff]
  refine ⟨eq_false_of_ne_true (hnever path hpath), ?_⟩
  cases fileName with
  | none => rfl
  | some n => exact eq_false_of_ne_true (hnever n (hfile n rfl))

/-- The directories are looked for at the beginning of the path and behind its slashes. -/
theorem matchesDirectory_directoryText (hne : names ≠ []) (h : ∀ name ∈ names, IsPlain name) (path : List Char) :
    (ofText (directoryText names)).matchesDirectory path = true ↔
      slashed (names.map String.toList) <+: path ∨ '/' :: slashed (names.map String.toList) <:+: path := by
  have hdir : ("/".intercalate names).toList ++ ['/'] = slashed (names.map String.toList) := by
    rw [← toList_directoryText hne, directoryText, String.toList_append]
    rfl
  rw [matchesDirectory, directory?_directoryText fun name hname => (h name hname).toIsComponent, Option.any_some,
    Bool.or_eq_true, List.isPrefixOf_iff_prefix, occurs_eq_true, List.cons_append, hdir]

end Exclusion

namespace ExclusionSet

open Exclusion

/-- A path of components is looked at as it is. -/
theorem shown_intercalate (h : ∀ comp ∈ comps, IsComponent comp) :
    ((Path.ofString ("/".intercalate comps)).display.toList.map fun c => if c == '\\' then '/' else c) =
      ("/".intercalate comps).toList := by
  rw [Path.display, Path.ofString, Text.decodeLossy_encode]
  refine (List.map_congr_left fun c hc => ?_).trans (List.map_id _)
  refine if_neg fun hback => ?_
  rw [beq_iff_eq] at hback
  subst hback
  rcases mem_intercalate hc with he | ⟨comp, hcomp, hmem⟩
  · cases he
  · exact (h comp hcomp).no_backslash hmem

/-- Some exclusions match what one of them matches alone. -/
theorem isMatch_eq_any (texts : List String) (p : Path) :
    (ofTexts texts).isMatch p = texts.any fun t => (ofTexts [t]).isMatch p := by
  simp only [isMatch, ofTexts, List.any_map, List.map_cons, List.map_nil, List.any_cons, List.any_nil, Bool.or_false]
  rfl

/-- What is excluded depends neither on the order of the exclusions nor on how often one stands there. -/
theorem isMatch_congr {texts texts' : List String} (h : ∀ t, t ∈ texts ↔ t ∈ texts') (p : Path) :
    (ofTexts texts).isMatch p = (ofTexts texts').isMatch p := by
  rw [isMatch_eq_any, isMatch_eq_any texts', Bool.eq_iff_iff, List.any_eq_true, List.any_eq_true]
  simp only [h]

/-- An exclusion of directories matches the paths with its names one after another before their last component. -/
theorem isMatch_directory (hne : names ≠ []) (hnames : ∀ name ∈ names, IsPlain name)
    (hcomps : ∀ comp ∈ comps, IsComponent comp) :
    (ofTexts [directoryText names]).isMatch (.ofString ("/".intercalate comps)) = true ↔
      names <:+: comps.dropLast := by
  obtain ⟨last, hlast, -, htext⟩ := intercalate_spec hcomps
  have hfile : ∀ n, (Path.ofString ("/".intercalate comps)).fileName?.map Text.decodeLossy = some n →
      n.toList.getLast? ≠ some '/' := fun n hn => by
    obtain ⟨bytes, hbytes, rfl⟩ := Option.map_eq_some_iff.1 hn
    obtain ⟨comp, hcomp, rfl⟩ := fileName?_intercalate hcomps hbytes
    rw [Text.decodeLossy_encode]
    exact fun he => (hcomps comp hcomp).no_slash (List.mem_of_getLast? he)
  have hglob := matchesGlob_directoryText hne hnames (getLast?_intercalate hcomps) hfile
  have hmap : names.map String.toList <:+: comps.dropLast.map String.toList ↔ names <:+: comps.dropLast := by
    refine ⟨fun h => ?_, fun h => h.map _⟩
    obtain ⟨found, hfound, he⟩ := List.infix_map_iff.1 h
    exact (List.map_injective_iff.2 (fun _ _ => String.toList_inj.1) he) ▸ hfound
  simp only [isMatch, ofTexts, List.map_cons, List.map_nil, List.any_cons, List.any_nil, Bool.or_false,
    shown_intercalate hcomps, String.ofList_toList, hglob, Bool.false_or]
  rw [matchesDirectory_directoryText hne hnames, htext, slashed_infix_iff _ _ hlast, hmap]
  · exact List.forall_mem_map.2 fun name hname => (hnames name hname).no_slash
  · exact List.forall_mem_map.2 fun comp hcomp => (hcomps comp (List.mem_of_mem_dropLast hcomp)).no_slash

/-- **Directory exclusions mean whole directories.** However many such exclusions there are, with one or more names
each, a path is excluded exactly if the names of one of them follow one another among its components before the last: no
part of a name counts, and a file of that name does not. The order of the exclusions and their repetition do not
matter. -/
theorem isMatch_directories {patterns : List (List String)}
    (hpatterns : ∀ names ∈ patterns, names ≠ [] ∧ ∀ name ∈ names, IsPlain name)
    (hcomps : ∀ comp ∈ comps, IsComponent comp) :
    ((ofTexts (patterns.map directoryText)).isMatch (.ofString ("/".intercalate comps)) = true ↔
      ∃ names ∈ patterns, names <:+: comps.dropLast) ∧
    ∀ texts, (∀ t, t ∈ texts ↔ t ∈ patterns.map directoryText) →
      (ofTexts texts).isMatch (.ofString ("/".intercalate comps)) =
        (ofTexts (patterns.map directoryText)).isMatch (.ofString ("/".intercalate comps)) := by
  refine ⟨?_, fun texts h => isMatch_congr h _⟩
  rw [isMatch_eq_any, List.any_map, List.any_eq_true]
  refine exists_congr fun names => and_congr_right fun hnames => ?_
  exact isMatch_directory (hpatterns names hnames).1 (hpatterns names hnames).2 hcomps

/-- The exclusions `build/` and `gen/out/`. -/
theorem isMatch_directories_nested :
    (ofTexts ["build/", "gen/out/"]).isMatch (.ofString "app/gen/out/Main.java") = true ∧
      (ofTexts ["gen/out/", "build/", "build/"]).isMatch (.ofString "app/gen/out/Main.java") = true ∧
      (ofTexts ["build/", "gen/out/"]).isMatch (.ofString "gen/build") = false := by
  have hpatterns : ∀ names ∈ [["build"], ["gen", "out"]], names ≠ [] ∧ ∀ name ∈ names, IsPlain name := by decide +kernel
  have hin := @isMatch_directories ["app", "gen", "out", "Main.java"] _ hpatterns (by decide +kernel)
  have hout := @isMatch_directories ["gen", "build"] _ hpatterns (by decide +kernel)
  have hmatch := hin.1.2 ⟨["gen", "out"], by decide, by decide⟩
  have htexts : ∀ t, t ∈ ["gen/out/", "build/", "build/"] ↔ t ∈ [["build"], ["gen", "out"]].map directoryText := by
    simp [directoryText, or_comm]
  refine ⟨hmatch, (hin.2 _ htexts).trans hmatch, eq_false_of_ne_true fun h => ?_⟩
  exact absurd (hout.1.1 h) (by decide)

end ExclusionSet

end Retarget
