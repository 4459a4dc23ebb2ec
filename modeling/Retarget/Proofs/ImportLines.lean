import Mathlib.Data.List.DropRight
import Retarget.Proofs.BuiltinCalls
import Retarget.Proofs.Rewriting

/-!
# Imports are replaced line by line

The built-in rule for imports has a pattern with white space in it, which may go over the end of a line, and searches
the whole text. Still it works on every line by itself: what it finds ends on the line where it begins, unless the line
ends with `import` and white space.

* `cut_line`: no import goes over the end of such a line,
* `Replaces.import_cases`: what becomes of a line by itself,
* `Profile.exists_imports`: the rule replaces imports, as it is written,
* `Rule.apply_importLines`: the rule makes of lines what it makes of each of them.
-/

namespace Retarget

open Pattern

/-! ## Imports and lines -/

/-- An import of something below `com.perfectomobile`. Anything but a line break may stand for its name. -/
def IsImport (xs : List Char) : Prop :=
  ∃ blanks name, xs = "import".toList ++ blanks ++ "com.perfectomobile.".toList ++ name ++ [';'] ∧
    (blanks ≠ [] ∧ ∀ c ∈ blanks, Unicode.isBlank c = true) ∧ (name ≠ [] ∧ '\n' ∉ name)

/-- A line that does not end with `import`, once the white space at its end is removed. -/
structure IsLine (text : String) : Prop where
  unbroken : '\n' ∉ text.toList
  ending : ¬"import".toList <:+ text.toList.rdropWhile Unicode.isBlank

/-- An import in a line: it begins at the first place where one does, and goes up to the last semicolon. -/
structure ImportAt (before imp after : List Char) : Prop where
  isImport : IsImport imp
  first : ∀ v, v <:+ before → v ≠ [] → Wordless IsImport (v ++ (imp ++ after))
  last : ';' ∉ after

/-- What becomes of a line: nothing is changed if it holds no import, and else the block stands for one import. -/
inductive ImportLine (block line : String) : Rule.Applied → Prop
  | unchanged (h : ∀ imp, IsImport imp → ¬imp <:+: line.toList) : ImportLine block line ⟨line, 0⟩
  | replaced {before imp after : List Char} (h : ImportAt before imp after)
      (hline : line.toList = before ++ imp ++ after) :
      ImportLine block line ⟨String.ofList before ++ block ++ String.ofList after, 1⟩

theorem not_isImport_nil : ¬IsImport [] := by
  rintro ⟨blanks, name, he, _⟩
  simp at he

/-- No import begins with a line break. -/
theorem wordless_break (cs : List Char) : Wordless IsImport ('\n' :: cs) := by
  rintro _ ⟨blanks, name, rfl, _⟩ hpre
  simp at hpre

theorem IsImport.semicolon_mem {xs : List Char} (h : IsImport xs) : ';' ∈ xs := by
  obtain ⟨blanks, name, rfl, _⟩ := h
  simp

/-- What ends with a semicolon on the same line is an import, too. -/
theorem IsImport.append {xs ys : List Char} (h : IsImport xs) (hys : '\n' ∉ ys) : IsImport (xs ++ ys ++ [';']) := by
  obtain ⟨blanks, name, rfl, hblanks, _, hname⟩ := h
  exact ⟨blanks, name ++ [';'] ++ ys, by simp, hblanks, by simp, by simp [hname, hys]⟩

/-! ## The end of a line -/

/-- Every character but the line break. -/
def unbroken : CharSet := .compl ⟨[(10, 10)]⟩

theorem unbroken_contains {c : Char} : unbroken.contains c = true ↔ c ≠ '\n' := by
  have hranges : unbroken.ranges = [(0, 9), (11, 0xD7FF), (0xE000, 0x10FFFF)] := by decide
  have hvalid : c.toNat < 0xD800 ∨ 0xDFFF < c.toNat ∧ c.toNat < 0x110000 := c.valid
  have hbreak : c = '\n' ↔ c.toNat = 10 := by rw [← Char.toNat_inj]; rfl
  simp only [CharSet.contains, CharSet.containsCode, hranges, CharSet.inRanges, ne_eq, hbreak]
  grind

theorem allIn_unbroken {xs : List Char} : AllIn unbroken xs ↔ '\n' ∉ xs := by
  simp only [AllIn, unbroken_contains]
  exact ⟨fun h hmem => h _ hmem rfl, fun h x hx he => h (he ▸ hx)⟩

/-- Two texts up to their first line breaks. -/
theorem append_break_inj {xs ys cs ds : List Char} (hxs : '\n' ∉ xs) (hys : '\n' ∉ ys)
    (h : xs ++ '\n' :: cs = ys ++ '\n' :: ds) : xs = ys :=
  have hleaves : ∀ cs, Leaves unbroken ('\n' :: cs) := fun cs => ⟨'\n', cs, rfl, by decide⟩
  (run_unique (allIn_unbroken.2 hxs) (allIn_unbroken.2 hys) (hleaves cs) (hleaves ds) h).1

/-- The first line break of an import stands in its white space. -/
theorem IsImport.before_break {xs cs : List Char} (h : IsImport (xs ++ '\n' :: cs)) (hxs : '\n' ∉ xs) :
    ∃ blanks, xs = "import".toList ++ blanks ∧ ∀ c ∈ blanks, Unicode.isBlank c = true := by
  obtain ⟨blanks, name, he, ⟨_, hblank⟩, _, hname⟩ := h
  have hmem : '\n' ∈ blanks := by
    have hmem : '\n' ∈ xs ++ '\n' :: cs := by simp
    rw [he] at hmem
    simpa [hname] using hmem
  obtain ⟨as, bs, rfl, has⟩ := List.eq_append_cons_of_mem hmem
  have hsplit : xs ++ '\n' :: cs =
      ("import".toList ++ as) ++ '\n' :: (bs ++ "com.perfectomobile.".toList ++ name ++ [';']) := by simpa using he
  exact ⟨as, append_break_inj hxs (by simpa using has) hsplit, fun c hc => hblank c (by simp [hc])⟩

/-- No import goes over the end of a line. -/
theorem cut_line {line : String} (h : IsLine line) (ys : List Char) : Cut IsImport line.toList ('\n' :: ys) := by
  intro v hv _ ws hws hpre
  have hbreak : '\n' ∉ v := fun hmem => h.unbroken (hv.subset hmem)
  have hpre' : v ++ ['\n'] <+: v ++ '\n' :: ys := ⟨ys, by simp⟩
  have hnot : ¬v ++ ['\n'] <+: ws := by
    rintro ⟨cs, rfl⟩
    rw [List.append_assoc] at hws
    obtain ⟨blanks, rfl, hblanks⟩ := hws.before_break hbreak
    obtain ⟨u, hu⟩ := hv
    refine h.ending ⟨u, ?_⟩
    -- the white space after `import` is at the end of the line
    rw [← hu, ← List.append_assoc, List.rdropWhile, List.reverse_append,
      List.dropWhile_append_of_pos (by simpa using hblanks)]
    have hletter : Unicode.isBlank 't' = false := by decide
    simp [hletter]
  rcases List.prefix_or_prefix_of_prefix hpre hpre' with hshort | hlong
  · rcases List.prefix_concat_iff.1 hshort with rfl | hshort
    · exact absurd List.prefix_rfl hnot
    · exact hshort
  · exact absurd hlong hnot

/-! ## One line -/

/-- What becomes of a text without line breaks. -/
theorem Replaces.import_cases {block cs out : List Char} {k : Nat} (h : Replaces IsImport block cs out k)
    (hbreak : '\n' ∉ cs) :
    (out = cs ∧ k = 0 ∧ ∀ imp, IsImport imp → ¬imp <:+: cs) ∨
      ∃ before imp after, ImportAt before imp after ∧ cs = before ++ imp ++ after ∧
        out = before ++ block ++ after ∧ k = 1 := by
  induction h with
  | nil =>
    refine .inl ⟨rfl, rfl, fun imp himp hin => not_isImport_nil ?_⟩
    rwa [← List.infix_nil.1 hin]
  | @keep c cs out k hc _ ih =>
    rcases ih fun hmem => hbreak (List.mem_cons_of_mem c hmem) with ⟨rfl, rfl, hnone⟩ | hone
    · refine .inl ⟨rfl, rfl, fun imp himp hin => ?_⟩
      rcases List.infix_cons_iff.1 hin with hpre | hin
      · exact hc imp himp hpre
      · exact hnone imp himp hin
    · obtain ⟨before, imp, after, hat, rfl, rfl, rfl⟩ := hone
      refine .inr ⟨c :: before, imp, after, ⟨hat.isImport, fun v hv hne => ?_, hat.last⟩, rfl, rfl, rfl⟩
      rcases List.suffix_cons_iff.1 hv with rfl | hv
      · simpa using hc
      · exact hat.first v hv hne
  | @swap xs cs out k hl _ ih =>
    -- a semicolon after the import would be part of it
    have hlast : ';' ∉ cs := by
      intro hmem
      obtain ⟨as, bs, rfl⟩ := List.append_of_mem hmem
      have has : '\n' ∉ as := fun h => hbreak (by simp [h])
      have hlonger := hl.longest _ (hl.word.append has) ⟨bs, by simp⟩
      simp only [List.length_append, List.length_singleton] at hlonger
      omega
    have hfirst : ImportAt [] xs cs := ⟨hl.word, fun v hv hne => absurd (List.suffix_nil.1 hv) hne, hlast⟩
    rcases ih fun hmem => hbreak (List.mem_append_right xs hmem) with ⟨hout, rfl, _⟩ | hone
    · exact .inr ⟨[], xs, cs, hfirst, rfl, by rw [hout, List.nil_append], rfl⟩
    · obtain ⟨before, imp, after, hat, rfl, _⟩ := hone
      exact absurd (by simp [hat.isImport.semicolon_mem]) hlast

/-! ## The rule -/

/-- The items of the pattern for imports. -/
def importItems : List Item :=
  spelled "import".toList ++ [.several Unicode.blank] ++ spelled "com.perfectomobile.".toList ++ [.several unbroken] ++
    spelled [';']

/-- The pattern for imports fits imports. -/
theorem language_importItems (xs : List Char) : Language importItems xs ↔ IsImport xs := by
  simp only [importItems, language_append, language_spelled, language_singleton, Item.Fits, allIn_unbroken]
  constructor
  · rintro ⟨_, _, ⟨_, name, ⟨_, _, ⟨_, blanks, rfl, hblanks, rfl⟩, rfl, rfl⟩, hname, rfl⟩, rfl, rfl⟩
    exact ⟨blanks, name, rfl, hblanks, hname⟩
  · rintro ⟨blanks, name, rfl, hblanks, hname⟩
    exact ⟨_, _, ⟨_, name, ⟨_, _, ⟨_, blanks, rfl, hblanks, rfl⟩, rfl, rfl⟩, hname, rfl⟩, rfl, rfl⟩

namespace Profile

/-- Is a rule accepted, has it the pattern for imports, and no reference in its template, by its letters? -/
def importsSpelling (e : Spelling) : Bool :=
  accepted e && (nodeOf? e.pattern).any fun node => decide (node.items? = some importItems) &&
    node.greedyBefore [] && decide ((Template.pieces node.groups e.template).toOption = some (e.template.map .char))

/-- A rule that passes the check replaces imports by its template. -/
theorem exists_imports {r : RuleText} {e : Spelling} (he : e.Of r) (h : importsSpelling e = true) :
    ∃ rule, r.compile = .ok rule ∧ rule.Swaps IsImport r.template.toList := by
  obtain ⟨haccepted, hchecks⟩ := Bool.and_eq_true_iff.1 h
  obtain ⟨node, hnode, hchecks⟩ := (Option.any_eq_true _ _).1 hchecks
  simp only [Bool.and_eq_true, decide_eq_true_eq] at hchecks
  obtain ⟨⟨hitems, hgreedy⟩, hpieces⟩ := hchecks
  obtain ⟨rule, hcompile⟩ := compile_of_accepted he haccepted
  obtain ⟨_, hpattern, htemplate⟩ := compile_eq_ok hcompile
  have hrule := compile?_eq_some hpattern
  rw [he.pattern, String.toList_ofList, hnode] at hrule
  obtain ⟨pieces, hparsed, ht⟩ := Template.parse_eq_ok_iff.1 htemplate
  rw [he.template, String.toList_ofList, Pattern.groups, ← Option.some.inj hrule] at hparsed
  rw [hparsed] at hpieces
  cases hpieces
  refine ⟨rule, hcompile, ⟨fun text i j => ?_, Option.some.inj hrule ▸ hgreedy, not_isImport_nil, fun groups => ?_⟩⟩
  · rw [← Option.some.inj hrule, Node.takes_language hitems]
    simp only [language_importItems]
  · rw [Template.expand_of_chars (congrArg Template.segments ht), he.template, String.toList_ofList]

set_option maxRecDepth 8000 in
/-- The rule for imports as written. -/
theorem mem_catalogue_imports : ∃ r ∈ Rule.catalogue, r.name = "replace_imports" ∧
    ∃ rule, r.compile = .ok rule ∧ rule.Swaps IsImport r.template.toList := by
  have hr : ∀ r ∈ Rule.Catalogue.imports, r ∈ Rule.catalogue := fun r hr => List.mem_append_right _ hr
  refine ⟨_, hr _ List.mem_cons_self, rfl, exists_imports (e := ⟨_, _, _⟩) ⟨rfl, rfl, rfl⟩ ?_⟩
  decide +kernel

end Profile

namespace Rule

/-- What a rule that replaces imports makes of a line. -/
theorem Swaps.apply_line {r : Rule} {block : String} (h : r.Swaps IsImport block.toList) {line : String}
    (hbreak : '\n' ∉ line.toList) : ∃ a, r.apply line = .ok a ∧ ImportLine block line a ∧
      Replaces IsImport block.toList line.toList a.text.toList a.replacements := by
  obtain ⟨out, k, happly, hreplaces⟩ := h.apply line
  refine ⟨_, happly, ?_, by simpa using hreplaces⟩
  rcases hreplaces.import_cases hbreak with ⟨rfl, rfl, hnone⟩ | ⟨before, imp, after, hat, hline, rfl, rfl⟩
  · rw [String.ofList_toList]
    exact .unchanged hnone
  · rw [String.ofList_append, String.ofList_append, String.ofList_toList]
    exact .replaced hat hline

/-- A rule that replaces imports makes of lines what it makes of each of them. -/
theorem Swaps.apply_lines {r : Rule} {block : String} (h : r.Swaps IsImport block.toList) {lines : List String}
    (hlines : ∀ l ∈ lines, IsLine l) : ∃ results : List Applied,
      List.Forall₂ (fun l a => r.apply l = .ok a ∧ ImportLine block l a) lines results ∧
        r.apply ("\n".intercalate lines) =
          .ok ⟨"\n".intercalate (results.map Applied.text), (results.map Applied.replacements).sum⟩ := by
  have : Nonempty Applied := ⟨⟨"", 0⟩⟩
  choose! result happly himport hreplaces using fun l (hl : l ∈ lines) => h.apply_line (hlines l hl).unbroken
  refine ⟨lines.map result, ?_, ?_⟩
  · rw [List.forall₂_map_right_iff, List.forall₂_same]
    exact fun l hl => ⟨happly l hl, himport l hl⟩
  have hjoined := Replaces.intercalate not_isImport_nil wordless_break hreplaces fun l hl => cut_line (hlines l hl)
  obtain ⟨out, k, hout, hreplaced⟩ := h.apply ("\n".intercalate lines)
  rw [String.toList_intercalate] at hreplaced
  obtain ⟨rfl, rfl⟩ := hreplaced.unique not_isImport_nil hjoined
  rw [hout, List.map_map, List.map_map]
  congr 2
  rw [← String.toList_inj, String.toList_ofList, String.toList_intercalate, List.map_map]
  rfl

/-- The built-in rule for imports works on every line by itself: for lines that do not end with `import`, the result for
the lines as one text is made of the results for each of them, and the counts add up. So a line without an import stays
whatever its neighbours are, and on a line with one the block stands once. -/
theorem apply_importLines : ∃ t ∈ catalogue, ∃ r ∈ builtin, t.name = "replace_imports" ∧ t.compile = .ok r ∧
    (∀ q ∈ builtin, q.name = "replace_imports" → q = r) ∧
      ∀ lines : List String, (∀ l ∈ lines, IsLine l) → ∃ results : List Applied,
        List.Forall₂ (fun l a => r.apply l = .ok a ∧ ImportLine t.template l a) lines results ∧
          r.apply ("\n".intercalate lines) =
            .ok ⟨"\n".intercalate (results.map Applied.text), (results.map Applied.replacements).sum⟩ := by
  obtain ⟨t, ht, hname, r, hcompile, hswaps⟩ := Profile.mem_catalogue_imports
  obtain ⟨_, _, _, _, _, hnodup⟩ := Profile.exists_profiles
  have hr := Profile.mem_builtin_of_compile ht hcompile
  have hrname : r.name = "replace_imports" := (Profile.compile_eq_ok hcompile).1.trans hname
  refine ⟨t, ht, r, hr, hname, hcompile, fun q hq hqname => ?_, fun lines hlines => hswaps.apply_lines hlines⟩
  exact List.inj_on_of_nodup_map hnodup hq hr (hqname.trans hrname.symm)

/-- Three lines, two of them with imports. -/
theorem apply_importLines_neighbours :
    let lines := ["package tests;", "import com.perfectomobile.a.B;", "import\tcom.perfectomobile.c.D; // c; d"]
    (∀ l ∈ lines, IsLine l) ∧ ∃ t ∈ catalogue, ∃ r ∈ builtin, t.name = "replace_imports" ∧ t.compile = .ok r ∧
      ∃ results : List Applied,
        List.Forall₂ (fun l a => r.apply l = .ok a ∧ ImportLine t.template l a) lines results ∧
          r.apply ("\n".intercalate lines) =
            .ok ⟨"\n".intercalate (results.map Applied.text), (results.map Applied.replacements).sum⟩ := by
  intro lines
  have hlines : ∀ l ∈ lines, IsLine l := by
    simp only [lines, List.forall_mem_cons]
    exact ⟨⟨by decide +kernel, by decide +kernel⟩, ⟨by decide +kernel, by decide +kernel⟩,
      ⟨by decide +kernel, by decide +kernel⟩, List.forall_mem_nil _⟩
  obtain ⟨t, ht, r, hr, hname, hcompile, _, h⟩ := apply_importLines
  exact ⟨hlines, t, ht, r, hr, hname, hcompile, h lines hlines⟩

end Rule

end Retarget
