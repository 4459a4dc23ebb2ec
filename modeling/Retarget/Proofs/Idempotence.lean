import Retarget.Proofs.BuiltinCalls

/-!
# Rules that have nothing left to do

A rule is idempotent if it finds no match in what it has made of a text. The gaps between the matches hold none, as the
matches are those of searches from left to right. So it remains that no match lies across the border of a gap and of
what the template has made: none begins in the latter (`Profile.Converts`), and none goes on from a gap into it, as
nothing that is left of a match after its first character can begin as the template does (`inert`).

* `not_begins_of_inert`: the last condition, computed from the items of a pattern,
* `Rule.weave_matchless`: there is no match in the result of a pass,
* `Rule.apply_idempotent`: ten of the built-in rules are idempotent on every text.
-/

namespace Retarget

namespace Pattern

/-! ## Matches across a border -/

/-- A text begins with a match. -/
def Matches (items : List Item) (xs : List Char) : Prop := ∃ ps, Fits items ps ∧ ps.flatten <+: xs

theorem Node.takes_matches {n : Node} {items : List Item} (h : n.items? = some items) {text : Array Char} {i : Nat} :
    (∃ b, n.Takes text (i, []) b) ↔ Matches items (text.toList.drop i) := by
  constructor
  · rintro ⟨b, hb⟩
    obtain ⟨ps, hps, hpre, _⟩ := (Node.takes_iff h).1 hb
    exact ⟨ps, hps, hpre⟩
  · rintro ⟨ps, hps, hpre⟩
    exact ⟨_, (Node.takes_iff h).2 ⟨ps, hps, hpre, rfl⟩⟩

/-- No match begins at any place of a text. -/
def Matchless (items : List Item) (xs : List Char) : Prop := ∀ v, v <:+ xs → ¬Matches items v

theorem Matchless.append {items : List Item} {xs ys : List Char} (h : Matchless items ys)
    (hxs : ∀ w, w <:+ xs → w ≠ [] → ¬Matches items (w ++ ys)) : Matchless items (xs ++ ys) := by
  rintro v ⟨u, hu⟩
  rcases List.append_eq_append_iff.1 hu with ⟨as, hu', rfl⟩ | ⟨bs, rfl, hrest⟩
  · by_cases hnil : as = []
    · subst hnil
      exact h ys List.suffix_rfl
    · exact hxs as ⟨u, hu'.symm⟩ hnil
  · exact h v ⟨bs, hrest.symm⟩

/-- Can nothing that is left of a match after its first character begin with the word? -/
def inert (w : Word) : List Item → Bool
  | [] => true
  | i :: items =>
    (match i with
      | .char _ => true
      | .any s | .several s | .group _ s => !mayBegin w (.any s :: items)) &&
      (items.isEmpty || !mayBegin w items) && inert w items

theorem not_begins_of_inert {w : Word} {items : List Item} (h : inert w items = true) {ps : List (List Char)}
    (hp : Fits items ps) {u v : List Char} (he : ps.flatten = u ++ v) (hu : u ≠ []) (hv : v ≠ []) (B : List Char) :
    ¬Begins w (v ++ B) := by
  induction hp generalizing u with
  | nil => exact absurd (List.append_eq_nil_iff.1 he.symm).2 hv
  | @cons i xs items ps hx hps ih =>
    simp only [inert, Bool.and_eq_true] at h
    obtain ⟨⟨hrun, hnext⟩, hlater⟩ := h
    -- the match is cut after the piece
    have hborder : ps.flatten = v → ¬Begins w (v ++ B) := by
      rintro rfl hb
      have hitems : items.isEmpty = false := by
        cases hps with
        | nil => exact absurd rfl hv
        | cons => rfl
      rw [hitems, mayBegin_spec hps hb] at hnext
      cases hnext
    rw [List.flatten_cons] at he
    rcases List.append_eq_append_iff.1 he with ⟨as, rfl, hrest⟩ | ⟨bs, hxs, rfl⟩
    · by_cases has : as = []
      · subst has
        exact hborder hrest
      · exact ih hlater hrest has
    by_cases hbs : bs = []
    · subst hbs
      exact hborder rfl
    -- the match is cut inside of the piece, which is a run then
    intro hb
    rw [List.append_assoc, ← List.append_assoc, ← List.flatten_cons] at hb
    have hin : ∀ s, AllIn s xs → mayBegin w (.any s :: items) = true := by
      intro s hs
      have hrest : Item.Fits (.any s) bs := fun x hx => hs x (hxs ▸ List.mem_append_right u hx)
      exact mayBegin_spec (List.Forall₂.cons hrest hps) hb
    cases i with
    | char s =>
      obtain ⟨c, rfl, _⟩ := hx
      rcases List.singleton_eq_append_iff.1 hxs with ⟨rfl, _⟩ | ⟨_, rfl⟩
      · exact hu rfl
      · exact hbs rfl
    | any s => simp [hin s hx] at hrun
    | several s | group _ s => simp [hin s hx.2] at hrun

end Pattern

open Pattern

variable {ts : List Trigger} {pf : Profile}

/-! ## What is asked of a rule -/

namespace Profile

/-- Does the set of a group lack a letter of each trigger? -/
def plainGroup (ts : List Trigger) : Item → Bool
  | .group _ s => ts.all fun t => t.letters.any fun c => !s.contains c
  | _ => true

/-- Do all matches begin with a trigger, do the groups capture none, and is nothing left of a match that begins as the
template does? -/
def rests (ts : List Trigger) (pf : Profile) : Bool :=
  pf.hot == 0 && pf.items.all (plainGroup ts) && match pf.output.mapM pf.outputItem? with
    | some (.char s :: .char t :: _) => inert [s, t] pf.items
    | _ => false

/-- What `rests` checks. -/
structure Rests (ts : List Trigger) (pf : Profile) : Prop where
  hot : pf.hot = 0
  tame : ∀ ps, Fits pf.items ps → List.Forall₂ (Tame ts) pf.items ps
  inert : ∃ w, inert w pf.items = true ∧
    ∀ ps, List.Forall₂ (Tame ts) pf.items ps → ∀ B, Begins w (pf.made ps ++ B)

/-- A piece of a group that lacks letters of all triggers has none of them. -/
theorem free_of_plainGroup {index : Nat} {s : CharSet} (h : plainGroup ts (.group index s) = true) {xs : List Char}
    (hxs : AllIn s xs) : Free ts xs := by
  intro t ht hin
  obtain ⟨c, hc, hnot⟩ := List.any_eq_true.1 (List.all_eq_true.1 h t ht)
  rw [hxs c (hin.subset hc)] at hnot
  cases hnot

theorem rests_spec (h : pf.rests ts = true) : pf.Rests ts := by
  simp only [rests, Bool.and_eq_true, beq_iff_eq] at h
  obtain ⟨⟨hhot, hgroups⟩, hinert⟩ := h
  refine ⟨hhot, fun ps hps => ?_, ?_⟩
  · rw [List.all_eq_true] at hgroups
    refine List.forall₂_iff_zip.2 ⟨hps.length_eq, fun {i xs} hmem => ?_⟩
    have hfits := (List.forall₂_iff_zip.1 hps).2 hmem
    refine ⟨hfits, fun index s hi => ?_⟩
    subst hi
    exact free_of_plainGroup (hgroups _ (List.of_mem_zip hmem).1) hfits.2
  · split at hinert
    · next s t items hmap =>
      refine ⟨_, hinert, fun ps hps B => ?_⟩
      obtain ⟨_, _, ⟨⟨c, rfl, hc⟩, _⟩, hrest, hout⟩ := List.forall₂_cons_left_iff.1 (tame_output hps hmap)
      obtain ⟨_, _, ⟨⟨d, rfl, hd⟩, _⟩, _, rfl⟩ := List.forall₂_cons_left_iff.1 hrest
      rw [made, hout]
      exact ⟨hc, hd, trivial⟩
    · cases hinert

end Profile

/-! ## The result of a pass -/

namespace Rule

variable {r : Rule} {text : Array Char}

/-- A match begins with a trigger, so it is not empty. -/
theorem hot_of_matches (hof : pf.Of ts r) (hhot : pf.hot = 0) {xs : List Char} (h : Matches pf.items xs) :
    xs ≠ [] ∧ Hot ts xs := by
  obtain ⟨ps, hps, rest, rfl⟩ := h
  simpa [hhot] using hof.hot_core hps rest

/-- A match that is found is given by the pieces of its text, and the template is filled in with them. -/
theorem find?_pieces (hof : pf.Of ts r) (hhot : pf.hot = 0) {start : Nat} {m : Span}
    (h : r.pattern.find? text start = some m) : m.start < m.stop ∧
      ∃ ps, Fits pf.items ps ∧ (r.template.expand (groupText text m)).toList = pf.made ps := by
  obtain ⟨b, hb, hm⟩ := find?_spanOf h
  obtain ⟨ps, hps, hpre, rfl⟩ := (Node.takes_iff hof.items).1 hb
  have hne : ps.flatten ≠ [] := (hot_of_matches hof hhot ⟨ps, hps, List.prefix_rfl⟩).1
  refine ⟨?_, ps, hps, ?_⟩
  · have := List.length_pos_iff.2 hne
    rw [hm]
    simp only [spanOf]
    omega
  · rw [hm, List.append_nil, groupText_spanOf hps hpre, hof.groups, hof.toList_expand]

/-- No match begins where a search finds none. -/
theorem tail_matchless (hof : pf.Of ts r) (hhot : pf.hot = 0) {start : Nat} (h : r.pattern.find? text start = none) :
    Matchless pf.items (text.toList.drop start) := by
  rintro v ⟨u, hu⟩ hmatch
  have hne := (hot_of_matches hof hhot hmatch).1
  have hv : v = text.toList.drop (start + u.length) := by rw [← List.drop_drop, ← hu, List.drop_left]
  rw [hv, ← Node.takes_matches hof.items] at hmatch
  obtain ⟨b, hb⟩ := hmatch
  refine find?_eq_none h (start + u.length) (by omega) ?_ b hb
  by_contra hlt
  rw [List.drop_eq_nil_of_le (by simpa using Nat.le_of_not_le hlt)] at hv
  exact hne hv

/-- No match begins in what the template has made. -/
theorem made_matchless (hof : pf.Of ts r) (hconverts : pf.Converts ts) (hrests : pf.Rests ts) {ps : List (List Char)}
    (hps : Fits pf.items ps) {rest : List Char} (h : Matchless pf.items rest) :
    Matchless pf.items (pf.made ps ++ rest) := by
  refine h.append fun w hw hne hmatch => ?_
  obtain ⟨u, hu⟩ := hw
  have hhot := (hot_of_matches hof hrests.hot hmatch).2
  exact hne ((hconverts.made_cold (hrests.tame ps hps)).2 u w rest (by rw [List.append_nil, hu]) hne hhot).2

/-- No match begins in the gap before a match that is found, to go on in what the template has made or to end before
it. -/
theorem gap_matchless (hof : pf.Of ts r) (hrests : pf.Rests ts) {start : Nat} {m : Span}
    (h : r.pattern.find? text start = some m) {ps : List (List Char)} (hps : Fits pf.items ps) {rest : List Char}
    (hrest : Matchless pf.items (pf.made ps ++ rest)) :
    Matchless pf.items ((text.toList.drop start).take (m.start - start) ++ (pf.made ps ++ rest)) := by
  refine hrest.append fun w hw hne => ?_
  obtain ⟨u, hu⟩ := hw
  obtain ⟨hle, _, hfirst⟩ := find?_eq_some h
  obtain ⟨hgap, hlen⟩ := drop_gap hle hu.symm
  have hpos := List.length_pos_iff.2 hne
  rintro ⟨qs, hqs, tail, htail⟩
  have hinside : ∀ cs, w ≠ qs.flatten ++ cs := by
    intro cs hcs
    have hmatch : Matches pf.items (text.toList.drop (start + u.length)) := by
      rw [hgap, hcs, List.append_assoc]
      exact ⟨qs, hqs, List.prefix_append _ _⟩
    obtain ⟨b, hb⟩ := (Node.takes_matches hof.items).2 hmatch
    exact hfirst (start + u.length) (by omega) (by omega) b hb
  rcases List.append_eq_append_iff.1 htail with ⟨cs, hcs, _⟩ | ⟨x, hx, hcut⟩
  · exact hinside cs hcs
  by_cases hnil : x = []
  · subst hnil
    exact hinside [] (by simpa using hx.symm)
  · obtain ⟨begin, hinert, hbegins⟩ := hrests.inert
    have hnot := not_begins_of_inert hinert hqs hx hne hnil tail
    rw [← hcut] at hnot
    exact hnot (hbegins ps (hrests.tame ps hps) _)

/-- No match begins in the result of a pass: not in the gaps, which the searches have gone through, not in what the
template has made, and not in a gap to go on in what comes after it. -/
theorem weave_matchless (hof : pf.Of ts r) (hconverts : pf.Converts ts) (hrests : pf.Rests ts) {start : Nat}
    {afterMatch : Bool} {ms : List Span} (h : Scan r.pattern text start afterMatch ms) :
    Matchless pf.items (r.weave text start ms) := by
  have hfindNext : ∀ start afterMatch, r.pattern.findNext? text start afterMatch = r.pattern.find? text start :=
    fun start afterMatch => findNext?_eq_find? fun m hm => (find?_pieces hof hrests.hot hm).1
  induction h with
  | none h => exact tail_matchless hof hrests.hot (hfindNext .. ▸ h)
  | empty h hempty =>
    rw [hfindNext] at h
    have := (find?_pieces hof hrests.hot h).1
    omega
  | other h _ _ ih =>
    rw [hfindNext] at h
    obtain ⟨_, ps, hps, hexpand⟩ := find?_pieces hof hrests.hot h
    rw [weave, hexpand, List.append_assoc]
    exact gap_matchless hof hrests h hps (made_matchless hof hconverts hrests hps ih)

/-- What a rule has made of a text has no match. -/
theorem apply_twice (hof : pf.Of ts r) (hconverts : pf.Converts ts) (hrests : pf.Rests ts) (text : String) :
    ∃ applied, r.apply text = .ok applied ∧ r.edits applied.text = [] ∧
      r.apply applied.text = .ok ⟨applied.text, 0⟩ := by
  have hscan := scan_allMatches r.pattern text.toList.toArray
  refine ⟨_, r.apply_eq text, ?_⟩
  generalize hwoven : r.weave text.toList.toArray 0 (r.pattern.allMatches text.toList.toArray) = woven
  have hnone : r.pattern.allMatches woven.toArray = [] := by
    refine scan_eq (scan_allMatches r.pattern _) ⟨by simp, .nil, fun i b _ hb => ?_⟩
    have hmatch := (Node.takes_matches hof.items).1 ⟨b, hb⟩
    have hmatchless := weave_matchless hof hconverts hrests hscan
    rw [hwoven] at hmatchless
    exact absurd hmatch (hmatchless _ (List.drop_suffix i woven))
  have hedits : r.edits (String.ofList woven) = [] := by
    rw [edits, String.toList_ofList, hnone]
    rfl
  refine ⟨hedits, ?_⟩
  rw [apply, hedits]

end Rule

/-! ## Built-in rules -/

/-- The built-in rules that capture numbers or nothing. -/
def Rule.numericRules : List String :=
  ["unlock_device", "reboot_device", "screenshot", "open_notifications", "lock_device", "background_app", "tap",
    "long_press", "double_tap", "swipe_coordinates"]

namespace Profile

/-- Is a rule accepted, and has it nothing to do on its own results, by its letters? -/
def restsSpelling (ts : List Trigger) (e : Spelling) : Bool :=
  accepted e && (ofSpelling? ts e).any fun pf => pf.converts ts && pf.rests ts

/-- Are there rules with some names that have nothing to do on their own results? -/
def restingSpellings (words names : List (List Char)) (es : List Spelling) : Bool :=
  names.all fun n => es.any fun e => e.name == n && restsSpelling (triggersOf words) e

/-- What is known of the names of rules. -/
def Resting (rs : List RuleText) (names : List String) : Prop :=
  ∃ words ns es, Letters Call.triggers words ∧ Letters names ns ∧ List.Forall₂ Spelling.Of rs es ∧
    restingSpellings words ns es = true

theorem resting {rs : List RuleText} {names : List String} {words ns : List (List Char)} {es : List Spelling}
    (hwords : Letters Call.triggers words) (hnames : Letters names ns) (hes : List.Forall₂ Spelling.Of rs es)
    (h : restingSpellings words ns es = true) : Resting rs names :=
  ⟨words, ns, es, hwords, hnames, hes, h⟩

set_option maxRecDepth 8000 in
/-- The rules that capture numbers or nothing pass the check. -/
theorem catalogue_resting : Resting Rule.catalogue Rule.numericRules := by
  apply resting
  · exact .cons rfl (.cons rfl (.cons rfl .nil))
  · exact .cons rfl (.cons rfl (.cons rfl (.cons rfl (.cons rfl (.cons rfl (.cons rfl (.cons rfl (.cons rfl
      (.cons rfl .nil)))))))))
  · repeat' first | exact .nil | apply Spelling.Of.cons rfl rfl rfl
  · decide +kernel

/-- A spelling of rules as written is that of one of them. -/
theorem Spelling.Of.of_mem {rs : List RuleText} {es : List Spelling} (h : List.Forall₂ Spelling.Of rs es) {e : Spelling}
    (he : e ∈ es) : ∃ r ∈ rs, e.Of r := by
  obtain ⟨r, hr, hof⟩ := mem_of_forall₂ h.flip he
  exact ⟨r, hr, hof⟩

/-- A spelling that passes the check is that of a built-in rule that has nothing to do on its own results. -/
theorem exists_resting {ts : List Trigger} {r : RuleText} {e : Spelling} (hr : r ∈ Rule.catalogue) (he : e.Of r)
    (h : restsSpelling ts e = true) :
    ∃ rule ∈ Rule.builtin, ∃ pf : Profile, rule.name = r.name ∧ pf.Of ts rule ∧ pf.Converts ts ∧ pf.Rests ts := by
  obtain ⟨haccepted, hprofile⟩ := Bool.and_eq_true_iff.1 h
  obtain ⟨pf, hpf, hchecks⟩ := (Option.any_eq_true _ _).1 hprofile
  obtain ⟨hconverts, hrests⟩ := Bool.and_eq_true_iff.1 hchecks
  obtain ⟨rule, hcompile⟩ := compile_of_accepted he haccepted
  exact ⟨rule, mem_builtin_of_compile hr hcompile, pf, (compile_eq_ok hcompile).1, ofSpelling?_spec he hpf hcompile,
    converts_spec hconverts, rests_spec hrests⟩

end Profile

namespace Rule

/-- Of each name of a rule that captures numbers or nothing there is one built-in rule, and it is idempotent: whatever
the text, with parts of calls, calls side by side or calls in calls anywhere, it finds no match in what it has made of
it and changes nothing. -/
theorem apply_idempotent : ∀ name ∈ numericRules, ∃ r ∈ builtin, r.name = name ∧
    (∀ q ∈ builtin, q.name = name → q = r) ∧ ∀ text, ∃ applied, r.apply text = .ok applied ∧ r.edits applied.text = [] ∧
      r.apply applied.text = .ok ⟨applied.text, 0⟩ := by
  intro name hname
  obtain ⟨words, ns, es, _, hnames, hes, hcheck⟩ := Profile.catalogue_resting
  obtain ⟨_, _, _, _, _, hnodup⟩ := Profile.exists_profiles
  rw [hnames.eq] at hname
  obtain ⟨n, hn, rfl⟩ := List.mem_map.1 hname
  obtain ⟨e, he, hrests⟩ := List.any_eq_true.1 (List.all_eq_true.1 hcheck n hn)
  obtain ⟨hen, hrests⟩ := Bool.and_eq_true_iff.1 hrests
  obtain ⟨r, hr, hof⟩ := Profile.Spelling.Of.of_mem hes he
  obtain ⟨rule, hrule, pf, hrulename, hpf, hconverts, hrests⟩ := Profile.exists_resting hr hof hrests
  have hname : rule.name = String.ofList n := by rw [hrulename, hof.name, eq_of_beq hen]
  refine ⟨rule, hrule, hname, fun q hq hqname => ?_, rule.apply_twice hpf hconverts hrests⟩
  exact List.inj_on_of_nodup_map hnodup hq hrule (hqname.trans hname.symm)

/-- A call in a call: the second one begins where the first one breaks off. -/
theorem apply_idempotent_nested : "reboot_device" ∈ numericRules ∧
    ∃ r ∈ builtin, r.name = "reboot_device" ∧ ∃ applied,
      r.apply "driver.executeScript(\"mobile:handset:driver.executeScript(\"mobile:handset:reboot\")reboot\")" =
        .ok applied ∧ r.edits applied.text = [] ∧ r.apply applied.text = .ok ⟨applied.text, 0⟩ := by
  have hname : "reboot_device" ∈ numericRules := by decide
  obtain ⟨r, hr, hrname, _, h⟩ := apply_idempotent "reboot_device" hname
  exact ⟨hname, r, hr, hrname, h _⟩

end Rule

end Retarget
