import Retarget.Proofs.Calls
import Retarget.Rule.Registry

/-!
# Scripts for the built-in rules

Most of the built-in rules replace one kind of call whose arguments are strings and numbers. Their patterns and
templates are told apart by a check (`orderly`) that is evaluated once for the whole catalogue (`catalogue_surveyed`): a
trigger begins at one place only in a call, what a template makes of it has none, and two rules differ in a character
after the trigger. So the built-in rules convert a script of such calls call by call (`convert_calls`), whatever order
the calls come in and whichever rules are disabled.
-/

namespace Retarget

open Pattern

namespace Call

/-- Words that calls of the built-in rules have in them. -/
def triggers : List String := ["PerfectoMobile", "driver.executeScript(\"mobile:", "com.perfectomobile."]

/-- A text without triggers. -/
def TriggerFree (text : String) : Prop := ∀ t ∈ triggers, ¬t.toList <:+: text.toList

/-- The built-in rules with arguments other than strings and numbers, or without arguments that end anywhere. -/
def otherRules : List String :=
  ["wait_element_displayed", "wait_element_enabled", "pinch", "set_location", "replace_imports"]

/-- A call of one of the built-in rules with strings and numbers as arguments: its text is a match of the rule as a
whole, and its arguments and the fragment after it have no triggers. -/
structure Valid (c : Call) : Prop where
  rule_mem : c.rule ∈ Rule.builtin
  rule_name : c.rule.name ∉ otherRules
  covers : ∃ notes, c.rule.pattern.node.Takes c.text.toList.toArray (0, []) (c.text.toList.length, notes) ∧
    c.span = c.rule.pattern.spanOf 0 (c.text.toList.length, notes)
  arguments : ∀ index s, Rule.groupText c.text.toList.toArray c.span (index + 1) = some s → TriggerFree s
  fragment : TriggerFree c.fragment

end Call

/-! ## Profiles of rules as written -/

namespace Profile

/-- The letters of a rule as written. -/
structure Spelling where
  name : List Char
  pattern : List Char
  template : List Char

/-- The letters are those of a rule. -/
structure Spelling.Of (r : RuleText) (e : Spelling) : Prop where
  name : r.name = String.ofList e.name
  pattern : r.pattern = String.ofList e.pattern
  template : r.template = String.ofList e.template

/-- The first item from which on every match has a trigger. -/
def hotIndex? (ts : List Trigger) (items : List Item) : Option Nat :=
  (List.range items.length).find? fun k => ts.any fun t => !t.letters.isEmpty && surely t.word (items.drop k)

/-- The node of a pattern, from its letters. -/
def nodeOf? (cs : List Char) : Option Node := do
  let s ← Reader.loop (cs.length + 1) ⟨false, 0, [], [], [], []⟩ cs
  if s.stack.isEmpty && s.close.depth ≤ depthLimit then Node.ofExpr? s.close else none

/-- The profile of a rule. -/
def ofSpelling? (ts : List Trigger) (e : Spelling) : Option Profile := do
  let node ← nodeOf? e.pattern
  let items ← node.items?
  let hot ← hotIndex? ts items
  let output ← (Template.pieces node.groups e.template).toOption
  some ⟨e.name, items, hot, node.groups, output⟩

theorem hotIndex?_spec {ts : List Trigger} {items : List Item} {k : Nat} (h : hotIndex? ts items = some k) :
    ∃ t ∈ ts, t.letters ≠ [] ∧ surely t.word (items.drop k) = true := by
  unfold hotIndex? at h
  have hfound := List.find?_some h
  obtain ⟨t, ht, hk⟩ := List.any_eq_true.1 hfound
  obtain ⟨hne, hsurely⟩ := Bool.and_eq_true_iff.1 hk
  exact ⟨t, ht, by simpa using hne, hsurely⟩

/-- A rule that is ready for use is made from what is written. -/
theorem compile_eq_ok {r : RuleText} {rule : Rule} (h : r.compile = .ok rule) :
    rule.name = r.name ∧ Pattern.compile? r.pattern = some rule.pattern ∧
      Template.parse r.template rule.pattern.groups = .ok rule.template := by
  unfold RuleText.compile at h
  split at h
  · cases h
  · split at h
    · cases h
    · split at h
      · cases h
      · next p hp =>
        split at h
        · cases h
        · next t ht =>
          cases h
          exact ⟨rfl, hp, ht⟩

theorem compile?_eq (source : String) : Pattern.compile? source = (nodeOf? source.toList).bind fun node =>
    if node.cost ≤ costLimit then some ⟨source, node, node.program, rfl⟩ else none := by
  simp only [Pattern.compile?, Expr.read?, nodeOf?, Option.bind_eq_bind]
  cases Reader.loop (source.toList.length + 1) ⟨false, 0, [], [], [], []⟩ source.toList with
  | none => rfl
  | some s =>
    simp only [Option.bind_some]
    split <;> rfl

theorem compile?_eq_some {source : String} {p : Pattern} (h : Pattern.compile? source = some p) :
    nodeOf? source.toList = some p.node := by
  rw [compile?_eq] at h
  obtain ⟨node, hnode, h⟩ := Option.bind_eq_some_iff.1 h
  split at h
  · cases h
    exact hnode
  · cases h

/-- A rule is made if its letters are accepted. -/
theorem compile_of_spelling {r : RuleText} {e : Spelling} (he : e.Of r) (hpattern : e.pattern.isEmpty = false)
    (htemplate : e.template.isEmpty = false) {node : Node} (hnode : nodeOf? e.pattern = some node)
    (hcost : node.cost ≤ costLimit) (hpieces : (Template.pieces node.groups e.template).toOption.isSome = true) :
    ∃ template, r.compile = .ok ⟨r.name, r.description, ⟨r.pattern, node, node.program, rfl⟩, template⟩ := by
  have hcompile : Pattern.compile? r.pattern = some ⟨r.pattern, node, node.program, rfl⟩ := by
    rw [compile?_eq, he.pattern, String.toList_ofList, hnode, Option.bind_some, if_pos hcost]
  obtain ⟨template, hparse⟩ : ∃ t, Template.parse r.template node.groups = .ok t := by
    cases hp : Template.pieces node.groups e.template with
    | error e => rw [hp] at hpieces; cases hpieces
    | ok pieces => exact ⟨_, Template.parse_eq_ok_iff.2 ⟨pieces, by rwa [he.template, String.toList_ofList], rfl⟩⟩
  have h₁ : r.pattern.isEmpty = false := by simpa [he.pattern] using hpattern
  have h₂ : r.template.isEmpty = false := by simpa [he.template] using htemplate
  refine ⟨template, ?_⟩
  rw [RuleText.compile, h₁, h₂, hcompile]
  simp only [Bool.false_eq_true, if_false]
  rw [show Template.parse r.template (Pattern.groups ⟨r.pattern, node, node.program, rfl⟩) = _ from hparse]

/-- Is a rule accepted, by its letters? -/
def accepted (e : Spelling) : Bool :=
  !e.pattern.isEmpty && !e.template.isEmpty && (nodeOf? e.pattern).any fun node =>
    decide (node.cost ≤ costLimit) && (Template.pieces node.groups e.template).toOption.isSome

theorem compile_of_accepted {r : RuleText} {e : Spelling} (he : e.Of r) (h : accepted e = true) :
    ∃ rule, r.compile = .ok rule := by
  simp only [accepted, Bool.and_eq_true, Bool.not_eq_true'] at h
  obtain ⟨⟨hpattern, htemplate⟩, hnode⟩ := h
  obtain ⟨node, hnode, hmade⟩ := (Option.any_eq_true _ _).1 hnode
  simp only [Bool.and_eq_true, decide_eq_true_eq] at hmade
  obtain ⟨template, hcompile⟩ := compile_of_spelling he hpattern htemplate hnode hmade.1 hmade.2
  exact ⟨_, hcompile⟩

/-- The profile computed from the letters of a rule is that of the rule. -/
theorem ofSpelling?_spec {ts : List Trigger} {r : RuleText} {e : Spelling} (he : e.Of r) {pf : Profile}
    (h : ofSpelling? ts e = some pf) {rule : Rule} (hrule : r.compile = .ok rule) : pf.Of ts rule := by
  obtain ⟨hname, hpattern, htemplate⟩ := compile_eq_ok hrule
  have hnode := compile?_eq_some hpattern
  obtain ⟨pieces, hpieces, hparsed⟩ := Template.parse_eq_ok_iff.1 htemplate
  have hsegments : rule.template.segments = Template.join [] pieces := congrArg Template.segments hparsed
  rw [he.pattern, String.toList_ofList] at hnode
  rw [he.template, String.toList_ofList] at hpieces
  simp only [ofSpelling?, hnode, Option.bind_eq_bind, Option.bind_some, Option.bind_eq_some_iff] at h
  obtain ⟨items, hitems, hot, hhot, output, houtput, hpf⟩ := h
  cases hpf
  have hgroups : Template.pieces rule.pattern.node.groups e.template = .ok pieces := hpieces
  rw [hgroups] at houtput
  cases houtput
  exact ⟨hname.trans he.name, hitems, rfl, hsegments, hotIndex?_spec hhot⟩

/-! ## The whole catalogue -/

/-- The triggers of the built-in rules, from their letters. The one with a colon counts where no blank follows, as calls
in the new form have a blank there. -/
def triggersOf (words : List (List Char)) : List Trigger :=
  (words.zip [[], [(CharSet.singleton ' ').compl], []]).map fun t => ⟨t.1, t.2⟩

/-- Do rules differ in their names, can each of them but some be told apart from all others after the trigger, and has
what they make of a call no trigger? -/
def orderly (ts : List Trigger) (others : List (List Char)) (pfs : List Profile) : Bool :=
  decide (pfs.map Profile.name).Nodup && pfs.all fun pf =>
    others.contains pf.name || (pf.converts ts && pfs.all fun qf => qf.name == pf.name || clash qf.core pf.core)

/-- The check for rules as written. -/
def orderlySpellings (words others : List (List Char)) (es : List Spelling) : Bool :=
  (es.mapM (ofSpelling? (triggersOf words))).any (orderly (triggersOf words) others)

/-- Letters of strings. -/
abbrev Letters : List String → List (List Char) → Prop := List.Forall₂ fun s cs => s = String.ofList cs

theorem Spelling.Of.cons {r : RuleText} {rs : List RuleText} {name pattern template : List Char} {es : List Spelling}
    (hname : r.name = String.ofList name) (hpattern : r.pattern = String.ofList pattern)
    (htemplate : r.template = String.ofList template) (h : List.Forall₂ Spelling.Of rs es) :
    List.Forall₂ Spelling.Of (r :: rs) (⟨name, pattern, template⟩ :: es) := .cons ⟨hname, hpattern, htemplate⟩ h

/-- What is known of rules as written. -/
def Surveyed (rs : List RuleText) : Prop :=
  ∃ words others es, Letters Call.triggers words ∧ Letters Call.otherRules others ∧
    List.Forall₂ Spelling.Of rs es ∧ orderlySpellings words others es = true

theorem surveyed {rs : List RuleText} {words others : List (List Char)} {es : List Spelling}
    (hwords : Letters Call.triggers words) (hothers : Letters Call.otherRules others)
    (hes : List.Forall₂ Spelling.Of rs es) (h : orderlySpellings words others es = true) : Surveyed rs :=
  ⟨words, others, es, hwords, hothers, hes, h⟩

set_option maxRecDepth 8000 in
/-- The built-in rules pass the check. -/
theorem catalogue_surveyed : Surveyed Rule.catalogue := by
  apply surveyed
  · exact .cons rfl (.cons rfl (.cons rfl .nil))
  · exact .cons rfl (.cons rfl (.cons rfl (.cons rfl (.cons rfl .nil))))
  -- the letters of all rules are read off the catalogue one rule after another
  · repeat' first | exact .nil | apply Spelling.Of.cons rfl rfl rfl
  · decide +kernel

/-- A profile of what a rule as written is made into. -/
structure Describes (ts : List Trigger) (r : RuleText) (pf : Profile) : Prop where
  name : r.name = String.ofList pf.name
  of : ∀ rule, r.compile = .ok rule → pf.Of ts rule

/-- The profiles that are computed for rules describe them. -/
theorem describes_of_mapM {ts : List Trigger} {rs : List RuleText} {es : List Spelling}
    (hes : List.Forall₂ Spelling.Of rs es) {pfs : List Profile} (h : es.mapM (ofSpelling? ts) = some pfs) :
    List.Forall₂ (Describes ts) rs pfs := by
  induction hes generalizing pfs with
  | nil =>
    cases h
    exact .nil
  | @cons r e rs es he _ ih =>
    obtain ⟨pf, hpf, pfs, hpfs, rfl⟩ : ∃ pf, ofSpelling? ts e = some pf ∧ ∃ rest,
        es.mapM (ofSpelling? ts) = some rest ∧ pf :: rest = pfs := by
      simpa [List.mapM_cons, Option.bind_eq_some_iff] using h
    have hname : pf.name = e.name := by
      simp only [ofSpelling?, Option.bind_eq_bind, Option.bind_eq_some_iff] at hpf
      obtain ⟨_, _, _, _, _, _, _, _, hpf⟩ := hpf
      cases hpf
      rfl
    exact .cons ⟨hname ▸ he.name, fun _ hrule => ofSpelling?_spec he hpf hrule⟩ (ih hpfs)

theorem mem_of_forall₂ {α β : Type} {R : α → β → Prop} {xs : List α} {ys : List β} (h : List.Forall₂ R xs ys) {x : α}
    (hx : x ∈ xs) : ∃ y ∈ ys, R x y := by
  induction h with
  | nil => cases hx
  | cons hr _ ih =>
    rcases List.mem_cons.1 hx with rfl | hx
    · exact ⟨_, List.mem_cons_self, hr⟩
    · obtain ⟨y, hy, hr⟩ := ih hx
      exact ⟨y, List.mem_cons_of_mem _ hy, hr⟩

theorem Letters.eq {ss : List String} {css : List (List Char)} (h : Letters ss css) : ss = css.map String.ofList := by
  induction h with
  | nil => rfl
  | cons h _ ih => rw [h, ih, List.map_cons]

/-- A text without trigger words. -/
theorem free_of_triggerFree {words : List (List Char)} (hwords : Letters Call.triggers words) {text : String}
    (h : Call.TriggerFree text) : Free (triggersOf words) text.toList := by
  intro t ht
  obtain ⟨⟨w, after⟩, hw, rfl⟩ := List.mem_map.1 ht
  have hmem : String.ofList w ∈ Call.triggers := by
    rw [hwords.eq]
    exact List.mem_map_of_mem (List.of_mem_zip hw).1
  simpa using h _ hmem

theorem mem_builtin_of_compile {r : RuleText} {rule : Rule} (hr : r ∈ Rule.catalogue) (h : r.compile = .ok rule) :
    rule ∈ Rule.builtin := List.mem_filterMap.2 ⟨r, hr, by rw [h]; rfl⟩

theorem mem_builtin {rule : Rule} (h : rule ∈ Rule.builtin) : ∃ r ∈ Rule.catalogue, r.compile = .ok rule := by
  obtain ⟨r, hr, hcompile⟩ := List.mem_filterMap.1 h
  refine ⟨r, hr, ?_⟩
  cases hc : r.compile with
  | error e =>
    rw [hc] at hcompile
    cases hcompile
  | ok rule' =>
    rw [hc] at hcompile
    cases hcompile
    rfl

variable {ts : List Trigger} {pfs : List Profile}

theorem exists_profile (h : List.Forall₂ (Describes ts) Rule.catalogue pfs) {rule : Rule}
    (hrule : rule ∈ Rule.builtin) : ∃ pf ∈ pfs, pf.Of ts rule := by
  obtain ⟨r, hr, hcompile⟩ := mem_builtin hrule
  obtain ⟨pf, hpf, hdescribes⟩ := mem_of_forall₂ h hr
  exact ⟨pf, hpf, hdescribes.of rule hcompile⟩

theorem names_eq {rs : List RuleText} (h : List.Forall₂ (Describes ts) rs pfs) :
    rs.map RuleText.name = (pfs.map Profile.name).map String.ofList := by
  induction h with
  | nil => rfl
  | cons h _ ih => rw [List.map_cons, List.map_cons, List.map_cons, h.name, ih]

/-- Rules that are made from rules with different names have different names. -/
theorem nodup_builtin_names (h : (Rule.catalogue.map RuleText.name).Nodup) : (Rule.builtin.map Rule.name).Nodup := by
  rw [List.Nodup, List.pairwise_map] at h ⊢
  refine h.filterMap _ fun r r' hne rule hrule rule' hrule' => ?_
  have hname : ∀ (r : RuleText) rule, r.compile.toOption = some rule → rule.name = r.name := by
    intro r rule hrule
    cases hc : r.compile with
    | error e =>
      rw [hc] at hrule
      cases hrule
    | ok rule' =>
      rw [hc] at hrule
      cases hrule
      exact (compile_eq_ok hc).1
  rwa [hname r rule hrule, hname r' rule' hrule']

/-- What the check of the catalogue says of the built-in rules. -/
theorem exists_profiles : ∃ (ts : List Trigger) (pf : Rule → Profile),
    (∀ text, Call.TriggerFree text → Free ts text.toList) ∧ (∀ r ∈ Rule.builtin, (pf r).Of ts r) ∧
      (∀ r ∈ Rule.builtin, r.name ∉ Call.otherRules → (pf r).Converts ts ∧
        ∀ q ∈ Rule.builtin, r.name ≠ q.name → clash (pf q).core (pf r).core = true) ∧
      (Rule.builtin.map Rule.name).Nodup := by
  obtain ⟨words, others, es, hwords, hothers, hes, h⟩ := catalogue_surveyed
  obtain ⟨pfs, hpfs, hcheck⟩ := (Option.any_eq_true _ _).1 h
  have hdescribes := describes_of_mapM hes hpfs
  choose! pf hmem hof using fun r (hr : r ∈ Rule.builtin) => exists_profile hdescribes hr
  simp only [orderly, Bool.and_eq_true, decide_eq_true_eq, List.all_eq_true, Bool.or_eq_true, beq_iff_eq,
    List.contains_iff_mem] at hcheck
  obtain ⟨hnodup, hall⟩ := hcheck
  refine ⟨_, pf, fun text => free_of_triggerFree hwords, hof, fun r hr hname => ?_, ?_⟩
  · rcases hall (pf r) (hmem r hr) with hother | ⟨hconverts, hclash⟩
    · refine absurd ?_ hname
      rw [(hof r hr).name, hothers.eq]
      exact List.mem_map_of_mem hother
    · refine ⟨converts_spec hconverts, fun q hq hne => ?_⟩
      rcases hclash (pf q) (hmem q hq) with hsame | hclash
      · rw [(hof r hr).name, (hof q hq).name, hsame] at hne
        exact absurd rfl hne
      · exact hclash
  · refine nodup_builtin_names ?_
    rw [names_eq hdescribes]
    exact hnodup.map fun _ _ h => String.ofList_injective h

end Profile

/-! ## Scripts of calls -/

namespace Call

variable {ts : List Trigger} {pf : Rule → Profile} {c : Call}

/-- A valid call falls into pieces. -/
theorem Valid.exists_pieces (h : c.Valid) (hof : (pf c.rule).Of ts c.rule) (hconverts : (pf c.rule).Converts ts)
    (hfree : ∀ text, TriggerFree text → Free ts text.toList) : ∃ ps, c.Sound ts pf ps := by
  obtain ⟨notes, htakes, hspan⟩ := h.covers
  obtain ⟨ps, hps, hpre, hmark⟩ := (Node.takes_iff hof.items).1 htakes
  simp only [Nat.zero_add, List.append_nil, Prod.mk.injEq, List.drop_zero] at hmark hpre
  obtain ⟨hlen, rfl⟩ := hmark
  have htext : c.text.toList = ps.flatten := (hpre.eq_of_length hlen.symm).symm
  rw [hlen] at hspan
  -- what the groups capture are the arguments
  have hgroups := Rule.groupText_spanOf (p := c.rule.pattern) hps
    (show ps.flatten <+: c.text.toList.toArray.toList.drop 0 by simp [htext])
  rw [Nat.zero_add, ← hspan, hof.groups] at hgroups
  refine ⟨ps, hof, hconverts, Profile.tame_of_captured hps hconverts.nodup fun index hindex xs hxs => ?_, htext, hspan,
    hfree _ h.fragment⟩
  obtain ⟨hpos, hle⟩ := hconverts.indices index hindex
  obtain ⟨k, rfl⟩ := Nat.exists_eq_succ_of_ne_zero hpos.ne'
  have hargument : Rule.groupText c.text.toList.toArray c.span (k + 1) = some (String.ofList xs) := by
    rw [hgroups, Rule.groupOf, if_pos (by omega), hxs]
    rfl
  simpa using hfree _ (h.arguments k _ hargument)

/-- The built-in rules but the disabled ones convert a script of calls call by call: each call of an enabled rule
becomes what its own template makes of it, all else stays, the enabled rules are reported with the numbers of their
calls, and converting the result changes nothing. -/
theorem convert_calls (disabled : List String) (head : String) (calls : List Call) (hhead : TriggerFree head)
    (hcalls : ∀ c ∈ calls, c.Valid) :
    let enabled := (Registry.builtin.without disabled).rules
    convert enabled (script [] head calls) =
        .ok ⟨script (enabled.map Rule.name) head calls, hits calls enabled⟩ ∧
      convert enabled (script (enabled.map Rule.name) head calls) =
        .ok ⟨script (enabled.map Rule.name) head calls, []⟩ := by
  obtain ⟨ts, pf, hfree, hof, hordinary, hnodup⟩ := Profile.exists_profiles
  have hmem : ∀ r ∈ (Registry.builtin.without disabled).rules, r ∈ Rule.builtin := fun r hr =>
    (List.mem_filter.1 hr).1
  have hpieces : ∀ c ∈ calls, ∃ ps, c.Sound ts pf ps := fun c hc =>
    have h := hcalls c hc
    h.exists_pieces (hof _ h.rule_mem) (hordinary _ h.rule_mem h.rule_name).1 hfree
  choose! pieces hsound using hpieces
  refine convert_script (fun r hr => hof r (hmem r hr)) (hfree head hhead) hsound (fun r hr c hc => ?_) ?_
  · have h := hcalls c hc
    refine ⟨fun hname => ?_, fun hne => (hordinary _ h.rule_mem h.rule_name).2 r (hmem r hr) hne⟩
    exact List.inj_on_of_nodup_map hnodup h.rule_mem (hmem r hr) hname
  · exact hnodup.sublist (List.filter_sublist.map Rule.name)

/-! ### A call -/

/-- A short text has no triggers. -/
theorem triggerFree_of_length {text : String} (h : text.toList.length < 14) : TriggerFree text := by
  intro t ht hinfix
  have hlen := hinfix.length_le
  simp only [triggers, List.mem_cons, List.not_mem_nil, or_false] at ht
  rcases ht with rfl | rfl | rfl <;> simp at hlen <;> omega

theorem captured_mem {index : Nat} {items : List Item} {ps : List (List Char)} {xs : List Char}
    (h : captured index items ps = some xs) : xs ∈ ps := by
  fun_induction captured index items ps with
  | case1 i items ys ps ih =>
    rcases Option.or_eq_some_iff.1 h with h | ⟨_, h⟩
    · exact List.mem_cons_of_mem _ (ih h)
    · split at h
      · cases h
        exact List.mem_cons_self
      · cases h
  | case2 => cases h

/-- Is a rule accepted, and do pieces fit its pattern, by its letters? -/
def fitsRule (e : Profile.Spelling) (ps : List (List Char)) : Bool :=
  !e.pattern.isEmpty && !e.template.isEmpty && (Profile.nodeOf? e.pattern).any fun node =>
    decide (node.cost ≤ costLimit) && (Template.pieces node.groups e.template).toOption.isSome &&
      node.items?.any fun items => decide (Fits items ps)

/-- A text in short pieces that fit the items of a built-in rule is a valid call. -/
theorem exists_valid {r : RuleText} {e : Profile.Spelling} {ps : List (List Char)} (hr : r ∈ Rule.catalogue)
    (he : e.Of r) (hname : r.name ∉ otherRules) (hfits : fitsRule e ps = true) (hshort : ∀ xs ∈ ps, xs.length < 14) :
    ∃ rule span, (Call.mk rule (String.ofList ps.flatten) span "").Valid := by
  simp only [fitsRule, Bool.and_eq_true, Bool.not_eq_true'] at hfits
  obtain ⟨⟨hpattern, htemplate⟩, hfits⟩ := hfits
  obtain ⟨node, hnode, hfits⟩ := (Option.any_eq_true _ _).1 hfits
  simp only [Bool.and_eq_true, decide_eq_true_eq] at hfits
  obtain ⟨⟨hcost, hpieces⟩, hfits⟩ := hfits
  obtain ⟨items, hitems, hps⟩ := (Option.any_eq_true _ _).1 hfits
  have hps : Fits items ps := of_decide_eq_true hps
  obtain ⟨template, hrule⟩ := Profile.compile_of_spelling he hpattern htemplate hnode hcost hpieces
  -- its pattern takes the text
  have hpre : ps.flatten <+: (String.ofList ps.flatten).toList.toArray.toList.drop 0 := by simp
  have htakes : node.Takes (String.ofList ps.flatten).toList.toArray (0, [])
      (0 + ps.flatten.length, noted 0 items ps ++ []) := (Node.takes_iff hitems).2 ⟨ps, hps, hpre, rfl⟩
  have hgroups := Rule.groupText_spanOf (p := ⟨r.pattern, node, node.program, rfl⟩) hps hpre
  refine ⟨_, Pattern.spanOf ⟨r.pattern, node, node.program, rfl⟩ 0 (ps.flatten.length, noted 0 items ps),
    Profile.mem_builtin_of_compile hr hrule, hname,
    ⟨noted 0 items ps, by simpa using htakes, by simp⟩, fun index text htext => ?_, triggerFree_of_length (by simp)⟩
  simp only [String.toList_ofList, Nat.zero_add] at htext hgroups
  rw [hgroups, Rule.groupOf] at htext
  split at htext
  · obtain ⟨xs, hxs, rfl⟩ := Option.map_eq_some_iff.1 htext
    exact triggerFree_of_length (by simpa using hshort xs (captured_mem hxs))
  · cases htext

set_option maxRecDepth 8000 in
theorem convert_calls_open_url : ∃ c : Call,
    c.text = "driver.executeScript(\"mobile:browser:open\", \x7b\"url\": \"a.b\"\x7d)" ∧ c.Valid ∧
      let enabled := (Registry.builtin.without ["tap"]).rules
      convert enabled (script [] "go: " [c]) = .ok ⟨script (enabled.map Rule.name) "go: " [c], hits [c] enabled⟩ ∧
        convert enabled (script (enabled.map Rule.name) "go: " [c]) =
          .ok ⟨script (enabled.map Rule.name) "go: " [c], []⟩ := by
  let pieces : List (List Char) :=
    "driver.executeScript(\"mobile:browser:open\",".toList.map ([·]) ++ [[' '], ['\x7b'], []] ++
      "\"url\":".toList.map ([·]) ++ [[' '], ['"'], ['a', '.', 'b'], ['"'], [], ['\x7d'], [')']]
  have hshort : ∀ xs ∈ pieces, xs.length < 14 := by decide +kernel
  have hr : ∀ r ∈ Rule.Catalogue.browser, r ∈ Rule.catalogue := by
    intro r hr
    unfold Rule.catalogue
    iterate 10 apply List.mem_append_left
    exact List.mem_append_right _ hr
  obtain ⟨rule, span, hvalid⟩ := exists_valid (hr _ List.mem_cons_self) (e := ⟨_, _, _⟩) ⟨rfl, rfl, rfl⟩
    (by decide +kernel) (by decide +kernel) hshort
  refine ⟨_, ?_, hvalid, convert_calls ["tap"] "go: " [_] (triggerFree_of_length (by decide +kernel)) ?_⟩
  · show String.ofList pieces.flatten = _
    decide +kernel
  · rintro c hc
    rw [List.mem_singleton.1 hc]
    exact hvalid

end Call

end Retarget
