import Retarget.Proofs.Passes

/-!
# Histories of registries

Whatever is done to a registry, in whatever order, its rules can be told from the actions alone: those it began with
and those that were accepted, in order, without the ones that a later action has removed. The numbers of rules made from
bare patterns count the accepted ones, and nothing else moves them.

* `Action`, `State.run`: actions one after another,
* `step_rules`, `step_customCount`, `step_refused`: what one action does to the rules and to the numbers,
* `run_rules`, `run_customCount`, `named_eq`: what a whole history does,
* `run_snapshots`: rules that were kept stay as they are,
* `run_history`: all this for a history that begins with a new registry,
* `without_unseen`: what the removal of rules does to conversions.
-/

namespace Retarget.Registry

/-! ## Actions -/

/-- What is done with a registry. -/
inductive Action
  | add (r : Rule)
  | addPattern (pattern template : String)
  /-- Go on with the registry that lacks the rules of some names. -/
  | without (names : List String)
  /-- Keep a list of the current rules. -/
  | list
  /-- Convert a text with the current rules. -/
  | convert (text : String)

/-- The current registry, and the lists of rules that have been kept on the way. -/
structure State where
  registry : Registry
  snapshots : List (List Rule) := []

namespace State

/-- One action. A pattern that is refused leaves all as it is, and so does a conversion. -/
def step (s : State) : Action → State
  | .add r => { s with registry := s.registry.add r }
  | .addPattern pattern template =>
    match s.registry.addPattern pattern template with
    | .ok reg => { s with registry := reg }
    | .error _ => s
  | .without names => { s with registry := s.registry.without names }
  | .list => { s with snapshots := s.snapshots ++ [s.registry.rules] }
  | .convert _ => s

/-- One action after another. -/
def run (s : State) (actions : List Action) : State := actions.foldl step s

/-- Convert a text with a list of rules that was kept before. -/
def convertWith (s : State) (snapshot : Nat) (text : String) : Option (Except EditError Conversion) :=
  s.snapshots[snapshot]?.map fun rules => Retarget.convert rules text

/-- The names of the rules that are made from bare patterns on the way, in the order in which they are accepted. -/
def named (s : State) : List Action → List String
  | [] => []
  | .addPattern pattern template :: rest =>
    match s.registry.addPattern pattern template with
    | .ok reg => (reg.rules.getLast?.map Rule.name).toList ++ (s.step (.addPattern pattern template)).named rest
    | .error _ => (s.step (.addPattern pattern template)).named rest
  | a :: rest => (s.step a).named rest

theorem run_cons (s : State) (a : Action) (rest : List Action) : s.run (a :: rest) = (s.step a).run rest := rfl

theorem run_append (s : State) (before after : List Action) : s.run (before ++ after) = (s.run before).run after :=
  List.foldl_append

end State

/-! ## What a history says by itself -/

/-- The name of the rule that is made from a bare pattern under a number. -/
def customName (number : Nat) : String := s!"custom_{number}"

theorem toList_customName (n : Nat) : (customName n).toList = "custom_".toList ++ Nat.toDigits 10 n := by
  rw [show customName n = "custom_" ++ toString n from rfl]
  simp

theorem customName_injective {i j : Nat} (h : customName i = customName j) : i = j := by
  have hlists := congrArg String.toList h
  rw [toList_customName, toList_customName, List.append_cancel_left_eq] at hlists
  have hdigits := congrArg (fun cs => Nat.ofDigitChars 10 cs 0) hlists
  simpa only [Nat.ofDigitChars_ten_toDigits] using hdigits

/-- Is a bare pattern accepted with its template? The number plays no part in it. -/
def accepts (pattern template : String) : Bool := (customText 0 pattern template).compile.isOk

/-- The rule that an action adds, when so many bare patterns have been accepted before. -/
def newRule (count : Nat) : Action → Option Rule
  | .add r => some r
  | .addPattern pattern template => (customText (count + 1) pattern template).compile.toOption
  | _ => none

/-- How many bare patterns are accepted in a history. -/
def accepted (actions : List Action) : Nat := actions.countP fun
  | .addPattern pattern template => accepts pattern template
  | _ => false

/-- Does a history remove the rules of a name? -/
def removes (actions : List Action) (name : String) : Bool := actions.any fun
  | .without names => names.contains name
  | _ => false

/-- The rules that a history adds, when so many bare patterns have been accepted before, without those that it removes
later on. -/
def additions : Nat → List Action → List Rule
  | _, [] => []
  | count, a :: rest =>
    ((newRule count a).toList.filter fun r => !removes rest r.name) ++ additions (count + accepted [a]) rest

/-! ## One action -/

/-- The name of a rule plays no part in the checks. -/
theorem compile_renamed (r : RuleText) (name : String) :
    RuleText.compile { r with name } = r.compile.map fun compiled => { compiled with name } := by
  obtain ⟨_, description, pattern, template⟩ := r
  simp only [RuleText.compile]
  split
  · rfl
  split
  · rfl
  cases Pattern.compile? pattern with
  | none => rfl
  | some compiled =>
    simp only
    cases Template.parse template compiled.groups <;> rfl

/-- A rule that is made from a bare pattern has its name from its number, and nothing else. -/
theorem compile_customText (number : Nat) (pattern template : String) :
    (customText number pattern template).compile =
      (customText 0 pattern template).compile.map fun r => { r with name := customName number } :=
  compile_renamed (customText 0 pattern template) (customName number)

/-- The rule of a pattern that is accepted is named after the number. -/
theorem compile_accepted (number : Nat) {pattern template : String} (h : accepts pattern template = true) :
    ∃ r, (customText number pattern template).compile = .ok r ∧ r.name = customName number := by
  rw [compile_customText]
  rw [accepts] at h
  cases hcompile : (customText 0 pattern template).compile with
  | error e =>
    rw [hcompile] at h
    cases h
  | ok r => exact ⟨_, rfl, rfl⟩

/-- There is no rule of a pattern that is refused, whatever the number. -/
theorem compile_refused (number : Nat) {pattern template : String} (h : accepts pattern template = false) :
    ∃ e, (customText number pattern template).compile = .error e := by
  rw [compile_customText]
  rw [accepts] at h
  cases hcompile : (customText 0 pattern template).compile with
  | error e => exact ⟨e, rfl⟩
  | ok r =>
    rw [hcompile] at h
    cases h

theorem addPattern_of_ok {reg : Registry} {pattern template : String} {r : Rule}
    (h : (customText (reg.customCount + 1) pattern template).compile = .ok r) :
    reg.addPattern pattern template = .ok ⟨reg.rules ++ [r], reg.customCount + 1⟩ := by
  rw [addPattern_eq, h]
  rfl

theorem addPattern_of_error {reg : Registry} {pattern template : String} {e : RuleError}
    (h : (customText (reg.customCount + 1) pattern template).compile = .error e) :
    reg.addPattern pattern template = .error e := by
  rw [addPattern_eq, h]
  rfl

namespace State

variable {s : State} {pattern template : String}

/-- A pattern that is refused leaves all as it is. -/
theorem step_refused (s : State) (h : accepts pattern template = false) :
    s.step (.addPattern pattern template) = s := by
  obtain ⟨e, he⟩ := compile_refused (s.registry.customCount + 1) h
  rw [step, addPattern_of_error he]

/-- A pattern that is accepted becomes the last rule, and takes the next number. -/
theorem step_accepted (s : State) (h : accepts pattern template = true) :
    ∃ r, (customText (s.registry.customCount + 1) pattern template).compile = .ok r ∧
      r.name = customName (s.registry.customCount + 1) ∧
      s.registry.addPattern pattern template = .ok ⟨s.registry.rules ++ [r], s.registry.customCount + 1⟩ ∧
      s.step (.addPattern pattern template) =
        { s with registry := ⟨s.registry.rules ++ [r], s.registry.customCount + 1⟩ } := by
  obtain ⟨r, hr, hname⟩ := compile_accepted (s.registry.customCount + 1) h
  exact ⟨r, hr, hname, addPattern_of_ok hr, by rw [step, addPattern_of_ok hr]⟩

/-- An action removes rules, or adds one at the end, or does neither. -/
theorem step_rules (s : State) (a : Action) : (s.step a).registry.rules =
    (s.registry.rules.filter fun r => !removes [a] r.name) ++ (newRule s.registry.customCount a).toList := by
  cases a with
  | add r => simp [step, Registry.add, removes, newRule]
  | addPattern pattern template =>
    cases hacc : accepts pattern template with
    | true =>
      obtain ⟨r, hr, _, _, hstep⟩ := s.step_accepted hacc
      simp [hstep, removes, newRule, hr, Except.toOption]
    | false =>
      obtain ⟨e, he⟩ := compile_refused (s.registry.customCount + 1) hacc
      simp [s.step_refused hacc, removes, newRule, he, Except.toOption]
  | without names => simp [step, Registry.without, removes, newRule]
  | list => simp [step, removes, newRule]
  | convert text => simp [step, removes, newRule]

/-- An accepted pattern moves the numbers on by one, and nothing else does. -/
theorem step_customCount (s : State) (a : Action) :
    (s.step a).registry.customCount = s.registry.customCount + accepted [a] := by
  cases a with
  | addPattern pattern template =>
    cases hacc : accepts pattern template with
    | true =>
      obtain ⟨r, _, _, _, hstep⟩ := s.step_accepted hacc
      simp [hstep, accepted, hacc]
    | false => simp [s.step_refused hacc, accepted, hacc]
  | add r => rfl
  | without names => rfl
  | list => rfl
  | convert text => rfl

/-- Rules that were kept stay as they are, and others come after them. -/
theorem step_snapshots (s : State) (a : Action) : s.snapshots <+: (s.step a).snapshots := by
  cases a with
  | addPattern pattern template =>
    rw [step]
    split <;> exact List.prefix_refl _
  | list => exact List.prefix_append _ _
  | add r => exact List.prefix_refl _
  | without names => exact List.prefix_refl _
  | convert text => exact List.prefix_refl _

/-! ## Whole histories -/

theorem accepted_cons (a : Action) (rest : List Action) : accepted (a :: rest) = accepted [a] + accepted rest := by
  rw [accepted, accepted, accepted, ← List.countP_append]
  rfl

theorem removes_cons (a : Action) (rest : List Action) (name : String) :
    removes (a :: rest) name = (removes [a] name || removes rest name) := by
  simp [removes]

/-- The rules after a history: those before it and those added on the way, without the removed ones. -/
theorem run_rules (s : State) (actions : List Action) : (s.run actions).registry.rules =
    (s.registry.rules.filter fun r => !removes actions r.name) ++ additions s.registry.customCount actions := by
  induction actions generalizing s with
  | nil => simp [run, removes, additions]
  | cons a rest ih =>
    rw [run_cons, ih, step_rules, step_customCount, List.filter_append, List.filter_filter, List.append_assoc,
      additions]
    congr 2
    funext r
    rw [removes_cons a rest, Bool.not_or, Bool.and_comm]

theorem run_customCount (s : State) (actions : List Action) :
    (s.run actions).registry.customCount = s.registry.customCount + accepted actions := by
  induction actions generalizing s with
  | nil => rfl
  | cons a rest ih =>
    rw [run_cons, ih, step_customCount, accepted_cons a rest, Nat.add_assoc]

theorem run_snapshots (s : State) (actions : List Action) : s.snapshots <+: (s.run actions).snapshots := by
  induction actions generalizing s with
  | nil => exact List.prefix_refl _
  | cons a rest ih => exact (s.step_snapshots a).trans (ih (s.step a))

/-- The rules made from bare patterns are numbered through. -/
theorem named_eq (s : State) (actions : List Action) : s.named actions =
    (List.range (accepted actions)).map fun i => customName (s.registry.customCount + 1 + i) := by
  induction actions generalizing s with
  | nil => rfl
  | cons a rest ih =>
    have hrest := ih (s.step a)
    rw [step_customCount] at hrest
    rw [accepted_cons a rest]
    cases a with
    | addPattern pattern template =>
      cases hacc : accepts pattern template with
      | true =>
        obtain ⟨r, _, hname, hadd, _⟩ := s.step_accepted hacc
        have hone : accepted [.addPattern pattern template] = 1 := by simp [accepted, hacc]
        rw [named, hadd]
        simp only [List.getLast?_concat, Option.map_some, Option.toList_some, hname, hrest, hone]
        rw [Nat.add_comm 1, List.range_succ_eq_map, List.map_cons, List.map_map, List.singleton_append]
        refine congrArg₂ _ rfl (List.map_congr_left fun i _ => ?_)
        exact congrArg customName (by simp only [Nat.succ_eq_add_one]; omega)
      | false =>
        have hnone : accepted [.addPattern pattern template] = 0 := by simp [accepted, hacc]
        obtain ⟨e, he⟩ := compile_refused (s.registry.customCount + 1) hacc
        rw [named, addPattern_of_error he, hnone, Nat.zero_add]
        rwa [hnone, Nat.add_zero] at hrest
    | add r | without names | list | convert text =>
      rw [named, hrest]
      · simp [accepted]
      · simp

/-- Rules that were kept convert a text as they did. -/
theorem convertWith_run {snapshot : Nat} (h : snapshot < s.snapshots.length) (actions : List Action) (text : String) :
    (s.run actions).convertWith snapshot text = s.convertWith snapshot text := by
  obtain ⟨later, hlater⟩ := s.run_snapshots actions
  rw [convertWith, convertWith, ← hlater, List.getElem?_append_left h]

end State

/-! ## Histories of new registries -/

/-- A registry that nothing has been done to. -/
inductive Fresh : Registry → Prop
  | empty : Fresh .empty
  | builtin : Fresh .builtin
  | ofRules (rules : List Rule) : Fresh (.ofRules rules)

theorem Fresh.customCount {reg : Registry} (h : reg.Fresh) : reg.customCount = 0 := by
  cases h <;> rfl

/-- The state that a history leads to. -/
def after (reg : Registry) (actions : List Action) : State := State.run ⟨reg, []⟩ actions

variable {reg : Registry}

/-- A bare pattern that comes up in a history is accepted as the last rule, named after the number of those accepted
before it. Or it is refused, and the history goes on as if it had not come up. -/
theorem after_addPattern (hfresh : reg.Fresh) (before rest : List Action) (pattern template : String) :
    if accepts pattern template then
      ∃ r, r.name = customName (accepted before + 1) ∧
        (reg.after before).registry.addPattern pattern template =
          .ok ⟨(reg.after before).registry.rules ++ [r], accepted before + 1⟩
    else
      (∃ e, (reg.after before).registry.addPattern pattern template = .error e) ∧
        reg.after (before ++ .addPattern pattern template :: rest) = reg.after (before ++ rest) := by
  have hcount : (reg.after before).registry.customCount = accepted before := by
    rw [after, State.run_customCount, hfresh.customCount, Nat.zero_add]
  split
  case isTrue hacc =>
    obtain ⟨r, _, hname, hadd, _⟩ := (reg.after before).step_accepted hacc
    rw [hcount] at hname hadd
    exact ⟨r, hname, hadd⟩
  case isFalse hacc =>
    rw [Bool.not_eq_true] at hacc
    constructor
    · obtain ⟨e, he⟩ := compile_refused ((reg.after before).registry.customCount + 1) hacc
      exact ⟨e, addPattern_of_error he⟩
    · rw [after, after, State.run_append, State.run_append]
      exact congrArg (State.run · rest) (State.step_refused _ hacc)

/-- A list of rules that is kept in a history converts texts as the rules did when it was made, whatever comes later. -/
theorem after_list (reg : Registry) (before rest : List Action) (text : String) :
    (reg.after (before ++ .list :: rest)).convertWith (reg.after before).snapshots.length text =
      some (convert (reg.after before).registry.rules text) := by
  have hkept : (reg.after before).snapshots.length < ((reg.after before).step .list).snapshots.length := by
    simp [State.step]
  rw [after, State.run_append]
  refine (State.convertWith_run hkept rest text).trans ?_
  simp [State.convertWith, State.step, after]

/-- **Histories of registries.** Whatever is done to a new registry:

* its rules are those it began with and then the accepted ones in order, without those removed later,
* the rules made from bare patterns are named by their count alone, so no two of them share a name,
* a bare pattern becomes the last rule, or is refused and changes nothing,
* rules that were kept convert every text as when they were kept, whatever is done later. -/
theorem run_history (hfresh : reg.Fresh) (actions : List Action) :
    ((reg.after actions).registry.rules =
      (reg.rules.filter fun r => !removes actions r.name) ++ additions 0 actions) ∧
    (State.named ⟨reg, []⟩ actions = (List.range (accepted actions)).map (fun i => customName (i + 1)) ∧
      (State.named ⟨reg, []⟩ actions).Nodup) ∧
    (∀ before pattern template rest, actions = before ++ .addPattern pattern template :: rest →
      if accepts pattern template then
        ∃ r, r.name = customName (accepted before + 1) ∧
          (reg.after before).registry.addPattern pattern template =
            .ok ⟨(reg.after before).registry.rules ++ [r], accepted before + 1⟩
      else
        (∃ e, (reg.after before).registry.addPattern pattern template = .error e) ∧
          reg.after actions = reg.after (before ++ rest)) ∧
    (∀ before rest, actions = before ++ .list :: rest → ∀ text,
      (reg.after actions).convertWith (reg.after before).snapshots.length text =
        some (convert (reg.after before).registry.rules text)) ∧
    ∀ before rest, actions = before ++ rest → ∀ snapshot < (reg.after before).snapshots.length, ∀ text,
      (reg.after actions).convertWith snapshot text = (reg.after before).convertWith snapshot text := by
  have hnamed : State.named ⟨reg, []⟩ actions =
      (List.range (accepted actions)).map fun i => customName (i + 1) := by
    rw [State.named_eq, hfresh.customCount]
    exact List.map_congr_left fun i _ => congrArg customName (by omega)
  refine ⟨?rules, ⟨hnamed, ?distinct⟩, ?patterns, ?kept, ?later⟩
  case rules => rw [after, State.run_rules, hfresh.customCount]
  case distinct =>
    rw [hnamed]
    exact List.nodup_range.map fun i j h => Nat.succ_injective (customName_injective h)
  case patterns =>
    rintro before pattern template rest rfl
    exact after_addPattern hfresh before rest pattern template
  case kept =>
    rintro before rest rfl text
    exact after_list reg before rest text
  case later =>
    rintro before rest rfl snapshot hsnapshot text
    rw [after, State.run_append]
    exact State.convertWith_run hsnapshot rest text

/-- A refused pattern takes no number, and the removal of a rule gives none back. -/
theorem run_history_numbers :
    let actions : List Action :=
      [.addPattern "(x" "y", .addPattern "x" "y", .without ["custom_1"], .list, .addPattern "y" "z"]
    Registry.empty.Fresh ∧ State.named ⟨.empty, []⟩ actions = ["custom_1", "custom_2"] ∧
      (Registry.empty.after actions).registry.rules.map Rule.name = ["custom_2"] := by
  intro actions
  obtain ⟨hrules, ⟨hnamed, _⟩, _⟩ := run_history Fresh.empty actions
  refine ⟨.empty, hnamed.trans (by decide +kernel), ?_⟩
  rw [hrules]
  decide +kernel

/-! ## Rules that are left out -/

theorem without_sublist (reg : Registry) (names : List String) : (reg.without names).rules.Sublist reg.rules :=
  List.filter_sublist

/-- All rules of a name are left, or none. -/
theorem filter_without (reg : Registry) (names : List String) (name : String) :
    (reg.without names).rules.filter (fun r => r.name == name) =
      if name ∈ names then [] else reg.rules.filter fun r => r.name == name := by
  rw [without, List.filter_filter]
  split
  case isTrue hmem =>
    refine List.filter_eq_nil_iff.2 fun r _ h => ?_
    simp only [Bool.and_eq_true, beq_iff_eq, Bool.not_eq_true', ← Bool.not_eq_true, List.contains_iff_mem] at h
    exact h.2 (h.1 ▸ hmem)
  case isFalse hmem =>
    refine List.filter_congr fun r _ => ?_
    by_cases hname : r.name = name
    · simp [hname, hmem]
    · simp [hname]

theorem convert_without {reg : Registry} {text : String} {c : Conversion} (names : List String)
    (h : Retarget.convert reg.rules text = .ok c) :
    Retarget.convert (reg.without names).rules text = .ok c ↔ ∀ x ∈ c.hits, x.rule ∉ names := by
  refine (convert_filter (fun name => !names.contains name) h).trans (forall₂_congr fun x _ => ?_)
  rw [Bool.not_eq_true', ← Bool.not_eq_true, List.contains_iff_mem]

/-- **Rules that do not match can be left out unseen.** Of a registry with any rules, some of which may share a name:

* a text is converted as before, with the same hits, exactly if none of the rules that matched is left out,
* the rules that are left stand in their order, all those of a name or none,
* the rules from before still convert every text as they did, whatever is done with the registry that lacks some. -/
theorem without_unseen (reg : Registry) (names : List String) :
    (∀ text, ∃ c, Retarget.convert reg.rules text = .ok c ∧
      (Retarget.convert (reg.without names).rules text = .ok c ↔ ∀ x ∈ c.hits, x.rule ∉ names)) ∧
    ((reg.without names).rules.Sublist reg.rules ∧
      ∀ name, (reg.without names).rules.filter (fun r => r.name == name) =
        if name ∈ names then [] else reg.rules.filter fun r => r.name == name) ∧
    ∀ later text, (reg.after (.list :: .without names :: later)).convertWith 0 text =
      some (Retarget.convert reg.rules text) := by
  refine ⟨fun text => ?unseen, ⟨reg.without_sublist names, reg.filter_without names⟩, fun later text => ?before⟩
  case unseen =>
    obtain ⟨c, hc⟩ := convert_total reg.rules text
    exact ⟨c, hc, convert_without names hc⟩
  case before => exact after_list reg [] (.without names :: later) text

end Retarget.Registry
