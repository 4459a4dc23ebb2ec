import Retarget.Command.Run
import Retarget.Proofs.RuleFolders

/-!
# The rules of a command

The active rules of a command come from the built-in ones, the settings and the options, in this order. All of them are
collected before the command does anything, so a path that gives no rules ends it with nothing done.

* `Job.Looks`: jobs that look at the disk and leave it as it is,
* `RuleFolder.load_looks`: loading rules is one of them,
* `Command.rulesAt`, `Command.sources`: the rules that a path gives, and the paths,
* `Command.registry_run`: what is collected from the paths, one after another,
* `Command.FailsOn`: tasks that fail with the disk as it is, `Command.execute_fails`: commands that do so without rules,
* `Command.registry_active`: the active rules of a command, and what becomes of it if some cannot be loaded.
-/

namespace Retarget

/-! ## Jobs that look only -/

namespace Job

variable {α β ε : Type}

/-- A job that leaves the disk as it is. What comes of it, and what it tells, depends on the disk only. -/
def Looks (job : Job α) : Prop :=
  ∃ (result : Disk → α) (us : Disk → List Utterance), ∀ w, job w = (result w.disk, w.saying (us w.disk))

namespace Looks

theorem ask (f : Disk → α) : (Job.ask f).Looks := ⟨f, fun _ => [], fun _ => rfl⟩

theorem pure (a : α) : Looks (Pure.pure a : Job α) := ⟨fun _ => a, fun _ => [], fun _ => rfl⟩

theorem bind {job : Job α} {f : α → Job β} (h : job.Looks) (hf : ∀ a, (f a).Looks) : (job >>= f).Looks := by
  obtain ⟨result, us, h⟩ := h
  choose result' us' hf using hf
  refine ⟨fun d => result' (result d) d, fun d => us d ++ us' (result d) d, fun w => ?_⟩
  rw [Job.bind_apply, h, hf, Workbench.saying_append]
  rfl

theorem look (f : Disk → α) : Looks (Job.look f : ExceptT ε Job α).run :=
  ⟨fun d => .ok (f d), fun _ => [], fun _ => rfl⟩

theorem orFail {ε' : Type} {job : Job (Except ε α)} (h : job.Looks) (f : ε → ε') : Looks (Job.orFail job f).run := by
  obtain ⟨result, us, h⟩ := h
  exact ⟨fun d => (result d).mapError f, us, fun w => by rw [Job.run_orFail, h]⟩

theorem lift {job : Job α} (h : job.Looks) : Looks (liftM job : ExceptT ε Job α).run := by
  obtain ⟨result, us, h⟩ := h
  exact ⟨fun d => .ok (result d), us, fun w => by rw [Job.run_lift, h]⟩

/-- A job that may fail, and what follows it. -/
theorem andThen {job : ExceptT ε Job α} {f : α → ExceptT ε Job β} (h : Looks job.run) (hf : ∀ a, Looks (f a).run) :
    Looks (job >>= f).run := by
  refine h.bind (f := ExceptT.bindCont f) fun result => ?_
  cases result with
  | error e => exact pure (Except.error e)
  | ok a => exact hf a

/-- What such a job gives can be found out at an empty journal. -/
theorem apply {job : Job α} (h : job.Looks) (w : Workbench) :
    ∃ us, job w = ((job { disk := w.disk }).1, w.saying us) := by
  obtain ⟨result, us, h⟩ := h
  exact ⟨us w.disk, by rw [h, h]⟩

theorem disk {job : Job α} (h : job.Looks) (w : Workbench) : (job w).2.disk = w.disk := by
  obtain ⟨us, h⟩ := h.apply w
  rw [h, Workbench.saying_disk]

end Looks

theorem lift_say (u : Utterance) (w : Workbench) :
    (liftM (say u) : ExceptT ε Job Unit).run w = (.ok (), w.saying [u]) := rfl

/-- Jobs that only say something, one after another, and what comes then. -/
theorem run_forM_saying {γ : Type} {f : γ → ExceptT ε Job Unit}
    (hf : ∀ x w, ∃ us, (f x).run w = (.ok (), w.saying us)) (g : Unit → ExceptT ε Job α) (xs : List γ) (w : Workbench)
    (us : List Utterance) : ∃ us', (xs.forM f >>= g).run (w.saying us) = (g ()).run (w.saying us') := by
  induction xs generalizing us with
  | nil => exact ⟨us, rfl⟩
  | cons x xs ih =>
    obtain ⟨us₁, hx⟩ := hf x (w.saying us)
    obtain ⟨us', hxs⟩ := ih (us ++ us₁)
    refine ⟨us', ?_⟩
    show ((f x >>= fun _ => xs.forM f) >>= g).run (w.saying us) = _
    rw [bind_assoc, run_bind, hx, ← Workbench.saying_append]
    exact hxs

end Job

open Job (Looks)

/-! ## Rules on a disk -/

namespace RuleFolder

theorem loadFile_looks (p : Path) : (loadFile p).Looks := by
  refine ⟨fun d => if RuleFile.isRuleFile p then RuleFile.added d p else [],
    fun d => if RuleFile.isRuleFile p then RuleFile.notices d p else [], fun w => ?_⟩
  rw [loadFile_apply]
  split <;> rfl

theorem loadMembers_looks {f : Path → ExceptT LoadError Job (List LoadedRule)} (hf : ∀ p, Looks (f p).run)
    (folder : Path) (names : List Name) : Looks (loadMembers f folder names).run := by
  induction names with
  | nil => exact .pure _
  | cons n names ih =>
    rw [loadMembers]
    refine .andThen (.look _) fun isFolder => ?_
    cases isFolder with
    | true => exact .andThen (hf _) fun rules => ih.andThen fun more => .pure _
    | false => exact .andThen (.lift (loadFile_looks _)) fun rules => ih.andThen fun more => .pure _

theorem loadFrom_looks (depth : Nat) (folder : Path) : Looks (loadFrom depth folder).run := by
  induction depth generalizing folder with
  | zero => exact .pure _
  | succ depth ih => exact .andThen (.orFail (.ask _) _) fun names => loadMembers_looks ih folder names

theorem load_looks (folder : Path) : Looks (load folder).run := by
  refine .andThen (.look _) fun isFolder => ?_
  cases isFolder with
  | true => exact loadFrom_looks _ folder
  | false => exact .pure _

end RuleFolder

namespace Command

/-- The rules that a path gives: those of a file, or those of all rule files of a directory. -/
def rulesAt (d : Disk) (p : Path) : Except LoadError (List LoadedRule) :=
  if d.isDirectory p then ((RuleFolder.load p).run { disk := d }).1 else RuleFile.load? d p

/-- The messages of a path that gives no rules. -/
def failure (p : Path) (e : LoadError) : List String := ("Failed to load rules from " ++ p.display) :: e.chain

theorem loadRules_run (p : Path) (w : Workbench) :
    ∃ us, (loadRules p).run w = ((rulesAt w.disk p).mapError (failure p), w.saying us) := by
  rw [loadRules, Job.run_bind, Job.run_look, rulesAt]
  simp only
  split
  · obtain ⟨us, hload⟩ := (RuleFolder.load_looks p).apply w
    exact ⟨us, by rw [inContext, Job.run_orFail, hload]; rfl⟩
  · refine ⟨[], ?_⟩
    rw [inContext, Job.run_orFail, Job.run_orFail, Job.ask_apply]
    cases RuleFile.load? w.disk p <;> rfl

theorem foldl_add (rules : List LoadedRule) (reg : Registry) : rules.foldl (fun reg r => reg.add r.rule) reg =
    ⟨reg.rules ++ rules.map LoadedRule.rule, reg.customCount⟩ := by
  induction rules generalizing reg with
  | nil => simp
  | cons r rules ih =>
    rw [List.foldl_cons, ih]
    simp [Registry.add]

theorem addRules_run (reg : Registry) (p : Path) (w : Workbench) :
    ∃ us, (addRules reg p).run w = ((rulesAt w.disk p).mapError (failure p) |>.map fun rules =>
      ⟨reg.rules ++ rules.map LoadedRule.rule, reg.customCount⟩, w.saying us) := by
  obtain ⟨us, hload⟩ := loadRules_run p w
  rw [addRules, Job.run_bind, hload]
  cases rulesAt w.disk p with
  | error e => exact ⟨us, rfl⟩
  | ok rules =>
    simp only [Except.mapError, Except.map, Job.notice, foldl_add]
    rw [Job.run_bind, Job.lift_say, ← Workbench.saying_append]
    exact Job.run_forM_saying (fun r w => ⟨_, Job.lift_say _ w⟩) _ rules w _

/-- A registry with the rules of some paths added, path after path, or the messages of the first path that gives
none. -/
def collected (d : Disk) (files : List Path) (reg : Registry) : Except (List String) Registry :=
  (files.mapM fun p => (rulesAt d p).mapError (failure p)).map fun lists =>
    ⟨reg.rules ++ lists.flatten.map LoadedRule.rule, reg.customCount⟩

theorem addAll_run (files : List Path) (reg : Registry) (w : Workbench) :
    ∃ us, (files.foldlM addRules reg).run w = (collected w.disk files reg, w.saying us) := by
  induction files generalizing reg w with
  | nil => exact ⟨[], by simp [collected, pure, Except.pure, Except.map]; rfl⟩
  | cons p files ih =>
    obtain ⟨us, hadd⟩ := addRules_run reg p w
    rw [List.foldlM_cons, Job.run_bind, hadd, collected, List.mapM_cons]
    cases rulesAt w.disk p with
    | error e => exact ⟨us, rfl⟩
    | ok rules =>
      obtain ⟨us', hrest⟩ := ih ⟨reg.rules ++ rules.map LoadedRule.rule, reg.customCount⟩ (w.saying us)
      refine ⟨us ++ us', hrest.trans ?_⟩
      rw [collected, Workbench.saying_append, Workbench.saying_disk]
      cases files.mapM fun p => (rulesAt w.disk p).mapError (failure p) with
      | error messages => rfl
      | ok lists => simp [Except.map, Except.mapError, bind, Except.bind, pure, Except.pure]

/-- All paths give rules, or one is the first that does not. -/
theorem collected_cases (d : Disk) (files : List Path) (reg : Registry) :
    (∃ lists, List.Forall₂ (fun p rules => rulesAt d p = .ok rules) files lists ∧
      collected d files reg = .ok ⟨reg.rules ++ lists.flatten.map LoadedRule.rule, reg.customCount⟩) ∨
    ∃ before p after e, files = before ++ p :: after ∧ (∀ q ∈ before, ∃ rules, rulesAt d q = .ok rules) ∧
      rulesAt d p = .error e ∧ collected d files reg = .error (failure p e) := by
  have hok : ∀ p rules, (rulesAt d p).mapError (failure p) = .ok rules → rulesAt d p = .ok rules := by
    intro p rules h
    cases hp : rulesAt d p with
    | error e => rw [hp] at h; cases h
    | ok found => rw [hp] at h; cases h; rfl
  rcases mapM_cases (fun p => (rulesAt d p).mapError (failure p)) files with
    ⟨lists, hlists, hall⟩ | ⟨before, p, after, messages, hfiles, hbefore, hp, hfails⟩
  · exact .inl ⟨lists, hall.imp fun p rules => hok p rules, by rw [collected, hlists]; rfl⟩
  · cases he : rulesAt d p with
    | ok rules => rw [he] at hp; cases hp
    | error e =>
      rw [he] at hp
      cases hp
      exact .inr ⟨before, p, after, e, hfiles, fun q hq => (hbefore q hq).imp (hok q), he,
        by rw [collected, hfails]; rfl⟩

/-- The paths of the rules of a command: those of the settings, of which relative ones belong to the directory of the
settings, and then those of the options. -/
def sources (o : Options) (s : Settings) (settingsPath : Option Path) : List Path :=
  s.files.map (fun file =>
    if file.isAbsolute then file else ((settingsPath.bind Path.parent?).map (·.join file)).getD file) ++ o.rules

theorem sources_eq (o : Options) (s : Settings) (settingsPath : Option Path) :
    s.ruleFiles (settingsPath.bind Path.parent?) ++ o.rules = sources o s settingsPath := by
  rw [Settings.ruleFiles, sources]
  congr 2
  funext file
  cases settingsPath.bind Path.parent? with
  | none => simp
  | some folder =>
    cases habs : file.isAbsolute with
    | true => simp [Path.join_of_isAbsolute folder habs]
    | false => simp

variable (r : Reporter) (o : Options) (s : Settings) (settingsPath : Option Path) (w : Workbench)

/-- Unknown names among those of disabled rules are told, and then rules are added to the built-in ones. -/
theorem registry_run : ∃ us, (registry r o s settingsPath).run w =
    (collected w.disk (sources o s settingsPath) (Registry.builtin.without s.disabled), w.saying us) := by
  have hwarn : ∃ us, (registry r o s settingsPath).run w =
      ((sources o s settingsPath).foldlM addRules (Registry.builtin.without s.disabled)).run (w.saying us) := by
    rw [registry, sources_eq]
    refine Job.run_forM_saying (fun name w => ?_) _ _ w []
    split
    · exact ⟨_, Job.lift_say _ w⟩
    · exact ⟨[], rfl⟩
  obtain ⟨us, hwarn⟩ := hwarn
  obtain ⟨us', hrest⟩ := addAll_run (sources o s settingsPath) (Registry.builtin.without s.disabled) (w.saying us)
  exact ⟨us ++ us', by rw [hwarn, hrest, Workbench.saying_append]; rfl⟩

/-- The rules of a command are collected if all paths give rules. Otherwise the first path that gives none is told. -/
theorem registry_cases :
    (∃ lists us, List.Forall₂ (fun p rules => rulesAt w.disk p = .ok rules) (sources o s settingsPath) lists ∧
      (registry r o s settingsPath).run w =
        (.ok ⟨(Registry.builtin.without s.disabled).rules ++ lists.flatten.map LoadedRule.rule, 0⟩, w.saying us)) ∨
    ∃ before p after e us, sources o s settingsPath = before ++ p :: after ∧
      (∀ q ∈ before, ∃ rules, rulesAt w.disk q = .ok rules) ∧ rulesAt w.disk p = .error e ∧
      (registry r o s settingsPath).run w = (.error (failure p e), w.saying us) := by
  obtain ⟨us, hrun⟩ := registry_run r o s settingsPath w
  rw [hrun]
  rcases collected_cases w.disk (sources o s settingsPath) (Registry.builtin.without s.disabled) with
    ⟨lists, hall, hlists⟩ | ⟨before, p, after, e, hfiles, hbefore, hp, hfails⟩
  · exact .inl ⟨lists, us, hall, by rw [hlists]; rfl⟩
  · exact .inr ⟨before, p, after, e, us, hfiles, hbefore, hp, by rw [hfails]⟩

variable {r o s settingsPath w}

theorem registry_fails {p : Path} {e : LoadError} (hp : p ∈ sources o s settingsPath)
    (he : rulesAt w.disk p = .error e) : ∃ before q after e' us, sources o s settingsPath = before ++ q :: after ∧
      (∀ p ∈ before, ∃ rules, rulesAt w.disk p = .ok rules) ∧ rulesAt w.disk q = .error e' ∧
      (registry r o s settingsPath).run w = (.error (failure q e'), w.saying us) := by
  rcases registry_cases r o s settingsPath w with ⟨lists, us, hall, _⟩ | hfails
  · obtain ⟨⟨i, hi⟩, rfl⟩ := List.get_of_mem hp
    cases he.symm.trans (hall.get hi (hall.length_eq ▸ hi))
  · exact hfails

/-- Only the names of built-in rules matter among those of disabled rules. -/
theorem without_congr {names names' : List String}
    (h : ∀ name ∈ Registry.builtin.names, name ∈ names' ↔ name ∈ names) :
    Registry.builtin.without names' = Registry.builtin.without names := by
  rw [Registry.without, Registry.without]
  congr 1
  refine List.filter_congr fun rule hrule => ?_
  have hname := h rule.name (List.mem_map_of_mem hrule)
  simp [hname]

/-! ## Commands without rules -/

/-- A task that ends in an error on a disk, and leaves the disk as it is. -/
def FailsOn {α : Type} (d : Disk) (task : Task α) : Prop :=
  ∀ w, w.disk = d → ∃ messages w', task.run w = (.error messages, w') ∧ w'.disk = d

namespace FailsOn

variable {α β : Type} {d : Disk}

theorem bind {task : Task α} (h : FailsOn d task) (f : α → Task β) : FailsOn d (task >>= f) := by
  intro w hw
  obtain ⟨messages, w', hrun, hdisk⟩ := h w hw
  exact ⟨messages, w', by rw [Job.run_bind, hrun], hdisk⟩

theorem after {task : Task α} {f : α → Task β} (h : Looks task.run) (hf : ∀ a, FailsOn d (f a)) :
    FailsOn d (task >>= f) := by
  intro w hw
  obtain ⟨us, hrun⟩ := h.apply w
  rw [Job.run_bind]
  generalize (task.run { disk := w.disk }).1 = result at hrun
  rw [hrun]
  cases result with
  | error messages => exact ⟨messages, _, rfl, hw⟩
  | ok a => exact hf a _ hw

end FailsOn

theorem print_looks (r : Reporter) (line : String) : Looks (r.print line) := by
  unfold Reporter.print
  split
  · exact ⟨fun _ => (), fun _ => [.out (line ++ "\n")], fun _ => rfl⟩
  · exact .pure _

theorem settings_looks (o : Options) : Looks (settings o).run := by
  unfold settings
  split
  · exact .pure _
  · split
    · exact .andThen (.orFail (.ask _) _) fun _ => .pure _
    · refine .andThen (.orFail (.ask _) _) fun found => ?_
      cases found <;> exact .pure _

/-- No command that needs rules does anything without them. -/
theorem execute_fails (env : Surroundings) {c : Command} {w₀ : Workbench} {p : Path} {e : LoadError}
    (hs : (settings o).run w₀ = (.ok (s, settingsPath), w)) (hc : ∀ file, c ≠ .verifyRules file)
    (hp : p ∈ sources o s settingsPath) (he : rulesAt w.disk p = .error e) :
    ∃ messages w', (execute env o c).run w₀ = (.error messages, w') ∧ w'.disk = w.disk := by
  have hregistry : ∀ r, FailsOn w.disk (registry r o s settingsPath) := by
    intro r w₁ hw₁
    obtain ⟨_, q, _, e', us, _, _, _, hrun⟩ := registry_fails (w := w₁) (r := r) hp (hw₁ ▸ he)
    exact ⟨_, _, hrun, hw₁⟩
  have hprint : ∀ (r : Reporter) line, Looks (liftM (r.print line) : Task Unit).run := fun r line =>
    (print_looks r line).lift
  rw [execute, Job.run_bind, hs]
  refine FailsOn.after (.orFail (.pure _) _) (fun format => ?_) w rfl
  cases c with
  | verifyRules file => exact (hc file rfl).elim
  | rules | file | folder =>
    simp only
    split
    · split
      · exact .after (hprint _ _) fun _ => (hregistry _).bind _
      · exact (hregistry _).bind _
    · exact (hregistry _).bind _

/-- An error is printed. -/
theorem executeOrReport_error {env : Surroundings} {c : Command} {messages : List String} {w w' : Workbench}
    (h : (execute env o c).run w = (.error messages, w')) : (executeOrReport env o c).run w = (1, w'.saying
      [.err (Style.red.paint env.colour "Error" ++ ": " ++ String.intercalate ": " messages ++ "\n")]) := by
  show executeOrReport env o c w = _
  rw [executeOrReport, Job.bind_apply, h]
  rfl

/-- **The rules of a command.** If they can be collected, they are the built-in rules that are not disabled, and then
all rules that the paths of the settings and those of the options give, path after path, whatever their names are. They
can be collected if every path gives rules, and names that no built-in rule has make no difference among those of
disabled rules. If a path gives none, the first such path is told, and a command that needs rules ends with code 1 and
leaves the disk as it is. -/
theorem registry_active (r : Reporter) (o : Options) (s : Settings) (settingsPath : Option Path) (w : Workbench) :
    (∀ reg w', (registry r o s settingsPath).run w = (.ok reg, w') →
      ∃ lists, List.Forall₂ (fun p rules => rulesAt w.disk p = .ok rules) (sources o s settingsPath) lists ∧
        reg.rules = (Rule.builtin.filter fun rule => !s.disabled.contains rule.name) ++
          lists.flatten.map LoadedRule.rule) ∧
    ((∀ p ∈ sources o s settingsPath, ∃ rules, rulesAt w.disk p = .ok rules) →
      ∃ reg w', (registry r o s settingsPath).run w = (.ok reg, w')) ∧
    (∀ disabled, (∀ name ∈ Registry.builtin.names, name ∈ disabled ↔ name ∈ s.disabled) →
      ((registry r o { s with disabled } settingsPath).run w).1 = ((registry r o s settingsPath).run w).1) ∧
    ∀ p ∈ sources o s settingsPath, ∀ e, rulesAt w.disk p = .error e →
      (∃ before q after e' w', sources o s settingsPath = before ++ q :: after ∧
        (∀ p ∈ before, ∃ rules, rulesAt w.disk p = .ok rules) ∧ rulesAt w.disk q = .error e' ∧
        (registry r o s settingsPath).run w = (.error (failure q e'), w')) ∧
      ∀ env c w₀, (settings o).run w₀ = (.ok (s, settingsPath), w) → (∀ file, c ≠ .verifyRules file) →
        ∃ w', (executeOrReport env o c).run w₀ = (1, w') ∧ w'.disk = w₀.disk := by
  refine ⟨?collected, ?succeeds, ?disabled, fun p hp e he => ⟨?first, ?untouched⟩⟩
  case collected =>
    intro reg w' h
    rcases registry_cases r o s settingsPath w with
      ⟨lists, us, hall, hok⟩ | ⟨_, _, _, _, us, _, _, _, hfails⟩
    · cases h.symm.trans hok
      exact ⟨lists, hall, rfl⟩
    · cases h.symm.trans hfails
  case succeeds =>
    intro hall
    rcases registry_cases r o s settingsPath w with
      ⟨lists, us, _, hok⟩ | ⟨before, q, after, e, us, hfiles, _, hq, _⟩
    · exact ⟨_, _, hok⟩
    · obtain ⟨rules, hrules⟩ := hall q (by simp [hfiles])
      cases hq.symm.trans hrules
  case disabled =>
    intro disabled hdisabled
    obtain ⟨us, hrun⟩ := registry_run r o { s with disabled } settingsPath w
    obtain ⟨us', hrun'⟩ := registry_run r o s settingsPath w
    rw [hrun, hrun', without_congr hdisabled]
    rfl
  case first =>
    obtain ⟨before, q, after, e', us, hfiles, hbefore, hq, hrun⟩ := registry_fails (r := r) hp he
    exact ⟨before, q, after, e', _, hfiles, hbefore, hq, hrun⟩
  case untouched =>
    intro env c w₀ hs hc
    obtain ⟨messages, w', hrun, hdisk⟩ := execute_fails env hs hc hp he
    have hsettings : w.disk = w₀.disk := congrArg (·.2.disk) hs ▸ (settings_looks o).disk w₀
    exact ⟨_, executeOrReport_error hrun, hdisk.trans hsettings⟩

/-- A rule file with the name of a built-in rule, beside the settings, and a directory with another rule file. -/
def ownRules : Disk where
  entries :=
    [([Text.encode "cfg"], .directory 0o755),
      ([Text.encode "cfg", Text.encode "own.yaml"],
        .file (Text.encode "name: init_driver\npattern: a\nreplace: A\n") 0o644),
      ([Text.encode "more"], .directory 0o755),
      ([Text.encode "more", Text.encode "b.yml"], .file (Text.encode "name: b\npattern: b\nreplace: B\n") 0o644)]

/-- Settings that disable a built-in rule and have the file beside them. -/
def ownSettings : Settings := { disabled := ["init_driver", "nope"], files := [.ofString "own.yaml"] }

theorem registry_active_ownRules : ∃ reg w', (registry ⟨.text, false, false⟩ { rules := [.ofString "more"] }
      ownSettings (some (.ofString "cfg/.appiumize.toml"))).run { disk := ownRules } = (.ok reg, w') ∧
    reg.rules.map Rule.name =
      (Rule.builtin.filter fun rule => !ownSettings.disabled.contains rule.name).map Rule.name ++
        ["init_driver", "b"] := by
  obtain ⟨hcollected, hsucceeds, _, _⟩ := registry_active ⟨.text, false, false⟩ { rules := [.ofString "more"] }
    ownSettings (some (.ofString "cfg/.appiumize.toml")) { disk := ownRules }
  have hsources : sources { rules := [.ofString "more"] } ownSettings (some (.ofString "cfg/.appiumize.toml")) =
      [.ofString "cfg/own.yaml", .ofString "more"] := by decide +kernel
  have hrules : ∀ p names, (rulesAt ownRules p).toOption.map (List.map fun r => r.rule.name) = some names →
      ∃ rules, rulesAt ownRules p = .ok rules ∧ rules.map (fun r => r.rule.name) = names := by
    intro p names h
    cases hp : rulesAt ownRules p with
    | error e => simp [hp, Except.toOption] at h
    | ok rules => exact ⟨rules, rfl, by simpa [hp, Except.toOption] using h⟩
  obtain ⟨own, hown, hownNames⟩ := hrules (.ofString "cfg/own.yaml") ["init_driver"] (by decide +kernel)
  obtain ⟨more, hmore, hmoreNames⟩ := hrules (.ofString "more") ["b"] (by decide +kernel)
  rw [hsources] at hcollected hsucceeds
  obtain ⟨reg, w', hrun⟩ := hsucceeds (by simp [hown, hmore])
  refine ⟨reg, w', hrun, ?_⟩
  obtain ⟨lists, hall, hreg⟩ := hcollected reg w' hrun
  obtain ⟨l₁, rest, h₁, hrest, rfl⟩ := List.forall₂_cons_left_iff.1 hall
  obtain ⟨l₂, rest, h₂, hnil, rfl⟩ := List.forall₂_cons_left_iff.1 hrest
  cases hnil
  cases hown.symm.trans h₁
  cases hmore.symm.trans h₂
  rw [hreg, List.map_append, List.map_map]
  simp only [List.flatten_cons, List.flatten_nil, List.append_nil, List.map_append, Function.comp_def]
  rw [hownNames, hmoreNames]
  rfl

end Command

end Retarget
