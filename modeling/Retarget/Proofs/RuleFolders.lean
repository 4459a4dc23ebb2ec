import Retarget.Proofs.Stops
import Retarget.RuleFolder

/-!
# All rule files below a directory

The rules of a directory are those of all rule files below it. A file is known by the names that lead down to it, and
files come in the order of these names: a directory stands among the files beside it, with all that is below it.

* `Disk.Route`: names that lead down from a directory, `RuleFolder.IsFile`: those that lead to a rule file,
* `RuleFile.Contributes`: what a file adds to the rules: all of its own, or nothing,
* `RuleFolder.Found`: the rule files below a directory, in order,
* `RuleFolder.Found.append`, `RuleFolder.Found.lift`, `RuleFolder.Found.leaf`: how they are found,
* `RuleFolder.load_spec`: they are loaded one after another, or some directory cannot be listed,
* `RuleFolder.load_complete`: all this, with what each file adds.
-/

namespace Retarget

open Disk

namespace Workbench

/-- The workbench after some things have been said. -/
def saying (w : Workbench) (us : List Utterance) : Workbench := { w with said := us.reverse ++ w.said }

variable (w : Workbench)

@[simp] theorem saying_disk (us : List Utterance) : (w.saying us).disk = w.disk := rfl

theorem saying_append (us us' : List Utterance) : w.saying (us ++ us') = (w.saying us).saying us' := by
  simp [saying]

end Workbench

/-! ## Ways down -/

namespace Disk

/-- A path leads to a directory with an entry of a name. -/
def Holds (d : Disk) (p : Path) (n : Name) : Prop :=
  ∃ l m, d.locate p = .ok l ∧ d.get? l = some (.directory m) ∧ (d.get? (l ++ [n])).isSome

/-- Names that lead down from a directory: each one stands in the directory that those before it lead to. -/
def Route (d : Disk) (top : Path) (route : List Name) : Prop :=
  ∀ before n after, route = before ++ n :: after → d.Holds (top.below before) n

variable {d : Disk} {top : Path} {n : Name} {rest : List Name}

theorem Holds.isDirectory (h : d.Holds top n) : d.isDirectory top = true := by
  obtain ⟨l, m, hl, hm, _⟩ := h
  exact isDirectory_eq_true.2 ⟨l, m, hl, hm⟩

theorem Route.nil (d : Disk) (top : Path) : d.Route top [] := by
  intro before n after h
  simp at h

theorem route_cons : d.Route top (n :: rest) ↔ d.Holds top n ∧ d.Route (top.join ⟨n⟩) rest := by
  constructor
  · intro h
    exact ⟨h [] n rest rfl, fun before k after he => h (n :: before) k after (by rw [he, List.cons_append])⟩
  · rintro ⟨hn, hrest⟩ before k after he
    cases before with
    | nil =>
      cases he
      exact hn
    | cons j before =>
      obtain ⟨rfl, hafter⟩ := List.cons.inj he
      exact hrest before k after hafter

/-- A listing has the names that a directory holds, each one once, in ascending order. -/
theorem sortedList_spec {names : List Name} (hd : d.WellFormed) (h : d.sortedList top = .ok names) :
    names.Pairwise (· < ·) ∧ (∀ n, n ∈ names ↔ d.Holds top n) ∧ ∀ n ∈ names, Path.IsName n := by
  obtain ⟨found, hfound, hsorted⟩ := bind_eq_ok.1 h
  cases hsorted
  obtain ⟨l, m, hl, hm, _, rfl⟩ := list_eq_ok.1 hfound
  refine ⟨pairwise_sortNames (hd.names_nodup l), fun n => ?_, fun n hn => ?_⟩
  · rw [mem_sortNames, mem_names]
    constructor
    · exact fun hn => ⟨l, m, hl, hm, hn⟩
    · rintro ⟨l', m', hl', _, hn⟩
      cases hl.symm.trans hl'
      exact hn
  · exact hd.isName_of_mem_names (mem_sortNames.1 hn)

/-- Who may read everything can list every directory. -/
theorem list_of_privileged (hp : d.privileged = true) (h : d.isDirectory top = true) :
    ∃ names, d.list top = .ok names := by
  obtain ⟨l, m, hl, hm⟩ := isDirectory_eq_true.1 h
  exact ⟨_, list_eq_ok.2 ⟨l, m, hl, hm, by rw [mayRead, hp, Bool.true_or], rfl⟩⟩

theorem sortedList_eq_error {c : Cause} : d.sortedList top = .error c ↔ d.list top = .error c := by
  show (d.list top >>= fun found => pure (sortNames found)) = _ ↔ _
  cases d.list top <;> simp [bind, Except.bind, pure, Except.pure]

end Disk

/-! ## What a file adds -/

/-- Each item gives its result, or one of them is the first to fail. -/
theorem mapM_cases {ε α β : Type} (f : α → Except ε β) (xs : List α) :
    (∃ ys, xs.mapM f = .ok ys ∧ List.Forall₂ (fun x y => f x = .ok y) xs ys) ∨
    ∃ before x after e, xs = before ++ x :: after ∧ (∀ y ∈ before, ∃ b, f y = .ok b) ∧ f x = .error e ∧
      xs.mapM f = .error e := by
  induction xs with
  | nil => exact .inl ⟨[], rfl, .nil⟩
  | cons x xs ih =>
    rw [List.mapM_cons]
    cases hx : f x with
    | error e => exact .inr ⟨[], x, xs, e, rfl, by simp, hx, rfl⟩
    | ok y =>
      rcases ih with ⟨ys, hys, hall⟩ | ⟨before, x', after, e, rfl, hbefore, hfail, he⟩
      · exact .inl ⟨y :: ys, by rw [hys]; rfl, .cons hx hall⟩
      · exact .inr ⟨x :: before, x', after, e, rfl, List.forall_mem_cons.2 ⟨⟨y, hx⟩, hbefore⟩, hfail, by rw [he]; rfl⟩

namespace RuleFile

/-- What a file adds to the rules: all of its own, if it can be read, holds a rule or a list of rules, and all of them
are valid. Otherwise it adds nothing. -/
inductive Contributes (d : Disk) (p : Path) : List LoadedRule → Prop
  | whole {text : String} {entries : List RuleEntry} {rules : List LoadedRule} (hread : d.readText p = .ok text)
    (hentries : (Yaml.Node.read? text).bind entries? = some entries)
    (hvalid : List.Forall₂ (fun e r => RuleFile.load e = .ok r) entries rules) : Contributes d p rules
  | unreadable {c : Cause} (hread : d.readText p = .error c) : Contributes d p []
  | malformed {text : String} (hread : d.readText p = .ok text)
    (hentries : (Yaml.Node.read? text).bind entries? = none) : Contributes d p []
  | invalid {text : String} {entries : List RuleEntry} {e : RuleEntry} {err : LoadError}
    (hread : d.readText p = .ok text) (hentries : (Yaml.Node.read? text).bind entries? = some entries)
    (hmem : e ∈ entries) (herr : RuleFile.load e = .error err) : Contributes d p []

/-- The rules that a file adds. -/
def added (d : Disk) (p : Path) : List LoadedRule := (load? d p).toOption.getD []

/-- What is said of a file that cannot be used. -/
def notices (d : Disk) (p : Path) : List Utterance :=
  match load? d p with
  | .ok _ => []
  | .error e => [.notice ⟨.warn, "skipping rule file", [("path", p.display), ("error", e.message)]⟩]

theorem contributes_added (d : Disk) (p : Path) : Contributes d p (added d p) := by
  unfold added load?
  cases hread : d.readText p with
  | error c => exact .unreadable hread
  | ok text =>
    simp only [parse]
    cases hentries : (Yaml.Node.read? text).bind entries? with
    | none => exact .malformed hread hentries
    | some entries =>
      rcases mapM_cases RuleFile.load entries with ⟨rules, hrules, hvalid⟩ | ⟨before, e, after, err, he, _, herr, herrs⟩
      · simp only [hrules]
        exact .whole hread hentries hvalid
      · simp only [herrs]
        exact .invalid hread hentries (he ▸ List.mem_append_right before List.mem_cons_self) herr

end RuleFile

/-! ## Files in order -/

namespace RuleFolder

open RuleFile (added notices)

/-- Names that lead down to a directory. -/
def IsFolder (d : Disk) (top : Path) (route : List Name) : Prop :=
  d.Route top route ∧ d.isDirectory (top.below route) = true

/-- Names that lead down to what is no directory and has the name of a rule file. -/
structure IsFile (d : Disk) (top : Path) (route : List Name) : Prop where
  reached : d.Route top route
  file : d.isDirectory (top.below route) = false
  named : RuleFile.isRuleFile (top.below route) = true

/-- All rule files below a directory that are reached in certain ways, in order, where all directories that are reached
so can be listed. -/
structure Found (d : Disk) (top : Path) (ways : List Name → Prop) (routes : List (List Name)) : Prop where
  ordered : routes.Pairwise (· < ·)
  mem : ∀ route, route ∈ routes ↔ IsFile d top route ∧ ways route
  listed : ∀ route, IsFolder d top route → ways route → ∃ names, d.list (top.below route) = .ok names

/-- Ways down that begin with a name. -/
def Through (n : Name) (route : List Name) : Prop := ∃ rest, route = n :: rest

/-- Ways down that begin with one of some names. -/
def ThroughAny (names : List Name) (route : List Name) : Prop := ∃ n ∈ names, Through n route

section Files

variable {d : Disk} {top : Path} {n : Name} {rest : List Name} {routes routes' : List (List Name)}
  {ways ways' : List Name → Prop}

theorem isFolder_cons : IsFolder d top (n :: rest) ↔ d.Holds top n ∧ IsFolder d (top.join ⟨n⟩) rest := by
  rw [IsFolder, route_cons, and_assoc]
  rfl

theorem isFile_cons : IsFile d top (n :: rest) ↔ d.Holds top n ∧ IsFile d (top.join ⟨n⟩) rest := by
  constructor
  · rintro ⟨hroute, hfile, hnamed⟩
    obtain ⟨hn, hrest⟩ := route_cons.1 hroute
    exact ⟨hn, hrest, hfile, hnamed⟩
  · rintro ⟨hn, hrest, hfile, hnamed⟩
    exact ⟨route_cons.2 ⟨hn, hrest⟩, hfile, hnamed⟩

namespace Found

theorem congr (h : Found d top ways routes) (hfile : ∀ route, IsFile d top route → (ways' route ↔ ways route))
    (hfolder : ∀ route, IsFolder d top route → ways' route →
      ways route ∨ ∃ names, d.list (top.below route) = .ok names) :
    Found d top ways' routes where
  ordered := h.ordered
  mem route := by
    rw [h.mem]
    exact and_congr_right fun hf => (hfile route hf).symm
  listed route hf hways := (hfolder route hf hways).elim (h.listed route hf) id

/-- Files after files, if all the first ones come before all the others. -/
theorem append (h : Found d top ways routes) (h' : Found d top ways' routes')
    (hlt : ∀ route route', ways route → ways' route' → route < route') :
    Found d top (fun route => ways route ∨ ways' route) (routes ++ routes') where
  ordered := List.pairwise_append.2 ⟨h.ordered, h'.ordered, fun route hroute route' hroute' =>
    hlt route route' ((h.mem route).1 hroute).2 ((h'.mem route').1 hroute').2⟩
  mem route := by rw [List.mem_append, h.mem, h'.mem, and_or_left]
  listed route hf hways := hways.elim (h.listed route hf) (h'.listed route hf)

/-- The files of a directory are found below the directory that it is in. -/
theorem lift (hn : d.Holds top n) (h : Found d (top.join ⟨n⟩) (fun _ => True) routes) :
    Found d top (Through n) (routes.map (n :: ·)) where
  ordered := List.pairwise_map.2 (h.ordered.imp fun hlt => List.cons_lt_cons_iff.2 (.inr ⟨rfl, hlt⟩))
  mem route := by
    rw [List.mem_map]
    constructor
    · rintro ⟨rest, hrest, rfl⟩
      exact ⟨isFile_cons.2 ⟨hn, ((h.mem rest).1 hrest).1⟩, rest, rfl⟩
    · rintro ⟨hf, rest, rfl⟩
      exact ⟨rest, (h.mem rest).2 ⟨(isFile_cons.1 hf).2, trivial⟩, rfl⟩
  listed route hf hways := by
    obtain ⟨rest, rfl⟩ := hways
    exact h.listed rest (isFolder_cons.1 hf).2 trivial

/-- What is no directory is a rule file by its name, and nothing is below it. -/
theorem leaf (hn : d.Holds top n) (hdir : d.isDirectory (top.join ⟨n⟩) = false) :
    Found d top (Through n) (if RuleFile.isRuleFile (top.join ⟨n⟩) then [[n]] else []) := by
  have hend : ∀ rest, d.Route top (n :: rest) → rest = [] := by
    rintro (_ | ⟨k, rest⟩) hroute
    · rfl
    · have hbelow := (route_cons.1 (route_cons.1 hroute).2).1.isDirectory
      rw [hdir] at hbelow
      cases hbelow
  refine ⟨by split <;> simp, fun route => ?mem, fun route hf hways => ?listed⟩
  case mem =>
    constructor
    · intro hmem
      split at hmem
      · next hnamed =>
        rw [List.mem_singleton.1 hmem]
        exact ⟨⟨route_cons.2 ⟨hn, .nil d _⟩, hdir, hnamed⟩, [], rfl⟩
      · cases hmem
    · rintro ⟨hf, rest, rfl⟩
      obtain rfl := hend rest hf.reached
      rw [if_pos (by exact hf.named)]
      exact List.mem_singleton_self _
  case listed =>
    obtain ⟨rest, rfl⟩ := hways
    obtain rfl := hend rest hf.1
    have hfolder : d.isDirectory (top.join ⟨n⟩) = true := hf.2
    rw [hdir] at hfolder
    cases hfolder

theorem none (d : Disk) (top : Path) : Found d top (ThroughAny []) [] where
  ordered := .nil
  mem route := by simp [ThroughAny]
  listed route _ hways := by simp [ThroughAny] at hways

/-- The files of a name, and then those of greater names. -/
theorem cons {names : List Name} (h : Found d top (Through n) routes) (h' : Found d top (ThroughAny names) routes')
    (hlt : ∀ n' ∈ names, n < n') : Found d top (ThroughAny (n :: names)) (routes ++ routes') := by
  have hways : ∀ route, ThroughAny (n :: names) route ↔ Through n route ∨ ThroughAny names route := by
    intro route
    simp [ThroughAny]
  refine (h.append h' fun route route' ⟨rest, he⟩ ⟨n', hn', rest', he'⟩ => ?_).congr (fun route _ => hways route)
    fun route _ hr => .inl ((hways route).1 hr)
  rw [he, he', List.cons_lt_cons_iff]
  exact .inl (hlt n' hn')

/-- All that is below a directory is found through the names in it. -/
theorem whole {names found : List Name} (hlist : d.list top = .ok found) (hnames : ∀ n, n ∈ names ↔ d.Holds top n)
    (hdir : d.isDirectory top = true) (h : Found d top (ThroughAny names) routes) :
    Found d top (fun _ => True) routes := by
  refine h.congr (fun route hf => ?_) fun route hf _ => ?_
  · cases route with
    | nil =>
      have hfile : d.isDirectory top = false := hf.file
      rw [hdir] at hfile
      cases hfile
    | cons n rest => exact iff_of_true trivial ⟨n, (hnames n).2 (isFile_cons.1 hf).1, rest, rfl⟩
  · cases route with
    | nil => exact .inr ⟨_, hlist⟩
    | cons n rest => exact .inl ⟨n, (hnames n).2 (isFolder_cons.1 hf).1, rest, rfl⟩

end Found

end Files

/-! ## Loading -/

/-- What comes of loading all that is reached in certain ways: the rules of the files, one after another, with a notice
of each file that cannot be used. Or some directory cannot be listed. -/
inductive Loads (d : Disk) (top : Path) (ways : List Name → Prop) (w : Workbench) :
    Except LoadError (List LoadedRule) × Workbench → Prop
  | all {routes : List (List Name)} (h : Found d top ways routes) :
    Loads d top ways w (.ok (routes.flatMap fun route => added d (top.below route)),
      w.saying (routes.flatMap fun route => notices d (top.below route)))
  | stuck {route : List Name} {c : Cause} {w' : Workbench} (hfolder : IsFolder d top route) (hways : ways route)
    (hlist : d.list (top.below route) = .error c) (hdisk : w'.disk = d) :
    Loads d top ways w (.error (.unreadable c.message), w')

section Load

variable {d : Disk} {top : Path} {n : Name} {w : Workbench} {f : Path → ExceptT LoadError Job (List LoadedRule)}

theorem loadFile_apply (p : Path) (w : Workbench) : loadFile p w =
    if RuleFile.isRuleFile p then (added w.disk p, w.saying (notices w.disk p)) else ([], w) := by
  unfold loadFile added notices
  split
  · simp only [Job.bind_apply, Job.ask_apply]
    cases RuleFile.load? w.disk p <;> rfl
  · rfl

/-- Load what stands in a directory under a name. -/
def loadMember (f : Path → ExceptT LoadError Job (List LoadedRule)) (top : Path) (n : Name) (w : Workbench) :
    Except LoadError (List LoadedRule) × Workbench :=
  if w.disk.isDirectory (top.join ⟨n⟩) then (f (top.join ⟨n⟩)).run w
  else (.ok (loadFile (top.join ⟨n⟩) w).1, (loadFile (top.join ⟨n⟩) w).2)

theorem loadMembers_cons (f : Path → ExceptT LoadError Job (List LoadedRule)) (top : Path) (n : Name)
    (names : List Name) (w : Workbench) : (loadMembers f top (n :: names)).run w =
      match loadMember f top n w with
      | (.error e, w₁) => (.error e, w₁)
      | (.ok rules, w₁) => match (loadMembers f top names).run w₁ with
        | (.error e, w₂) => (.error e, w₂)
        | (.ok more, w₂) => (.ok (rules ++ more), w₂) := by
  rw [loadMembers, Job.run_bind, Job.run_look, loadMember]
  simp only
  split
  · rw [Job.run_bind]
    rcases (f (top.join ⟨n⟩)).run w with ⟨e | rules, w₁⟩
    · rfl
    · simp only [Job.run_bind]
      rcases (loadMembers f top names).run w₁ with ⟨e | more, w₂⟩ <;> rfl
  · rw [Job.run_bind, Job.run_lift]
    simp only [Job.run_bind]
    rcases (loadMembers f top names).run (loadFile (top.join ⟨n⟩) w).2 with ⟨e | more, w₂⟩ <;> rfl

theorem loadFrom_succ (depth : Nat) (top : Path) (w : Workbench) : (loadFrom (depth + 1) top).run w =
    match w.disk.sortedList top with
    | .error c => (.error (.unreadable c.message), w)
    | .ok names => (loadMembers (loadFrom depth) top names).run w := by
  rw [loadFrom]
  cases hlist : w.disk.sortedList top with
  | error c => exact Job.run_orFail_error (by rw [Job.ask_apply, hlist]) _ _
  | ok names => exact Job.run_orFail_ok (by rw [Job.ask_apply, hlist]) _ _

/-- What stands under one name is loaded as a file, or with all that is below it. -/
theorem loadMember_loads (hw : w.disk = d) (hn : d.Holds top n)
    (hf : d.isDirectory (top.join ⟨n⟩) = true → Loads d (top.join ⟨n⟩) (fun _ => True) w ((f (top.join ⟨n⟩)).run w)) :
    Loads d top (Through n) w (loadMember f top n w) := by
  subst hw
  unfold loadMember
  cases hdir : w.disk.isDirectory (top.join ⟨n⟩) with
  | true =>
    rw [if_pos rfl]
    generalize (f (top.join ⟨n⟩)).run w = result at hf
    cases hf hdir with
    | @all routes h =>
      have hlift := Loads.all (w := w) (h.lift hn)
      rw [List.flatMap_map, List.flatMap_map] at hlift
      exact hlift
    | @stuck rest c w' hfolder hways hlist hdisk =>
      exact .stuck (isFolder_cons.2 ⟨hn, hfolder⟩) ⟨rest, rfl⟩ hlist hdisk
  | false =>
    rw [if_neg Bool.false_ne_true, loadFile_apply]
    have hleaf := Loads.all (w := w) (Found.leaf hn hdir)
    split
    · next hnamed =>
      rw [if_pos hnamed, List.flatMap_singleton, List.flatMap_singleton] at hleaf
      exact hleaf
    · next hnamed =>
      rw [if_neg hnamed] at hleaf
      exact hleaf

/-- What stands under names in ascending order is loaded one after another. -/
theorem loadMembers_loads {names : List Name} (hw : w.disk = d) (hn : ∀ n ∈ names, d.Holds top n)
    (hsorted : names.Pairwise (· < ·))
    (hf : ∀ n ∈ names, d.isDirectory (top.join ⟨n⟩) = true → ∀ w : Workbench, w.disk = d →
      Loads d (top.join ⟨n⟩) (fun _ => True) w ((f (top.join ⟨n⟩)).run w)) :
    Loads d top (ThroughAny names) w ((loadMembers f top names).run w) := by
  induction names generalizing w with
  | nil => exact .all (.none d top)
  | cons n names ih =>
    obtain ⟨hlt, hsorted⟩ := List.pairwise_cons.1 hsorted
    have hone := loadMember_loads (f := f) hw (hn n List.mem_cons_self) fun hdir => hf n List.mem_cons_self hdir w hw
    rw [loadMembers_cons]
    generalize loadMember f top n w = result at hone
    cases hone with
    | @stuck route c w' hfolder hways hlist hdisk => exact .stuck hfolder ⟨n, List.mem_cons_self, hways⟩ hlist hdisk
    | @all routes h =>
      simp only
      have hrest := ih (w := w.saying (routes.flatMap fun route => notices d (top.below route)))
        (by rw [Workbench.saying_disk, hw]) (fun k hk => hn k (List.mem_cons_of_mem _ hk)) hsorted
        fun k hk => hf k (List.mem_cons_of_mem _ hk)
      generalize (loadMembers f top names).run _ = result' at hrest
      cases hrest with
      | @stuck route c w' hfolder hways hlist hdisk =>
        obtain ⟨k, hk, hthrough⟩ := hways
        exact .stuck hfolder ⟨k, List.mem_cons_of_mem _ hk, hthrough⟩ hlist hdisk
      | @all routes' h' =>
        simp only
        rw [← List.flatMap_append, ← Workbench.saying_append, ← List.flatMap_append]
        exact .all (h.cons h' hlt)

/-- A directory is loaded with all that is below it. Its path and those of the directories below it are too short to
exhaust the depth. -/
theorem loadFrom_loads {depth : Nat} (hd : d.WellFormed) (hw : w.disk = d) (hdir : d.isDirectory top = true)
    (hdeep : Path.lengthLimit < top.bytes.length + depth) :
    Loads d top (fun _ => True) w ((loadFrom depth top).run w) := by
  induction depth generalizing top w with
  | zero =>
    obtain ⟨l, m, hl, _⟩ := isDirectory_eq_true.1 hdir
    have hlen := (checkPath_eq_ok (locate_eq_ok.1 hl).1).2
    omega
  | succ depth ih =>
    rw [loadFrom_succ, hw]
    cases hlist : d.sortedList top with
    | error c => exact .stuck ⟨.nil d top, hdir⟩ trivial (sortedList_eq_error.1 hlist) hw
    | ok names =>
      obtain ⟨hsorted, hnames, hproper⟩ := sortedList_spec hd hlist
      have hmembers := loadMembers_loads (f := loadFrom depth) hw (fun n hn => (hnames n).1 hn) hsorted
        fun n hn hdir' w' hw' => ih hw' hdir' (by have := top.length_lt_join (hproper n hn); omega)
      obtain ⟨found, hfound, _⟩ := bind_eq_ok.1 hlist
      simp only
      generalize (loadMembers (loadFrom depth) top names).run w = result at hmembers
      cases hmembers with
      | stuck hfolder _ hlist hdisk => exact .stuck hfolder trivial hlist hdisk
      | all h => exact .all (h.whole hfound hnames hdir)

/-- A directory is loaded, or some directory below it cannot be listed. -/
theorem load_spec (hd : w.disk.WellFormed) (hdir : w.disk.isDirectory top = true) :
    Loads w.disk top (fun _ => True) w ((load top).run w) := by
  rw [load, Job.run_bind, Job.run_look]
  simp only [hdir, if_true]
  obtain ⟨l, m, hl, _⟩ := isDirectory_eq_true.1 hdir
  have hpos := List.length_pos_iff.2 (checkPath_eq_ok (locate_eq_ok.1 hl).1).1
  exact loadFrom_loads hd rfl hdir (by omega)

/-- **All rule files of a directory, in order.** If every directory below a directory can be listed, the rules are those
that its rule files add, one file after another. The files are in the order of the names that lead to them, so they come
depth first, and files and directories that stand side by side in the order of their names. A file adds all of its rules
or none, whatever the others do, and there is a notice of each one that cannot be used. If some directory cannot be
listed, there are no rules at all. -/
theorem load_complete (hd : w.disk.WellFormed) (hdir : w.disk.isDirectory top = true) :
    ((∀ route, IsFolder w.disk top route → ∃ names, w.disk.list (top.below route) = .ok names) →
      ∃ files : List (List Name × List LoadedRule), (files.map Prod.fst).Pairwise (· < ·) ∧
        (∀ route, route ∈ files.map Prod.fst ↔ IsFile w.disk top route) ∧
        (∀ x ∈ files, RuleFile.Contributes w.disk (top.below x.1) x.2) ∧
        (load top).run w =
          (.ok (files.flatMap Prod.snd), w.saying (files.flatMap fun x => notices w.disk (top.below x.1)))) ∧
    ∀ route c, IsFolder w.disk top route → w.disk.list (top.below route) = .error c →
      ∃ e w', (load top).run w = (.error e, w') ∧ w'.disk = w.disk := by
  have hspec := load_spec hd hdir
  generalize (load top).run w = result at hspec
  cases hspec with
  | @all routes h =>
    constructor
    · intro _
      have hroutes : (routes.map fun route => (route, added w.disk (top.below route))).map Prod.fst = routes := by
        rw [List.map_map]
        exact List.map_id' routes
      refine ⟨routes.map fun route => (route, added w.disk (top.below route)), by rw [hroutes]; exact h.ordered, ?mem,
        ?added, by rw [List.flatMap_map, List.flatMap_map]⟩
      case mem =>
        intro route
        rw [hroutes, h.mem, and_iff_left trivial]
      case added =>
        intro x hx
        obtain ⟨route, _, rfl⟩ := List.mem_map.1 hx
        exact RuleFile.contributes_added w.disk (top.below route)
    · intro route c hfolder hlist
      obtain ⟨names, hnames⟩ := h.listed route hfolder trivial
      cases hlist.symm.trans hnames
  | @stuck route c w' hfolder _ hlist hdisk =>
    constructor
    · intro hall
      obtain ⟨names, hnames⟩ := hall route hfolder
      cases hlist.symm.trans hnames
    · exact fun _ _ _ _ => ⟨_, _, rfl, hdisk⟩

end Load

/-- A directory with rules, one with more rules between two files, a file with an invalid rule after a valid one, and a
link to nowhere. -/
def mixedRules : Disk where
  entries :=
    [([Text.encode "r"], .directory 0o755),
      ([Text.encode "r", Text.encode "a.yaml"], .file (Text.encode "name: a\npattern: a\nreplace: A\n") 0o644),
      ([Text.encode "r", Text.encode "b"], .directory 0o755),
      ([Text.encode "r", Text.encode "b", Text.encode "z.yml"],
        .file (Text.encode "- name: z\n  pattern: z\n  replace: Z\n- name: y\n  pattern: y\n  replace: Y\n") 0o644),
      ([Text.encode "r", Text.encode "b.yaml"],
        .file (Text.encode "- name: b\n  pattern: b\n  replace: B\n- name: c\n  pattern: (\n  replace: C\n") 0o644),
      ([Text.encode "r", Text.encode "d.yml"], .link (.ofString "gone"))]

theorem load_complete_mixedRules : mixedRules.WellFormed ∧ mixedRules.isDirectory (.ofString "r") = true ∧
    ∃ files : List (List Name × List LoadedRule), (files.map Prod.fst).Pairwise (· < ·) ∧
      (∀ route, route ∈ files.map Prod.fst ↔ IsFile mixedRules (.ofString "r") route) ∧
      (∀ x ∈ files, RuleFile.Contributes mixedRules ((Path.ofString "r").below x.1) x.2) ∧
      ((load (.ofString "r")).run { disk := mixedRules }).1 = .ok (files.flatMap Prod.snd) ∧
      (files.flatMap Prod.snd).map (fun r => r.rule.name) = ["a", "z", "y"] := by
  have hd : mixedRules.WellFormed := by decide +kernel
  have hdir : mixedRules.isDirectory (.ofString "r") = true := by decide +kernel
  have hnames : (((load (.ofString "r")).run { disk := mixedRules }).1.toOption.getD []).map (fun r => r.rule.name) =
      ["a", "z", "y"] := by decide +kernel
  obtain ⟨files, hordered, hmem, hadded, hload⟩ := (load_complete (w := { disk := mixedRules }) hd hdir).1
    fun route hfolder => list_of_privileged rfl hfolder.2
  rw [hload] at hnames
  exact ⟨hd, hdir, files, hordered, hmem, hadded, congrArg Prod.fst hload, hnames⟩

end RuleFolder

end Retarget
