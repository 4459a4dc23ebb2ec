import Retarget.Proofs.Resolution
import Retarget.Proofs.RuleFolders

/-!
# Rule files that are loaded again

The rules of a directory are loaded without regard to the directories on the way, so a link that leads back to one of
them leads down once more, until links may no longer be followed. A rule file contributes once for each way down to it.

* `Disk.route_of_walk`: names that can be followed lead down from a directory,
* `Disk.walk_rounds`: a way that leads back can be taken again while links may be followed,
* `Disk.Route.straight`: without links, names lead to the place that they are the names of,
* `RuleFolder.IsFile.again`: a rule file at the end of another way,
* `RuleFolder.Repeats`: how often files are reached, by ways with and without links,
* `RuleFolder.load_repeats`: which files are loaded once, and which are loaded again,
* `RuleFolder.load_circle`: one rule that is loaded 41 times.
-/

namespace Retarget

open Disk

/-! ## Paths further down -/

namespace Path

theorem below_append (p : Path) (xs ys : List Name) : p.below (xs ++ ys) = (p.below xs).below ys :=
  List.foldl_append

/-- A path goes on as the names after it do. -/
theorem below_prefix (p : Path) {names : List Name} (h : ∀ n ∈ names, IsName n) :
    p.bytes <+: (p.below names).bytes := by
  induction names generalizing p with
  | nil => exact List.prefix_refl _
  | cons n names ih =>
    refine List.IsPrefix.trans ?_ (ih (p.join ⟨n⟩) fun k hk => h k (List.mem_cons_of_mem _ hk))
    rw [join_bytes p (h n List.mem_cons_self).relative]
    exact List.prefix_append _ _

theorem getLast?_join (p : Path) {n : Name} (hn : IsName n) :
    (p.join ⟨n⟩).bytes.getLast?.any (· != slash) = true := by
  have hlast : n.getLast hn.ne_nil ≠ slash := fun he => hn.no_slash (he ▸ List.getLast_mem hn.ne_nil)
  rw [join_bytes p hn.relative, ← List.append_assoc, List.getLast?_append_of_ne_nil _ hn.ne_nil,
    List.getLast?_eq_getLast_of_ne_nil hn.ne_nil]
  simpa using hlast

/-- The same names make a longer path after a longer one. -/
theorem below_sublist {p q : Path} {names : List Name} (hsub : p.bytes.Sublist q.bytes)
    (hq : q.bytes.getLast?.any (· != slash) = true) (h : ∀ n ∈ names, IsName n) :
    (p.below names).bytes.Sublist (q.below names).bytes := by
  induction names generalizing p q with
  | nil => exact hsub
  | cons n names ih =>
    have hn := h n List.mem_cons_self
    refine ih ?_ (getLast?_join q hn) fun k hk => h k (List.mem_cons_of_mem _ hk)
    rw [join_bytes p hn.relative, join_bytes q hn.relative, if_pos hq]
    refine hsub.append (List.Sublist.append ?_ (List.Sublist.refl _))
    split
    · exact List.Sublist.refl _
    · exact List.nil_sublist _

/-- Leaving names out makes a path shorter. -/
theorem below_shorter (p : Path) {xs ys zs : List Name} (hys : ∀ n ∈ ys, IsName n) (hzs : ∀ n ∈ zs, IsName n) :
    (p.below (xs ++ zs)).bytes.Sublist (p.below (xs ++ ys ++ zs)).bytes := by
  rw [below_append, below_append]
  rcases List.eq_nil_or_concat ys with rfl | ⟨ys, n, rfl⟩
  · rw [List.append_nil]
  · have hprefix := below_prefix (p.below xs) hys
    rw [← below_append] at hprefix
    refine below_sublist hprefix.sublist ?_ hzs
    rw [List.concat_eq_append, ← List.append_assoc, below_concat]
    exact getLast?_join _ (hys n (by simp))

end Path

namespace Disk

variable {d : Disk} {top : Path} {route before after : List Name} {l place : Location}

/-! ## Following names -/

theorem Route.isName (hd : d.WellFormed) (h : d.Route top route) : ∀ n ∈ route, Path.IsName n := by
  intro n hn
  obtain ⟨before, after, rfl⟩ := List.append_of_mem hn
  obtain ⟨l, m, _, _, he⟩ := h before n after rfl
  obtain ⟨e, he⟩ := Option.isSome_iff_exists.1 he
  exact hd.isName he n (by simp)

/-- Where names lead that come after a path. -/
theorem locate_below (hroute : ∀ n ∈ route, Path.IsName n) (hne : route ≠ []) : d.locate (top.below route) = .ok place ↔
    checkPath (top.below route) = .ok () ∧ d.walk .whole linkLimit (d.start top) (top.steps ++ route) = .ok place := by
  obtain ⟨_, _, _, _, hnames⟩ := Path.below_eq_join top hne hroute
  rw [locate_eq_ok, hnames, start, start, (Path.steps_below top hroute).2]

theorem walk_of_locate (hroute : ∀ n ∈ route, Path.IsName n) (h : d.locate (top.below route) = .ok place) :
    d.walk .whole linkLimit (d.start top) (top.steps ++ route) = .ok place := by
  have hleads := leads_of_locate h
  obtain ⟨hsteps, habs⟩ := Path.steps_below top hroute
  rwa [Leads, start, hsteps, habs] at hleads

theorem locate_of_walk {m : Mode} (hroute : ∀ n ∈ route, Path.IsName n)
    (h : d.walk .whole linkLimit (d.start top) (top.steps ++ route) = .ok place)
    (hplace : d.get? place = some (.directory m)) (hcheck : checkPath (top.below route) = .ok ()) :
    d.locate (top.below route) = .ok place := by
  obtain ⟨hsteps, habs⟩ := Path.steps_below top hroute
  refine locate_eq_ok.2 ⟨hcheck, walk_names ?_ hplace⟩
  rwa [start, hsteps, habs]

/-- Names that can be followed lead down from a directory. -/
theorem route_of_walk (htop : top.bytes ≠ []) (hroute : ∀ n ∈ route, Path.IsName n)
    (hcheck : checkPath (top.below route) = .ok ())
    (h : d.walk .whole linkLimit (d.start top) (top.steps ++ route) = .ok place) : d.Route top route := by
  rintro before n after rfl
  have hn := hroute n (by simp)
  have hbefore : ∀ k ∈ before, Path.IsName k := fun k hk => hroute k (List.mem_append_left _ hk)
  rw [← List.append_assoc] at h
  obtain ⟨l, k, hl, h⟩ := walk_left h
  obtain ⟨m, hm⟩ := walk_enter hn.ne_nil h
  have hdir := enter_directory hm
  refine ⟨l, m, locate_of_walk hbefore hl hdir (checkPath_of_sublist hcheck ?sub ?ne), hdir, ?some⟩
  case sub =>
    rw [Path.below_append]
    exact (Path.below_prefix _ fun k hk => hroute k (List.mem_append_right _ hk)).sublist
  case ne => exact fun hnil => htop (List.prefix_nil.1 (hnil ▸ Path.below_prefix top hbefore))
  case some =>
    rw [← List.singleton_append] at h
    obtain ⟨l', _, hl', _⟩ := walk_left h
    rw [walk, leg_name hn, hm] at hl'
    cases he : d.get? (l ++ [n]) with
    | some e => rfl
    | none => by_cases hlen : Path.nameLimit < n.length <;> simp [he, hlen] at hl'

/-- Names can be left out of a path that is not too long. -/
theorem checkPath_shorter {xs ys zs : List Name} (htop : top.bytes ≠ [])
    (hnames : ∀ n ∈ xs ++ ys ++ zs, Path.IsName n) (h : checkPath (top.below (xs ++ ys ++ zs)) = .ok ()) :
    checkPath (top.below (xs ++ zs)) = .ok () := by
  have hys : ∀ n ∈ ys, Path.IsName n := fun n hn => hnames n (by simp [hn])
  have hzs : ∀ n ∈ zs, Path.IsName n := fun n hn => hnames n (by simp [hn])
  refine checkPath_of_sublist h (top.below_shorter hys hzs) fun hnil => htop (List.prefix_nil.1 (hnil ▸ ?_))
  exact top.below_prefix fun n hn => hnames n (by grind)

/-- A way that leads back can be taken again while links may be followed. -/
theorem walk_rounds {back : Nat} {loop : List Name} (h : d.walk .whole back l loop = .ok l) (rounds : Nat) :
    d.walk .whole (rounds * back) l (List.replicate rounds loop).flatten = .ok l := by
  induction rounds with
  | zero => rw [List.replicate_zero, List.flatten_nil, walk, leg]
  | succ rounds ih =>
    rw [List.replicate_succ, List.flatten_cons, Nat.succ_mul, Nat.add_comm]
    exact walk_add h ih

/-- A way that leads back can be left out. -/
theorem walk_without {links : Nat} {start : Location} {xs loop ys : List Name}
    (hl : d.walk .whole links start xs = .ok l) (hback : d.walk .whole links start (xs ++ loop) = .ok l)
    (h : d.walk .whole links start (xs ++ loop ++ ys) = .ok place) :
    d.walk .whole links start (xs ++ ys) = .ok place := by
  obtain ⟨k, _, hall⟩ := walk_spends hl
  have hrest : ∀ zs, d.walk .whole links start (xs ++ zs) = d.walk .whole k l zs := hall 0
  rw [hrest] at hback
  rw [List.append_assoc, hrest] at h
  obtain ⟨k', hle, hk'⟩ := walk_append hback ys
  rw [hrest]
  exact walk_more (hk' ▸ h) hle

/-! ## Ways without links -/

/-- No directory on the way is reached through a link. -/
def Unlinked (d : Disk) (top : Path) (route : List Name) : Prop :=
  ∀ before n after, route = before ++ n :: after → after ≠ [] →
    ∀ l target, d.locate (top.below before) = .ok l → d.get? (l ++ [n]) ≠ some (.link target)

/-- The last of some names stands at a place, in the directory that those before it lead to. -/
def Stands (d : Disk) (top : Path) (route : List Name) (place : Location) : Prop :=
  ∃ before n l, route = before ++ [n] ∧ d.locate (top.below before) = .ok l ∧ place = l ++ [n]

/-- Without links, names lead to the place that they are the names of. -/
theorem Route.straight (hd : d.WellFormed) (h : d.Route top (before ++ after)) (hafter : after ≠ [])
    (hplain : d.Unlinked top (before ++ after)) (hl : d.locate top = .ok l) :
    d.locate (top.below before) = .ok (l ++ before) := by
  induction before generalizing top l with
  | nil => rw [Path.below_nil, List.append_nil, hl]
  | cons n before ih =>
    obtain ⟨hn, hrest⟩ := route_cons.1 h
    obtain ⟨k, rest, hk⟩ := List.exists_cons_of_ne_nil (List.append_ne_nil_of_right_ne_nil before hafter)
    -- The next directory is there, for another name stands in it.
    obtain ⟨l', _, hl', _⟩ := hrest [] k rest hk
    obtain ⟨l₀, m, hl₀, hm, _⟩ := hn
    cases hl.symm.trans hl₀
    have hlink : ∀ target, d.get? (l ++ [n]) ≠ some (.link target) := fun target =>
      hplain [] n (before ++ after) rfl (by simp [hk]) l target hl
    have hnext := (leads_of_locate hl).join_unique (leads_of_locate hl') hm (h.isName hd n (by simp)) hlink
    rw [Path.below_cons, ih hrest ?_ (hnext ▸ hl'), List.append_assoc]
    · rfl
    · intro before' n' after' he
      exact hplain (n :: before') n' after' (by rw [List.cons_append, he, List.cons_append])

/-- Without links, there is one way to a place. -/
theorem Stands.unique {route' : List Name} (hd : d.WellFormed) (hl : d.locate top = .ok l) (h : d.Route top route)
    (h' : d.Route top route') (hplain : d.Unlinked top route) (hplain' : d.Unlinked top route')
    (hplace : d.Stands top route place) (hplace' : d.Stands top route' place) : route = route' := by
  obtain ⟨before, n, l₁, rfl, hl₁, rfl⟩ := hplace
  obtain ⟨before', n', l₂, rfl, hl₂, he⟩ := hplace'
  cases hl₁.symm.trans (h.straight hd (by simp) hplain hl)
  cases hl₂.symm.trans (h'.straight hd (by simp) hplain' hl)
  rwa [List.append_assoc, List.append_assoc, List.append_cancel_left_eq] at he

end Disk

/-! ## Loading again -/

namespace RuleFolder

open RuleFile (added notices)

section Again

variable {d : Disk} {w : Workbench} {top : Path} {before after loop : List Name} {place : Location}

/-- A rule file is one at the end of another way to it, and has the same rules there. -/
theorem IsFile.again {xs ys : List Name} {n : Name} (h : IsFile d top (xs ++ [n])) (hn : Path.IsName n)
    (hplace : d.locate (top.below (xs ++ [n])) = .ok place) (hys : d.Route top (ys ++ [n]))
    (hplace' : d.locate (top.below (ys ++ [n])) = .ok place) :
    IsFile d top (ys ++ [n]) ∧ RuleFile.load? d (top.below (ys ++ [n])) = RuleFile.load? d (top.below (xs ++ [n])) := by
  have hsame := hplace'.trans hplace.symm
  refine ⟨⟨hys, ?file, ?named⟩, ?rules⟩
  case file =>
    rw [isDirectory, metadata, hsame]
    exact h.file
  case named =>
    have hnamed := h.named
    rw [RuleFile.isRuleFile, Path.extension?, Path.below_concat, Path.fileName?_join _ hn] at hnamed ⊢
    exact hnamed
  case rules => rw [RuleFile.load?, RuleFile.load?, readText, readText, Disk.read, Disk.read, hsame]

/-- A rule file at the end of names that can be followed. -/
theorem IsFile.follow {xs ys : List Name} (hd : d.WellFormed) (htop : top.bytes ≠ []) (h : IsFile d top (xs ++ after))
    (hafter : after ≠ []) (hplace : d.locate (top.below (xs ++ after)) = .ok place) (hys : ∀ n ∈ ys, Path.IsName n)
    (hcheck : checkPath (top.below (ys ++ after)) = .ok ())
    (hwalk : d.walk .whole linkLimit (d.start top) (top.steps ++ (ys ++ after)) = .ok place) :
    IsFile d top (ys ++ after) ∧
      RuleFile.load? d (top.below (ys ++ after)) = RuleFile.load? d (top.below (xs ++ after)) := by
  have hnames : ∀ n ∈ ys ++ after, Path.IsName n := fun n hn =>
    (List.mem_append.1 hn).elim (hys n) fun hn => h.reached.isName hd n (List.mem_append_right _ hn)
  have hroute := route_of_walk htop hnames hcheck hwalk
  have hplace' := (locate_below hnames (by simp [hafter])).2 ⟨hcheck, hwalk⟩
  obtain ⟨after, n, rfl⟩ := (List.eq_nil_or_concat' after).resolve_left hafter
  simp only [← List.append_assoc] at h hplace hroute hplace' hnames ⊢
  exact h.again (hnames n (by simp)) hplace hroute hplace'

/-- Nothing is missed without a way that leads back. -/
theorem IsFile.without (hd : d.WellFormed) (htop : top.bytes ≠ []) (h : IsFile d top (before ++ loop ++ after))
    (hafter : after ≠ []) {l : Location} (hl : d.locate (top.below before) = .ok l)
    (hback : d.locate (top.below (before ++ loop)) = .ok l)
    (hplace : d.locate (top.below (before ++ loop ++ after)) = .ok place) :
    IsFile d top (before ++ after) ∧
      RuleFile.load? d (top.below (before ++ after)) = RuleFile.load? d (top.below (before ++ loop ++ after)) := by
  have hnames := h.reached.isName hd
  have hfirst : ∀ n ∈ before ++ loop, Path.IsName n := fun n hn => hnames n (List.mem_append_left _ hn)
  have hbefore : ∀ n ∈ before, Path.IsName n := fun n hn => hfirst n (List.mem_append_left _ hn)
  have hcheck := checkPath_shorter htop hnames (locate_eq_ok.1 hplace).1
  refine h.follow hd htop hafter hplace hbefore hcheck ?_
  have hwhole := walk_of_locate hnames hplace
  have hloop := walk_of_locate hfirst hback
  rw [← List.append_assoc] at hloop ⊢
  rw [← List.append_assoc, ← List.append_assoc] at hwhole
  exact walk_without (walk_of_locate hbefore hl) hloop hwhole

/-- A way that leads back leads to all files again. -/
theorem IsFile.rounds (hd : d.WellFormed) (htop : top.bytes ≠ []) (h : IsFile d top (before ++ after))
    (hafter : after ≠ []) {l : Location} {first back last rounds : Nat}
    (hl : d.walk .whole first (d.start top) (top.steps ++ before) = .ok l)
    (hback : d.walk .whole back l loop = .ok l) (hplace : d.walk .whole last l after = .ok place)
    (hloop : ∀ n ∈ loop, Path.IsName n) (hlinks : first + rounds * back + last ≤ linkLimit)
    (hcheck : checkPath (top.below (before ++ (List.replicate rounds loop).flatten ++ after)) = .ok ()) :
    IsFile d top (before ++ (List.replicate rounds loop).flatten ++ after) ∧
      RuleFile.load? d (top.below (before ++ (List.replicate rounds loop).flatten ++ after)) =
        RuleFile.load? d (top.below (before ++ after)) := by
  have hnames := h.reached.isName hd
  have hrounds : ∀ n ∈ before ++ (List.replicate rounds loop).flatten, Path.IsName n := by
    intro n hn
    rcases List.mem_append.1 hn with hn | hn
    · exact hnames n (List.mem_append_left _ hn)
    · obtain ⟨names, hmem, hn⟩ := List.mem_flatten.1 hn
      exact hloop n (List.eq_of_mem_replicate hmem ▸ hn)
  have hall : ∀ n ∈ before ++ (List.replicate rounds loop).flatten ++ after, Path.IsName n := fun n hn =>
    (List.mem_append.1 hn).elim (hrounds n) fun hn => hnames n (List.mem_append_right _ hn)
  have honce : d.locate (top.below (before ++ after)) = .ok place := by
    refine (locate_below hnames (by simp [hafter])).2 ⟨checkPath_shorter htop hall hcheck, ?_⟩
    rw [← List.append_assoc]
    exact walk_more (walk_add hl hplace) (by omega)
  refine h.follow hd htop hafter honce hrounds hcheck ?_
  rw [← List.append_assoc, ← List.append_assoc]
  exact walk_more (walk_add (walk_add hl (walk_rounds hback rounds)) hplace) hlinks

/-- How often the same files are at the ends of ways down. -/
structure Repeats (d : Disk) (top : Path) (routes : List (List Name)) : Prop where
  /-- Two ways without links lead to two files. -/
  once : ∀ route ∈ routes, ∀ route' ∈ routes, d.Unlinked top route → d.Unlinked top route' →
    ∀ place, d.Stands top route place → d.Stands top route' place → route = route'
  /-- What is at the end of a way that leads back to a directory is also there without going back. -/
  without : ∀ before loop after l place, before ++ loop ++ after ∈ routes → after ≠ [] →
    d.locate (top.below before) = .ok l → d.locate (top.below (before ++ loop)) = .ok l →
    d.locate (top.below (before ++ loop ++ after)) = .ok place →
    before ++ after ∈ routes ∧
      added d (top.below (before ++ after)) = added d (top.below (before ++ loop ++ after))
  /-- Going back leads to all of it again, for as many rounds as links may be followed and the path is not too long. -/
  rounds : ∀ before loop after l place first back last rounds, before ++ after ∈ routes → after ≠ [] →
    d.walk .whole first (d.start top) (top.steps ++ before) = .ok l → d.walk .whole back l loop = .ok l →
    d.walk .whole last l after = .ok place → (∀ n ∈ loop, Path.IsName n) →
    first + rounds * back + last ≤ linkLimit →
    checkPath (top.below (before ++ (List.replicate rounds loop).flatten ++ after)) = .ok () →
    before ++ (List.replicate rounds loop).flatten ++ after ∈ routes ∧
      added d (top.below (before ++ (List.replicate rounds loop).flatten ++ after)) =
        added d (top.below (before ++ after))

theorem Found.repeats {routes : List (List Name)} (hd : d.WellFormed) (hdir : d.isDirectory top = true)
    (h : Found d top (fun _ => True) routes) : Repeats d top routes := by
  obtain ⟨l, m, hl, _⟩ := isDirectory_eq_true.1 hdir
  have htop := (checkPath_eq_ok (locate_eq_ok.1 hl).1).1
  have hfile : ∀ {route}, route ∈ routes → IsFile d top route := fun hroute => ((h.mem _).1 hroute).1
  refine ⟨?once, ?without, ?rounds⟩
  case once =>
    intro route hroute route' hroute' hplain hplain' place hplace hplace'
    exact hplace.unique hd hl (hfile hroute).reached (hfile hroute').reached hplain hplain' hplace'
  case without =>
    intro before loop after l place hroute hafter hl hback hplace
    obtain ⟨hshort, hsame⟩ := (hfile hroute).without hd htop hafter hl hback hplace
    exact ⟨(h.mem _).2 ⟨hshort, trivial⟩, by rw [added, added, hsame]⟩
  case rounds =>
    intro before loop after l place first back last rounds hroute hafter hl hback hplace hloop hlinks hcheck
    obtain ⟨hlong, hsame⟩ := (hfile hroute).rounds hd htop hafter hl hback hplace hloop hlinks hcheck
    exact ⟨(h.mem _).2 ⟨hlong, trivial⟩, by rw [added, added, hsame]⟩

/-- **Rule files that are loaded again.** The rules of a directory are those of the rule files at the ends of all ways
down, in order. A file is loaded once by ways without links. A way that leads back to a directory is followed like any
other: no file is loaded only because of it, but all files below that directory are loaded again, round after round. -/
theorem load_repeats (hd : w.disk.WellFormed) (hdir : w.disk.isDirectory top = true)
    (hlist : ∀ route, IsFolder w.disk top route → ∃ names, w.disk.list (top.below route) = .ok names) :
    ∃ routes : List (List Name), routes.Pairwise (· < ·) ∧ (∀ route, route ∈ routes ↔ IsFile w.disk top route) ∧
      Repeats w.disk top routes ∧ (load top).run w = (.ok (routes.flatMap fun route => added w.disk (top.below route)),
        w.saying (routes.flatMap fun route => notices w.disk (top.below route))) := by
  have hspec := load_spec hd hdir
  generalize (load top).run w = result at hspec
  cases hspec with
  | @all routes h =>
    refine ⟨routes, h.ordered, fun route => ?_, h.repeats hd hdir, rfl⟩
    rw [h.mem, and_iff_left trivial]
  | @stuck route c w' hfolder _ hstuck _ =>
    obtain ⟨names, hnames⟩ := hlist route hfolder
    cases hstuck.symm.trans hnames

end Again

/-- A directory with one rule, and a link back to the directory. -/
def circle : Disk where
  entries :=
    [([Text.encode "rules"], .directory 0o755),
      ([Text.encode "rules", Text.encode "a.yaml"], .file (Text.encode "name: r\npattern: a\nreplace: b\n") 0o644),
      ([Text.encode "rules", Text.encode "back"], .link (.ofString "."))]

theorem load_repeats_circle : ∃ routes : List (List Name), Repeats circle (.ofString "rules") routes ∧
    (∀ rounds ≤ 40, List.replicate rounds (Text.encode "back") ++ [Text.encode "a.yaml"] ∈ routes) ∧
    ((load (.ofString "rules")).run { disk := circle }).1 =
      .ok (routes.flatMap fun route => added circle ((Path.ofString "rules").below route)) := by
  have hd : circle.WellFormed := by decide +kernel
  have hdir : circle.isDirectory (.ofString "rules") = true := by decide +kernel
  obtain ⟨routes, _, hmem, hrepeats, hload⟩ := load_repeats (w := { disk := circle }) hd hdir
    fun route hfolder => list_of_privileged rfl hfolder.2
  have hfirst : [Text.encode "a.yaml"] ∈ routes := by
    refine (hmem _).2 ⟨route_cons.2 ⟨⟨[Text.encode "rules"], 0o755, ?_, ?_, ?_⟩, .nil _ _⟩, ?_, ?_⟩ <;> decide +kernel
  have hcheck : ∀ rounds ≤ 40, checkPath ((Path.ofString "rules").below
      (List.replicate rounds (Text.encode "back") ++ [Text.encode "a.yaml"])) = .ok () := by decide +kernel
  refine ⟨routes, hrepeats, fun rounds hrounds => ?_, congrArg Prod.fst hload⟩
  have hflat : (List.replicate rounds [Text.encode "back"]).flatten = List.replicate rounds (Text.encode "back") := by
    simp
  have hagain := hrepeats.rounds [] [Text.encode "back"] [Text.encode "a.yaml"] [Text.encode "rules"]
    [Text.encode "rules", Text.encode "a.yaml"] 0 1 0 rounds hfirst (by simp) (by decide +kernel) (by decide +kernel)
    (by decide +kernel) (by decide +kernel) (by rw [linkLimit]; omega)
    (by rw [List.nil_append, hflat]; exact hcheck rounds hrounds)
  rw [List.nil_append, hflat] at hagain
  exact hagain.1

/-- The rule of the circle is loaded 41 times, though its one link leads back to the directory. -/
theorem load_circle : circle.WellFormed ∧
    circle.locate ((Path.ofString "rules").join (.ofString "back")) = circle.locate (.ofString "rules") ∧
    (((load (.ofString "rules")).run { disk := circle }).1.toOption.getD []).map (fun r => r.rule.name) =
      List.replicate 41 "r" := by
  refine ⟨?_, ?_, ?_⟩ <;> decide +kernel

end RuleFolder

end Retarget
