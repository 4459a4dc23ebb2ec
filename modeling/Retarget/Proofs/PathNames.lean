import Mathlib.Data.List.Basic
import Mathlib.Data.List.TakeWhile
import Retarget.Disk.Lookup

/-!
# The names of a path

What a path leads to depends on the names between its slashes only (`Path.steps`).

* `Path.steps_join`: a name after a path adds one step,
* `Path.steps_parent`: the parent of a path leaves out its last steps,
* `Path.below`: a path, and names after it one by one,
* `Path.startsWith_toPath`: the paths of places compare as the places do.
-/

namespace Retarget.Path

/-! ## Parts -/

theorem parts_ne_nil (bs : Bytes) : parts bs ≠ [] := by
  cases bs with
  | nil => simp [parts]
  | cons b bs =>
    unfold parts
    split
    · simp
    · split <;> simp

/-- A slash separates parts. -/
theorem parts_append_slash (xs ys : Bytes) : parts (xs ++ slash :: ys) = parts xs ++ parts ys := by
  induction xs with
  | nil => simp [parts]
  | cons x xs ih =>
    rw [List.cons_append, parts, parts, ih]
    split
    · rfl
    · cases hp : parts xs with
      | nil => exact absurd hp (parts_ne_nil xs)
      | cons p ps => rfl

theorem parts_of_not_mem {n : Bytes} (h : slash ∉ n) : parts n = [n] := by
  induction n with
  | nil => rfl
  | cons b n ih =>
    obtain ⟨hb, hn⟩ := not_or.1 (fun hc => h (List.mem_cons.2 hc))
    rw [parts, if_neg (by simpa using Ne.symm hb), ih hn]

theorem slash_not_mem_of_mem_parts {bs part : Bytes} (h : part ∈ parts bs) : slash ∉ part := by
  induction bs generalizing part with
  | nil =>
    rw [parts, List.mem_singleton] at h
    simp [h]
  | cons b bs ih =>
    rw [parts] at h
    split at h
    · rcases List.mem_cons.1 h with rfl | h
      · simp
      · exact ih h
    · next hb =>
      have hne : slash ≠ b := fun he => hb (by simp [he])
      split at h
      · rw [List.mem_singleton] at h
        simpa [h] using hne
      · next p ps hp =>
        rcases List.mem_cons.1 h with rfl | h
        · have hp : slash ∉ p := ih (by rw [hp]; exact List.mem_cons_self)
          simp [hne, hp]
        · exact ih (by rw [hp]; exact List.mem_cons_of_mem _ h)

/-! ## Steps -/

/-- A name of an entry. -/
structure IsName (n : Name) : Prop where
  ne_nil : n ≠ []
  no_slash : slash ∉ n
  ne_here : n ≠ here
  ne_above : n ≠ above

/-- The names of a path, without regard to a slash at the end. -/
def steps (p : Path) : List Name := (parts p.bytes).filter fun n => !n.isEmpty

theorem names_eq (p : Path) : p.names = p.steps ++ if (parts p.bytes).getLast? == some [] then [[]] else [] := rfl

theorem names_ne_nil (p : Path) : p.names ≠ [] := by
  intro hnil
  rw [names_eq, List.append_eq_nil_iff] at hnil
  obtain ⟨hsteps, hlast⟩ := hnil
  have hempty := List.filter_eq_nil_iff.1 hsteps _ (List.getLast_mem (parts_ne_nil p.bytes))
  rw [List.getLast?_eq_some_getLast (parts_ne_nil p.bytes), if_pos (by simpa using hempty)] at hlast
  cases hlast

theorem filter_names (p : Path) : p.names.filter (fun n => !n.isEmpty) = p.steps := by
  rw [names_eq, List.filter_append]
  have hsteps : p.steps.filter (fun n => !n.isEmpty) = p.steps := by simp [steps]
  rw [hsteps]
  split <;> simp

theorem IsName.head?_ne {n : Name} (h : IsName n) : n.head? ≠ some slash := fun he =>
  h.no_slash (List.mem_of_mem_head? he)

theorem IsName.relative {n : Name} (h : IsName n) : isAbsolute ⟨n⟩ = false := by
  simpa [isAbsolute] using h.head?_ne

/-- The parts of a path with a name after it. -/
theorem parts_join (p : Path) {n : Name} (h : IsName n) :
    ∃ before, parts (p.join ⟨n⟩).bytes = before ++ [n] ∧ before.filter (fun n => !n.isEmpty) = p.steps := by
  rw [join, h.relative, if_neg (by simp)]
  split
  · exact ⟨parts p.bytes, by rw [parts_append_slash, parts_of_not_mem h.no_slash], rfl⟩
  · next hlast =>
    rcases List.eq_nil_or_concat p.bytes with hnil | ⟨bs, b, hb⟩
    · exact ⟨[], by simp [hnil, parts_of_not_mem h.no_slash], by simp [steps, hnil, parts]⟩
    · -- the path ends in a slash
      rw [List.concat_eq_append] at hb
      obtain rfl : b = slash := by simpa [hb] using hlast
      refine ⟨parts bs, ?_, ?_⟩
      · rw [hb, List.append_assoc, List.singleton_append, parts_append_slash, parts_of_not_mem h.no_slash]
      · simp [steps, hb, parts_append_slash, parts]

/-- A name after a path adds one step. -/
theorem steps_join (p : Path) {n : Name} (h : IsName n) : (p.join ⟨n⟩).steps = p.steps ++ [n] := by
  obtain ⟨before, hparts, hbefore⟩ := parts_join p h
  rw [steps, hparts, List.filter_append, hbefore]
  simp [h.ne_nil]

theorem names_join (p : Path) {n : Name} (h : IsName n) : (p.join ⟨n⟩).names = p.steps ++ [n] := by
  obtain ⟨before, hparts, _⟩ := parts_join p h
  rw [names_eq, steps_join p h, hparts]
  simp [h.ne_nil]

theorem isAbsolute_join (p : Path) {n : Name} (h : IsName n) : (p.join ⟨n⟩).isAbsolute = p.isAbsolute := by
  rw [join, h.relative, if_neg (by simp)]
  obtain ⟨bs⟩ := p
  cases bs with
  | nil => simpa [isAbsolute] using h.head?_ne
  | cons b bs => split <;> simp [isAbsolute]

theorem join_bytes_ne_nil (p : Path) {n : Name} (h : IsName n) : (p.join ⟨n⟩).bytes ≠ [] := by
  intro hnil
  obtain ⟨before, hparts, _⟩ := parts_join p h
  rw [hnil] at hparts
  cases before with
  | nil =>
    have : n = [] := by simpa [parts, eq_comm] using hparts
    exact h.ne_nil this
  | cons b bs => simp [parts] at hparts

/-! ## Parents -/

/-- A slash separates steps. -/
theorem steps_append_slash (xs ys : Bytes) : steps ⟨xs ++ slash :: ys⟩ = steps ⟨xs⟩ ++ steps ⟨ys⟩ := by
  simp [steps, parts_append_slash]

theorem steps_part {part : Bytes} (h : slash ∉ part) : steps ⟨part⟩ = if part = [] then [] else [part] := by
  rw [steps, parts_of_not_mem h]
  split <;> simp_all

/-- The part after the last slash, of bytes in reverse order. -/
def lastPart (rev : Bytes) : Bytes := (rev.takeWhile (· != slash)).reverse

/-- What is before the last slash, of bytes in reverse order. -/
def beforePart (rev : Bytes) : Bytes := (rev.dropWhile (· != slash)).drop 1

theorem slash_not_mem_lastPart (rev : Bytes) : slash ∉ lastPart rev := by
  intro hmem
  simpa using List.mem_takeWhile_imp (List.mem_reverse.1 hmem)

/-- The steps of bytes are those before the last slash and the one after it. -/
theorem steps_cut (rev : Bytes) : steps ⟨rev.reverse⟩ = steps ⟨(beforePart rev).reverse⟩ ++ steps ⟨lastPart rev⟩ := by
  have hsplit := List.takeWhile_append_dropWhile (p := (· != slash)) (l := rev)
  unfold beforePart lastPart
  cases hd : rev.dropWhile (· != slash) with
  | nil =>
    rw [hd, List.append_nil] at hsplit
    rw [hsplit]
    simp [steps, parts]
  | cons b before =>
    have hb : b = slash := by
      have := List.head?_dropWhile_not (· != slash) rev
      rw [hd] at this
      simpa using this
    rw [hd, hb] at hsplit
    conv => lhs; rw [← hsplit]
    simp [steps_append_slash]

theorem length_beforePart {rev : Bytes} (h : rev ≠ []) : (beforePart rev).length < rev.length := by
  have hle : (rev.dropWhile (· != slash)).length ≤ rev.length := (List.dropWhile_sublist _).length_le
  have hpos := List.length_pos_iff.2 h
  rw [beforePart, List.length_drop]
  omega

theorem trimBack_succ (drop : Bool) (fuel : Nat) {rev : Bytes} (h : rev ≠ []) : trimBack drop (fuel + 1) rev =
    if (component? (lastPart rev)).isSome then if drop then trimBack false fuel (beforePart rev) else rev
    else trimBack drop fuel (beforePart rev) := by
  rw [trimBack, if_neg (by simpa using h)]
  rfl

/-- What is left of bytes is their start. -/
theorem trimBack_suffix (drop : Bool) (fuel : Nat) (rev : Bytes) : trimBack drop fuel rev <:+ rev := by
  induction fuel generalizing drop rev with
  | zero => exact List.suffix_refl rev
  | succ fuel ih =>
    by_cases hne : rev = []
    · simp [trimBack, hne]
    have hbefore : beforePart rev <:+ rev := (List.drop_suffix _ _).trans (List.dropWhile_suffix _)
    rw [trimBack_succ drop fuel hne]
    split
    · split
      · exact (ih false _).trans hbefore
      · exact List.suffix_refl rev
    · exact (ih drop _).trans hbefore

/-- A part that is no component is empty or a full stop. -/
theorem steps_of_component?_none {part : Bytes} (h : slash ∉ part) (hc : (component? part).isSome = false) :
    ∀ k ∈ steps ⟨part⟩, k = here := by
  have hpart : part = [] ∨ part = [dot] := by
    unfold component? at hc
    split at hc
    · next hp => simpa using hp
    · split at hc <;> cases hc
  rw [steps_part h]
  rcases hpart with rfl | rfl <;> simp [here]

theorem ne_nil_of_component? {part : Bytes} (h : (component? part).isSome = true) : part ≠ [] := by
  rintro rfl
  simp [component?] at h

theorem trimBack_false (fuel : Nat) (rev : Bytes) : ∃ dots, (∀ k ∈ dots, k = here) ∧
    steps ⟨rev.reverse⟩ = steps ⟨(trimBack false fuel rev).reverse⟩ ++ dots := by
  induction fuel generalizing rev with
  | zero => exact ⟨[], by simp, by simp [trimBack]⟩
  | succ fuel ih =>
    by_cases hne : rev = []
    · exact ⟨[], by simp, by simp [trimBack, hne]⟩
    rw [trimBack_succ false fuel hne]
    split
    · exact ⟨[], by simp, by simp⟩
    · next hc =>
      obtain ⟨dots, hdots, hsteps⟩ := ih (beforePart rev)
      have hlast := steps_of_component?_none (slash_not_mem_lastPart rev) (by simpa using hc)
      refine ⟨dots ++ steps ⟨lastPart rev⟩, fun k hk => ?_, ?_⟩
      · exact (List.mem_append.1 hk).elim (hdots k) (hlast k)
      · rw [steps_cut, hsteps, List.append_assoc]

/-- The last component goes, with the full stops around it. -/
theorem trimBack_true {fuel : Nat} (rev : Bytes) (hfuel : rev.length < fuel) :
    (∀ k ∈ steps ⟨rev.reverse⟩, k = here) ∨
    ∃ part dots dots', (component? part).isSome = true ∧ (∀ k ∈ dots, k = here) ∧ (∀ k ∈ dots', k = here) ∧
      steps ⟨rev.reverse⟩ = steps ⟨(trimBack true fuel rev).reverse⟩ ++ (dots ++ part :: dots') := by
  induction fuel generalizing rev with
  | zero => omega
  | succ fuel ih =>
    by_cases hne : rev = []
    · exact .inl (by simp [hne, steps, parts])
    have hlen := length_beforePart hne
    rw [trimBack_succ true fuel hne, steps_cut]
    split
    · next hc =>
      obtain ⟨dots, hdots, hsteps⟩ := trimBack_false fuel (beforePart rev)
      have hpart : steps ⟨lastPart rev⟩ = [lastPart rev] := by
        rw [steps_part (slash_not_mem_lastPart rev), if_neg (ne_nil_of_component? hc)]
      refine .inr ⟨lastPart rev, dots, [], hc, hdots, by simp, ?_⟩
      rw [if_pos rfl, hsteps, hpart, List.append_assoc]
    · next hc =>
      have hlast := steps_of_component?_none (slash_not_mem_lastPart rev) (by simpa using hc)
      rcases ih (beforePart rev) (by omega) with hall | ⟨part, dots, dots', hpart, hdots, hdots', hsteps⟩
      · exact .inl fun k hk => (List.mem_append.1 hk).elim (hall k) (hlast k)
      · refine .inr ⟨part, dots, dots' ++ steps ⟨lastPart rev⟩, hpart, hdots, fun k hk => ?_, ?_⟩
        · exact (List.mem_append.1 hk).elim (hdots' k) (hlast k)
        · rw [hsteps]
          simp

theorem component?_eq_name {part n : Bytes} (h : component? part = some (.name n)) :
    part = n ∧ n ≠ [] ∧ n ≠ here ∧ n ≠ above := by
  unfold component? at h
  split at h
  · cases h
  · next hne =>
    split at h
    · cases h
    · next hup =>
      cases h
      simp only [Bool.or_eq_true, List.isEmpty_iff, beq_iff_eq, not_or] at hne hup
      exact ⟨rfl, hne.1, hne.2, hup⟩

theorem component?_here {k : Name} (h : k = here) : component? k = none := by
  rw [h]
  rfl

theorem IsName.component? {n : Name} (h : IsName n) : Path.component? n = some (.name n) := by
  have h₁ : (n.isEmpty || n == [dot]) = false := by simpa using ⟨h.ne_nil, h.ne_here⟩
  have h₂ : (n == [dot, dot]) = false := beq_eq_false_iff_ne.2 h.ne_above
  rw [Path.component?, h₁, h₂]
  rfl

/-- A part that is no step is no component. -/
theorem filterMap_component? (p : Path) : (parts p.bytes).filterMap component? = p.steps.filterMap component? := by
  rw [steps, List.filterMap_filter]
  congr 1
  funext part
  by_cases hpart : part = []
  · simp [hpart, component?]
  · simp [hpart]

/-- The name that a path ends in is the last of its steps that is a component. -/
theorem fileName?_eq_some {p : Path} {n : Name} :
    p.fileName? = some n ↔ (p.steps.filterMap component?).getLast? = some (.name n) := by
  have hlast : p.fileName? = some n ↔ p.components.getLast? = some (.name n) := by
    unfold fileName?
    split <;> simp_all
  rw [hlast, components]
  simp only [filterMap_component?]
  cases hs : (p.steps.filterMap component?).getLast? with
  | none =>
    rw [List.getLast?_eq_none_iff] at hs
    rw [hs]
    split
    · simp
    · split <;> simp
  | some c =>
    have hne : p.steps.filterMap component? ≠ [] := by
      intro hnil
      simp [hnil] at hs
    split
    · rw [List.getLast?_cons, hs]
      simp
    · split
      · rw [List.getLast?_cons, hs]
        simp
      · rw [hs]

theorem isName_of_fileName? {p : Path} {n : Name} (h : p.fileName? = some n) : IsName n := by
  obtain ⟨part, hpart, hc⟩ := List.mem_filterMap.1 (List.mem_of_getLast? (fileName?_eq_some.1 h))
  obtain ⟨rfl, h₁, h₂, h₃⟩ := component?_eq_name hc
  exact ⟨h₁, slash_not_mem_of_mem_parts (List.mem_filter.1 hpart).1, h₂, h₃⟩

/-- The start of a path has no components, and its steps are those before the rest. -/
theorem steps_head (p : Path) : ∃ dots, (∀ k ∈ dots, k = here) ∧
    ∀ bs, bs <+: p.bytes.drop p.headLength → steps ⟨p.bytes.take p.headLength ++ bs⟩ = dots ++ steps ⟨bs⟩ := by
  obtain ⟨bytes⟩ := p
  unfold headLength
  split
  · next habs =>
    obtain ⟨rest, rfl⟩ : ∃ rest, bytes = slash :: rest := by
      cases bytes with
      | nil => simp [isAbsolute] at habs
      | cons b rest => exact ⟨rest, by simpa [isAbsolute] using habs⟩
    exact ⟨[], by simp, fun bs _ => by simp [steps, parts]⟩
  · next hrel =>
    split
    · next hdot =>
      refine ⟨[here], by simp, ?_⟩
      cases bytes with
      | nil => simp [parts] at hdot
      | cons b rest =>
        have hb : (b == slash) = false := by simpa [isAbsolute] using hrel
        -- A part of its own: nothing follows the full stop, or a slash.
        obtain ⟨rfl, hrest⟩ : b = dot ∧ (rest = [] ∨ ∃ more, rest = slash :: more) := by
          obtain ⟨r, ps, hps⟩ := List.exists_cons_of_ne_nil (parts_ne_nil rest)
          have hparts : parts (b :: rest) = (b :: r) :: ps := by rw [parts, hb, hps]; rfl
          simp only [hparts, List.head?_cons, beq_iff_eq, Option.some.injEq, List.cons.injEq] at hdot
          obtain ⟨rfl, rfl⟩ := hdot
          refine ⟨rfl, ?_⟩
          cases rest with
          | nil => exact .inl rfl
          | cons c more =>
            refine .inr ⟨more, ?_⟩
            rw [parts] at hps
            split at hps
            · next hc => rw [beq_iff_eq.1 hc]
            · split at hps <;> simp at hps
        intro bs hbs
        have hcases : bs = [] ∨ ∃ more, bs = slash :: more := by
          cases bs with
          | nil => exact .inl rfl
          | cons c more =>
            rcases hrest with rfl | ⟨tail, rfl⟩
            · simp at hbs
            · rw [List.drop_succ_cons, List.drop_zero, List.cons_prefix_cons] at hbs
              exact .inr ⟨more, by rw [hbs.1]⟩
        rcases hcases with rfl | ⟨more, rfl⟩
        · simp [steps, parts, here, dot, slash]
        · simp [steps, parts, here, dot, slash]
    · exact ⟨[], by simp, fun bs _ => by simp⟩

/-- A path that ends in a name has a parent. The path goes on from it by that name, with nothing but full stops before
and after. -/
theorem steps_parent {p : Path} {n : Name} (h : p.fileName? = some n) :
    ∃ q dots dots', p.parent? = some q ∧ q.isAbsolute = p.isAbsolute ∧ (∀ k ∈ dots, k = here) ∧
      (∀ k ∈ dots', k = here) ∧ p.steps = q.steps ++ (dots ++ n :: dots') := by
  have hname := fileName?_eq_some.1 h
  have hlast : ∃ c, p.components.getLast? = some (.name c) := by
    unfold fileName? at h
    split at h
    · next m hm => exact ⟨m, hm⟩
    · cases h
  obtain ⟨c, hlast⟩ := hlast
  have hparent : p.parent? = some ⟨p.bytes.take p.headLength ++
      (trimBack true (p.bytes.length + 1) (p.bytes.drop p.headLength).reverse).reverse⟩ := by
    rw [parent?, hlast]
  have hfuel : (p.bytes.drop p.headLength).reverse.length < p.bytes.length + 1 := by
    rw [List.length_reverse, List.length_drop]
    omega
  obtain ⟨start, hstart, hhead⟩ := p.steps_head
  have hsteps : p.steps = start ++ steps ⟨p.bytes.drop p.headLength⟩ := by
    rw [← hhead _ (List.prefix_refl _), List.take_append_drop]
  have hrest := trimBack_suffix true (p.bytes.length + 1) (p.bytes.drop p.headLength).reverse
  have htrim := trimBack_true _ hfuel
  rw [List.reverse_reverse] at htrim
  generalize trimBack true (p.bytes.length + 1) (p.bytes.drop p.headLength).reverse = r at *
  have hprefix : r.reverse <+: p.bytes.drop p.headLength := by
    rw [← List.reverse_reverse (p.bytes.drop p.headLength), List.reverse_prefix]
    exact hrest
  -- Full stops are no components, so the last one is the part that goes.
  have hnone : ∀ dots : List Name, (∀ k ∈ dots, k = here) → dots.filterMap component? = [] := by
    intro dots hdots
    exact List.filterMap_eq_nil_iff.2 fun k hk => component?_here (hdots k hk)
  rcases htrim with hall | ⟨part, dots, dots', hpart, hdots, hdots', hcut⟩
  · rw [hsteps, List.filterMap_append, hnone _ hstart, hnone _ hall] at hname
    cases hname
  · obtain ⟨c', hc'⟩ := Option.isSome_iff_exists.1 hpart
    have hn : part = n := by
      rw [hsteps, hcut] at hname
      simp only [List.filterMap_append, List.filterMap_cons, hc', hnone _ hdots'] at hname
      rw [← List.append_assoc, ← List.append_assoc, List.getLast?_concat, Option.some.injEq] at hname
      rw [hname] at hc'
      exact (component?_eq_name hc').1
    refine ⟨_, dots, dots', hparent, ?_, hdots, hdots', ?_⟩
    · -- A start of the path that is not empty begins as the path does, and the root is kept.
      by_cases habs : p.isAbsolute = true
      · obtain ⟨bytes⟩ := p
        cases bytes with
        | nil => simp [isAbsolute] at habs
        | cons b rest =>
          rw [headLength, if_pos habs]
          simp [isAbsolute]
      · obtain ⟨tail, htail⟩ := hprefix
        have hbytes : p.bytes = (p.bytes.take p.headLength ++ r.reverse) ++ tail := by
          rw [List.append_assoc, htail, List.take_append_drop]
        rw [Bool.not_eq_true] at habs
        rw [habs]
        cases hq : p.bytes.take p.headLength ++ r.reverse with
        | nil => rfl
        | cons b bs =>
          rw [hq] at hbytes
          simpa [isAbsolute, hbytes] using habs
    · rw [hhead _ hprefix, hsteps, hcut, hn]
      simp

theorem fileName?_join (p : Path) {n : Name} (hn : IsName n) : (p.join ⟨n⟩).fileName? = some n := by
  rw [fileName?_eq_some, steps_join p hn, List.filterMap_append]
  simp [hn.component?]

/-- A name after a path, and the parent of that. -/
theorem parent?_join (p : Path) {n : Name} (hn : IsName n) : ∃ q dots, (p.join ⟨n⟩).parent? = some q ∧
    q.isAbsolute = p.isAbsolute ∧ (∀ k ∈ dots, k = here) ∧ p.steps = q.steps ++ dots := by
  obtain ⟨q, dots, dots', hparent, habs, hdots, hdots', hsteps⟩ := steps_parent (fileName?_join p hn)
  refine ⟨q, dots, hparent, habs.trans (isAbsolute_join p hn), hdots, ?_⟩
  rw [steps_join p hn] at hsteps
  rcases List.eq_nil_or_concat dots' with rfl | ⟨ks, k, rfl⟩
  · rw [← List.append_assoc] at hsteps
    exact List.append_inj_left' hsteps rfl
  · -- The last step is the name, and no full stop.
    have hk : k = here := hdots' k (by simp)
    rw [List.concat_eq_append, ← List.cons_append, ← List.append_assoc dots, ← List.append_assoc q.steps] at hsteps
    have hlast : [n] = [k] := List.append_inj_right' hsteps rfl
    exact (hn.ne_here ((List.cons.inj hlast).1.trans hk)).elim

/-- The parent of two names after a path leaves out the second one. -/
theorem parent?_join_join (p : Path) {n₁ n₂ : Name} (hn₁ : IsName n₁) (hn₂ : IsName n₂) :
    ∃ q, ((p.join ⟨n₁⟩).join ⟨n₂⟩).parent? = some q ∧ q.isAbsolute = p.isAbsolute ∧ q.steps = p.steps ++ [n₁] := by
  obtain ⟨q, dots, hparent, habs, hdots, hsteps⟩ := (p.join ⟨n₁⟩).parent?_join hn₂
  refine ⟨q, hparent, habs.trans (isAbsolute_join p hn₁), ?_⟩
  rw [steps_join p hn₁] at hsteps
  rcases List.eq_nil_or_concat dots with rfl | ⟨ks, k, rfl⟩
  · rw [hsteps, List.append_nil]
  · rw [List.concat_eq_append, ← List.append_assoc] at hsteps
    have hlast : [n₁] = [k] := List.append_inj_right' hsteps rfl
    exact (hn₁.ne_here ((List.cons.inj hlast).1.trans (hdots k (by simp)))).elim

/-- Only the empty path has no components. -/
theorem bytes_of_components {p : Path} (h : p.components.isEmpty = true) : p.bytes = [] := by
  obtain ⟨bytes⟩ := p
  cases bytes with
  | nil => rfl
  | cons b bs =>
    rw [components] at h
    simp only at h
    split at h
    · cases h
    · next hrel =>
      split at h
      · cases h
      · next hdot =>
        have hb : (b == slash) = false := by simpa [isAbsolute] using hrel
        obtain ⟨part, ps, hps⟩ := List.exists_cons_of_ne_nil (parts_ne_nil bs)
        have hparts : parts (b :: bs) = (b :: part) :: ps := by rw [parts, hb, hps]; rfl
        rw [hparts, List.head?_cons, beq_iff_eq, Option.some.injEq] at hdot
        -- The first part is neither empty nor a full stop, so it is a component.
        have hsome : (component? (b :: part)).isSome = true := by
          rw [component?, if_neg (by simpa using hdot)]
          split <;> rfl
        obtain ⟨c, hc⟩ := Option.isSome_iff_exists.1 hsome
        rw [hparts, List.filterMap_cons, hc] at h
        cases h

/-! ## Derived paths -/

theorem isName_marked {n : Name} (h : IsName n) : IsName (outputMarker ++ n) := by
  have hmarker : outputMarker = [99, 111, 110, 118, 101, 114, 116, 101, 100, 95] := by decide +kernel
  rw [hmarker]
  refine ⟨by simp, ?_, by simp [here, dot], by simp [above, dot]⟩
  intro hmem
  rcases List.mem_append.1 hmem with hmem | hmem
  · revert hmem
    decide
  · exact h.no_slash hmem

/-- The output beside a path has the same steps up to the parent, and a marked name after them. -/
theorem outputBeside?_spec {p o : Path} (h : p.outputBeside? = some o) :
    ∃ (q : Path) (n : Name) (rest : List Name), IsName (outputMarker ++ n) ∧ o = q.join ⟨outputMarker ++ n⟩ ∧
      p.steps = q.steps ++ rest ∧ rest ≠ [] ∧ q.isAbsolute = p.isAbsolute := by
  obtain ⟨n, hn, rfl⟩ := Option.map_eq_some_iff.1 h
  obtain ⟨q, dots, dots', hparent, habs, _, _, hsteps⟩ := steps_parent hn
  refine ⟨q, n, _, isName_marked (isName_of_fileName? hn), ?_, hsteps, by simp, habs⟩
  rw [withFileName, hn, hparent]
  rfl

/-- A path, and names after it one by one. -/
def below (p : Path) (names : List Name) : Path := names.foldl (fun p n => p.join ⟨n⟩) p

@[simp] theorem below_nil (p : Path) : p.below [] = p := rfl

@[simp] theorem below_cons (p : Path) (n : Name) (names : List Name) :
    p.below (n :: names) = (p.join ⟨n⟩).below names := rfl

theorem below_concat (p : Path) (names : List Name) (n : Name) : p.below (names ++ [n]) = (p.below names).join ⟨n⟩ := by
  rw [below, List.foldl_append]
  rfl

theorem steps_below (p : Path) {names : List Name} (h : ∀ n ∈ names, IsName n) :
    (p.below names).steps = p.steps ++ names ∧ (p.below names).isAbsolute = p.isAbsolute := by
  induction names generalizing p with
  | nil => simp
  | cons n names ih =>
    have hn := h n List.mem_cons_self
    obtain ⟨hsteps, habs⟩ := ih (p.join ⟨n⟩) fun m hm => h m (List.mem_cons_of_mem n hm)
    rw [below_cons, hsteps, habs, steps_join p hn, isAbsolute_join p hn, List.append_assoc]
    exact ⟨rfl, rfl⟩

/-- A path with names after it ends in a name. -/
theorem below_eq_join (p : Path) {names : List Name} (hne : names ≠ []) (h : ∀ n ∈ names, IsName n) :
    ∃ (q : Path) (n : Name), IsName n ∧ p.below names = q.join ⟨n⟩ ∧ (p.below names).names = p.steps ++ names := by
  obtain ⟨before, n, rfl⟩ : ∃ before n, names = before ++ [n] := by
    simpa using (List.eq_nil_or_concat names).resolve_left hne
  have hn := h n (by simp)
  refine ⟨p.below before, n, hn, below_concat p before n, ?_⟩
  rw [below_concat, names_join _ hn, (steps_below p fun k hk => h k (List.mem_append_left _ hk)).1, List.append_assoc]

/-! ## Paths after paths -/

theorem eq_of_bytes {p q : Path} (h : p.bytes = q.bytes) : p = q := by
  cases p
  cases q
  exact congrArg Path.mk h

/-- A slash stands between two paths, unless the first one ends in a slash or is empty. -/
theorem join_bytes (p : Path) {q : Path} (h : q.isAbsolute = false) :
    (p.join q).bytes = p.bytes ++ ((if p.bytes.getLast?.any (· != slash) then [slash] else []) ++ q.bytes) := by
  rw [join, h, if_neg (by simp)]
  split <;> rfl

theorem length_lt_join (p : Path) {n : Name} (hn : IsName n) : p.bytes.length < (p.join ⟨n⟩).bytes.length := by
  have hpos := List.length_pos_iff.2 hn.ne_nil
  rw [join_bytes p hn.relative, List.length_append, List.length_append]
  show p.bytes.length < _ + (_ + n.length)
  omega

theorem join_of_isAbsolute (p : Path) {q : Path} (h : q.isAbsolute = true) : p.join q = q := by rw [join, if_pos h]

theorem join_assoc (p q : Path) {n : Name} (hn : IsName n) : (p.join q).join ⟨n⟩ = p.join (q.join ⟨n⟩) := by
  have habs := isAbsolute_join q hn
  cases hq : q.isAbsolute with
  | true => rw [join_of_isAbsolute p hq, join_of_isAbsolute p (habs.trans hq)]
  | false =>
    apply eq_of_bytes
    rw [join_bytes _ hn.relative, join_bytes p hq, join_bytes p (habs.trans hq), join_bytes q hn.relative]
    rcases List.eq_nil_or_concat q.bytes with hnil | ⟨bs, b, hb⟩
    · by_cases hlast : p.bytes.getLast?.any (· != slash) = true <;> simp [hnil, hlast]
    · simp [hb]

/-- The empty path after a name asks for a directory. -/
theorem getLast?_names_join_empty (p : Path) {n : Name} (hn : IsName n) :
    ((p.join ⟨n⟩).join ⟨[]⟩).names.getLast? = some [] := by
  obtain ⟨bs, b, rfl⟩ : ∃ bs b, n = bs ++ [b] := by simpa using (List.eq_nil_or_concat n).resolve_left hn.ne_nil
  have hb : b ≠ slash := by
    rintro rfl
    exact hn.no_slash (by simp)
  have hbytes : ((p.join ⟨bs ++ [b]⟩).join ⟨[]⟩).bytes = (p.join ⟨bs ++ [b]⟩).bytes ++ slash :: [] := by
    rw [join_bytes _ (q := ⟨[]⟩) rfl, join_bytes p hn.relative]
    simp [hb]
  have hlast : ((parts ((p.join ⟨bs ++ [b]⟩).join ⟨[]⟩).bytes).getLast? == some []) = true := by
    rw [hbytes, parts_append_slash]
    simp [parts]
  rw [names_eq, hlast]
  simp

/-- A path after a path has the steps of both. -/
theorem steps_join_path (p : Path) {q : Path} (h : q.isAbsolute = false) : (p.join q).steps = p.steps ++ q.steps := by
  rw [join, h, if_neg (by simp)]
  split
  · exact steps_append_slash p.bytes q.bytes
  · next hlast =>
    obtain ⟨bytes⟩ := p
    rcases List.eq_nil_or_concat bytes with rfl | ⟨bs, b, rfl⟩
    · simp [steps, parts]
    · -- the first path ends in a slash
      rw [List.concat_eq_append] at hlast ⊢
      obtain rfl : b = slash := by simpa using hlast
      rw [List.append_assoc, List.singleton_append, steps_append_slash, steps_append_slash]
      simp [steps, parts]

theorem isAbsolute_join_path {p : Path} (q : Path) (h : p.isAbsolute = true) : (p.join q).isAbsolute = true := by
  rw [join]
  split
  · assumption
  · obtain ⟨bytes⟩ := p
    cases bytes with
    | nil => simp [isAbsolute] at h
    | cons b bs => split <;> simpa [isAbsolute] using h

/-! ## Paths of places -/

deriving instance ReflBEq, LawfulBEq for Path, Component

/-- The steps of the path of a place. -/
theorem steps_toPath {l : Location} (h : ∀ n ∈ l, IsName n) : l.toPath.steps = l ∧ l.toPath.isAbsolute = true := by
  have hparts : ∀ (n : Name) (l : Location), (∀ m ∈ n :: l, IsName m) →
      parts (((n :: l).map fun n => slash :: n).flatten) = [] :: n :: l := by
    intro n l h
    induction l generalizing n with
    | nil =>
      have hn := h n List.mem_cons_self
      simp [parts, parts_of_not_mem hn.no_slash]
    | cons m l ih =>
      have hn := h n List.mem_cons_self
      have hrest := ih m fun k hk => h k (List.mem_cons_of_mem _ hk)
      rw [List.map_cons, List.flatten_cons, List.cons_append, parts] at hrest ⊢
      simp only [beq_self_eq_true, if_true, List.cons.injEq, true_and] at hrest ⊢
      rw [List.map_cons, List.flatten_cons, List.cons_append, parts_append_slash, parts_of_not_mem hn.no_slash, hrest]
      rfl
  cases l with
  | nil => exact ⟨by simp [Location.toPath, steps, parts], by simp [Location.toPath, isAbsolute]⟩
  | cons n l =>
    have hnames : (n :: l).filter (fun n => !n.isEmpty) = n :: l :=
      List.filter_eq_self.2 fun m hm => by simpa using (h m hm).ne_nil
    refine ⟨?_, by simp [Location.toPath, isAbsolute]⟩
    show (parts ((n :: l).map fun n => slash :: n).flatten).filter (fun n => !n.isEmpty) = n :: l
    rw [hparts n l h, List.filter_cons_of_neg (by simp), hnames]

theorem toPath_concat (l : Location) (n : Name) :
    (Location.toPath (l ++ [n])).bytes = (l.map fun k => slash :: k).flatten ++ slash :: n := by
  have hflat : (Location.toPath (l ++ [n])).bytes = ((l ++ [n]).map fun k => slash :: k).flatten := by
    cases l <;> rfl
  rw [hflat]
  simp

/-- A name after the path of a place. -/
theorem toPath_join {l : Location} {n : Name} (hl : ∀ k ∈ l, IsName k) (hn : IsName n) :
    l.toPath.join ⟨n⟩ = Location.toPath (l ++ [n]) := by
  apply eq_of_bytes
  rw [join_bytes _ hn.relative, toPath_concat]
  rcases List.eq_nil_or_concat l with rfl | ⟨l, k, rfl⟩
  · simp [Location.toPath]
  · rw [List.concat_eq_append] at hl ⊢
    have hk := hl k (by simp)
    have hlast : (Location.toPath (l ++ [k])).bytes.getLast?.any (· != slash) = true := by
      obtain ⟨bs, b, rfl⟩ : ∃ bs b, k = bs ++ [b] := by
        simpa using (List.eq_nil_or_concat k).resolve_left hk.ne_nil
      have hne : b ≠ slash := by
        rintro rfl
        exact hk.no_slash (by simp)
      rw [toPath_concat, ← List.cons_append, ← List.append_assoc, List.getLast?_concat]
      simpa using hne
    rw [hlast, toPath_concat]
    simp

theorem components_toPath {l : Location} (h : ∀ n ∈ l, IsName n) : l.toPath.components = .root :: l.map .name := by
  obtain ⟨hsteps, habs⟩ := steps_toPath h
  have hnamed : l.filterMap component? = l.map .name :=
    List.filterMap_eq_map_iff_forall_eq_some.2 fun n hn => (h n hn).component?
  rw [components, habs, if_pos rfl, filterMap_component?, hsteps, hnamed]

/-- The path of a place begins with that of another if the place is at or below it. -/
theorem startsWith_toPath {l k : Location} (hl : ∀ n ∈ l, IsName n) (hk : ∀ n ∈ k, IsName n) :
    (Location.toPath k).startsWith l.toPath = true ↔ l <+: k := by
  rw [startsWith, components_toPath hl, components_toPath hk, List.isPrefixOf_iff_prefix, List.cons_prefix_cons]
  simp only [true_and]
  exact List.prefix_map_iff_of_injective (fun a b h => by simpa using h)
/-! ## Shorter paths -/

section Shorter

variable {p q : Path} {n : Name}

theorem parent?_bytes (h : p.parent? = some q) : q.bytes <+: p.bytes := by
  unfold parent? at h
  split at h
  · cases h
  · cases h
  · cases h
    exact List.nil_prefix
  · simp only [Option.some.injEq] at h
    subst h
    have hsuffix := trimBack_suffix true (p.bytes.length + 1) (p.bytes.drop p.headLength).reverse
    rw [← List.reverse_prefix, List.reverse_reverse] at hsuffix
    obtain ⟨rest, hrest⟩ := hsuffix
    refine ⟨rest, ?_⟩
    rw [List.append_assoc, hrest, List.take_append_drop]

theorem parent?_isAbsolute (h : p.parent? = some q) (hq : q.bytes ≠ []) : q.isAbsolute = p.isAbsolute := by
  obtain ⟨rest, hrest⟩ := parent?_bytes h
  obtain ⟨b, bs, hb⟩ := List.exists_cons_of_ne_nil hq
  simp [isAbsolute, ← hrest, hb]

/-- The parent of a path that ends in a name is shorter. -/
theorem length_parent? (hn : p.fileName? = some n) (h : p.parent? = some q) : q.bytes.length < p.bytes.length := by
  have hle := (parent?_bytes h).length_le
  obtain ⟨q', dots, dots', hq', _, _, _, hsteps⟩ := steps_parent hn
  obtain rfl : q' = q := Option.some.inj (hq'.symm.trans h)
  by_contra hlt
  have heq : q' = p := by
    have hbytes := (parent?_bytes h).eq_of_length (Nat.le_antisymm hle (Nat.le_of_not_lt hlt))
    exact eq_of_bytes hbytes
  rw [heq] at hsteps
  simpa using congrArg List.length hsteps

/-- The names among some steps, without full stops. -/
def named (xs : List Name) : List Name := xs.filter fun k => !(k.isEmpty || k == here)

theorem named_append (xs ys : List Name) : named (xs ++ ys) = named xs ++ named ys := List.filter_append ..

theorem named_dots {xs : List Name} (h : ∀ k ∈ xs, k = here) : named xs = [] := by
  rw [named, List.filter_eq_nil_iff]
  intro k hk
  simp [h k hk]

theorem named_cons (xs : List Name) (hn : IsName n) : named (n :: xs) = n :: named xs := by
  rw [named, List.filter_cons_of_pos]
  · rfl
  · simp [hn.ne_nil, hn.ne_here]

theorem named_of_isName {xs : List Name} (h : ∀ k ∈ xs, IsName k) : named xs = xs := by
  induction xs with
  | nil => rfl
  | cons k xs ih =>
    obtain ⟨hk, hxs⟩ := List.forall_mem_cons.1 h
    rw [named_cons xs hk, ih hxs]

/-- A path that goes on by names after a name ends in a name. -/
theorem fileName?_of_steps {before rest : List Name} (h : p.steps = before ++ n :: rest) (hn : IsName n)
    (hrest : ∀ k ∈ rest, k ≠ above) : ∃ k, p.fileName? = some k := by
  simp only [fileName?_eq_some, h, List.filterMap_append, List.filterMap_cons, hn.component?]
  rw [List.getLast?_append]
  cases hlast : (rest.filterMap component?).getLast? with
  | none => exact ⟨n, by simp [List.getLast?_cons, hlast]⟩
  | some c =>
    obtain ⟨part, hpart, hc⟩ := List.mem_filterMap.1 (List.mem_of_getLast? hlast)
    refine ⟨part, ?_⟩
    have hname : c = .name part := by
      unfold component? at hc
      split at hc
      · cases hc
      · split at hc
        · next hup => exact (hrest part hpart (by simpa [above] using hup)).elim
        · exact (Option.some.inj hc).symm
    simp [List.getLast?_cons, hlast, hname]

end Shorter

end Retarget.Path
