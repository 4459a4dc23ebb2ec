import Retarget.Proofs.RulePass
import Retarget.Text.Utf8

/-!
# Edits made at once

Edits are made from the last one to the first. The result can be said without that order: it is the source from left to
right, with the bytes between the edits as they are and the texts of the edits in between (`Edit.splice`).

* `LastFirst`: the one order in which edits are checked and made,
* `checkAll_eq_ok_iff`, `checkAll_eq_error_iff`: which lists pass the checks, and what is said of one that does not,
* `LastFirst.clear`, `Clear.pairwise_apart`: edits that pass are apart, and with one start each, the other way round,
* `foldr_replace_splice`: making edits from the last one to the first splices them into the source,
* `applyAll_splices`: all this for edits in any order,
* `applyAll_reordered`: the order that edits are given in does not matter.
-/

namespace Retarget

/-! ## Places in a text -/

namespace Text

/-- The bytes of characters. -/
def encodeChars (cs : List Char) : Bytes := cs.flatMap String.utf8EncodeChar

@[simp] theorem encode_ofList (cs : List Char) : encode (String.ofList cs) = encodeChars cs := by
  rw [encode, String.toList_ofList, encodeChars]

theorem encodeChars_append (a b : List Char) : encodeChars (a ++ b) = encodeChars a ++ encodeChars b :=
  List.flatMap_append

theorem encodeChars_cons (c : Char) (cs : List Char) :
    encodeChars (c :: cs) = String.utf8EncodeChar c ++ encodeChars cs := List.flatMap_cons

theorem length_encodeChars (cs : List Char) : (encodeChars cs).length = byteLength cs := by
  induction cs with
  | nil => rfl
  | cons c cs ih =>
    rw [encodeChars_cons, List.length_append, String.length_utf8EncodeChar, ih, byteLength]

/-- A boundary is a place after a beginning of the text. -/
theorem isBoundary_iff {cs : List Char} {n : Nat} :
    isBoundary cs n = true ↔ ∃ pre post, cs = pre ++ post ∧ byteLength pre = n := by
  rw [isBoundary, Option.isSome_iff_exists]
  constructor
  · rintro ⟨⟨pre, post⟩, h⟩
    exact ⟨pre, post, splitAt?_eq_some h⟩
  · rintro ⟨pre, post, rfl, rfl⟩
    exact ⟨(pre, post), splitAt?_append pre post⟩

/-- Of two beginnings of a text the longer one goes on from the other. -/
theorem exists_append_of_le {a b x y : List Char} (h : a ++ x = b ++ y) (hle : byteLength a ≤ byteLength b) :
    ∃ mid, b = a ++ mid ∧ x = mid ++ y := by
  rcases List.append_eq_append_iff.1 h with ⟨mid, hb, hx⟩ | ⟨mid, ha, hy⟩
  · exact ⟨mid, hb, hx⟩
  · cases mid with
    | nil => exact ⟨[], by simpa using ha.symm, by simpa using hy.symm⟩
    | cons c mid =>
      have hpos := byteLength_pos (List.cons_ne_nil c mid)
      rw [ha, byteLength_append] at hle
      omega

end Text

namespace Edit

open Text

/-! ## The order of edits -/

/-- The edits from the last start to the first, where edits with one start keep their order. -/
structure LastFirst (edits sorted : List Edit) : Prop where
  perm : sorted.Perm edits
  ordered : sorted.Pairwise fun a b => b.start ≤ a.start
  stable : ∀ n, sorted.filter (fun e => e.start == n) = edits.filter fun e => e.start == n

/-- Sorting gives this order. -/
theorem lastFirst_descending (edits : List Edit) : LastFirst edits (descending edits) where
  perm := List.mergeSort_perm _ _
  ordered := by
    have hsorted : (descending edits).Pairwise fun a b => decide (b.start ≤ a.start) = true := List.pairwise_mergeSort
      (fun a b c => by simp only [decide_eq_true_eq]; omega)
      (fun a b => by simp only [Bool.or_eq_true, decide_eq_true_eq]; omega) edits
    exact hsorted.imp fun h => by simpa using h
  stable n := by
    -- Edits with one start are in order wherever they stand, so the sort keeps them as a sublist.
    have hone : (edits.filter fun e => e.start == n).Pairwise fun a b => decide (b.start ≤ a.start) = true := by
      refine List.pairwise_of_forall_mem_list fun a ha b hb => ?_
      have ha' := (List.mem_filter.1 ha).2
      have hb' := (List.mem_filter.1 hb).2
      simp only [beq_iff_eq] at ha' hb'
      simp only [decide_eq_true_eq]
      omega
    have hsub : (edits.filter fun e => e.start == n).Sublist (descending edits) :=
      List.sublist_mergeSort (fun a b c => by simp only [decide_eq_true_eq]; omega)
        (fun a b => by simp only [Bool.or_eq_true, decide_eq_true_eq]; omega) hone List.filter_sublist
    have hfilter := hsub.filter fun e => e.start == n
    rw [List.filter_filter] at hfilter
    simp only [Bool.and_self] at hfilter
    exact (hfilter.eq_of_length ((List.mergeSort_perm edits _).filter _).length_eq.symm).symm

/-- There is one such order only. -/
theorem LastFirst.unique {edits s t : List Edit} (hs : LastFirst edits s) (ht : LastFirst edits t) : s = t := by
  have hperm : s.Perm t := hs.perm.trans ht.perm.symm
  have hstable : ∀ n, s.filter (fun e => e.start == n) = t.filter fun e => e.start == n :=
    fun n => (hs.stable n).trans (ht.stable n).symm
  have hs' := hs.ordered
  have ht' := ht.ordered
  clear hs ht
  induction s generalizing t with
  | nil => exact (List.nil_perm.1 hperm).symm
  | cons a s ih =>
    cases t with
    | nil => exact List.perm_nil.1 hperm
    | cons b t =>
      obtain ⟨ha, hsRest⟩ := List.pairwise_cons.1 hs'
      obtain ⟨hb, htRest⟩ := List.pairwise_cons.1 ht'
      -- Both begin with the greatest start.
      have hstart : b.start = a.start := by
        have hab : b.start ≤ a.start := by
          rcases List.mem_cons.1 (hperm.mem_iff.2 List.mem_cons_self) with he | hmem
          · rw [he]
          · exact ha b hmem
        have hba : a.start ≤ b.start := by
          rcases List.mem_cons.1 (hperm.mem_iff.1 List.mem_cons_self) with he | hmem
          · rw [he]
          · exact hb a hmem
        omega
      have hfirst := hstable a.start
      simp only [List.filter_cons, hstart, beq_self_eq_true, if_true, List.cons.injEq] at hfirst
      obtain ⟨rfl, hrest⟩ := hfirst
      refine congrArg (a :: ·) (ih hperm.cons_inv (fun n => ?_) hsRest htRest)
      have hn := hstable n
      by_cases h : a.start = n
      · rw [← h]
        exact hrest
      · simpa only [List.filter_cons, beq_eq_false_iff_ne.2 h, Bool.false_eq_true, if_false] using hn

theorem lastFirst_iff {edits sorted : List Edit} : LastFirst edits sorted ↔ sorted = descending edits :=
  ⟨fun h => h.unique (lastFirst_descending edits), fun h => h ▸ lastFirst_descending edits⟩

/-! ## The checks -/

/-- Two edits of which one ends at or before the start of the other. -/
def Apart (a b : Edit) : Prop := a.stop ≤ b.start ∨ b.stop ≤ a.start

theorem Apart.symm {a b : Edit} (h : Apart a b) : Apart b a := Or.symm h

/-- Ranges that are not empty are apart exactly if they share no byte. -/
theorem apart_iff {a b : Edit} (ha : a.start < a.stop) (hb : b.start < b.stop) :
    Apart a b ↔ ∀ i, ¬ ((a.start ≤ i ∧ i < a.stop) ∧ b.start ≤ i ∧ i < b.stop) := by
  constructor
  · rintro (h | h) i hi <;> omega
  · intro h
    have := h (max a.start b.start)
    unfold Apart
    omega

/-- Every edit fits, and each one ends at or before the start of the one in front of it. -/
structure Clear (source : List Char) (sorted : List Edit) : Prop where
  fits : ∀ e ∈ sorted, e.Fits source
  chain : sorted.IsChain fun a b => b.stop ≤ a.start

/-- What is wrong with an edit, by the first check that it fails. `limit` is the start of the edit in front of it. -/
inductive Fault (source : List Char) (limit : Option Nat) (e : Edit) : EditError → Prop
  | outOfBounds (h : byteLength source < e.stop ∨ e.stop < e.start) :
    Fault source limit e (.outOfBounds e.start e.stop (byteLength source))
  | notBoundary (hordered : e.start ≤ e.stop) (hinside : e.stop ≤ byteLength source)
    (h : isBoundary source e.start = false ∨ isBoundary source e.stop = false) :
    Fault source limit e (.notBoundary e.start e.stop)
  | overlapping {n : Nat} (hfits : e.Fits source) (hlimit : limit = some n) (h : n < e.stop) :
    Fault source limit e (.overlapping e.start)

variable {source : List Char} {limit : Option Nat} {e : Edit} {sorted : List Edit}

theorem Fault.check_eq {err : EditError} (h : Fault source limit e err) : e.check source limit = .error err := by
  cases h with
  | outOfBounds h => rw [check, if_pos h]
  | notBoundary hordered hinside h =>
    rw [check, if_neg (by omega), if_pos (by simpa using h)]
  | @overlapping n hfits hlimit h =>
    have hordered := hfits.ordered
    have hinside := hfits.inside
    rw [check, if_neg (by omega), if_neg (by simp [hfits.start_boundary, hfits.stop_boundary]),
      if_pos (by simpa [hlimit] using h)]

theorem check_cases (source : List Char) (limit : Option Nat) (e : Edit) :
    (e.check source limit = .ok () ∧ e.Fits source ∧ ∀ n, limit = some n → e.stop ≤ n) ∨
    ∃ err, Fault source limit e err := by
  by_cases hin : byteLength source < e.stop ∨ e.stop < e.start
  · exact .inr ⟨_, .outOfBounds hin⟩
  by_cases hb : isBoundary source e.start = false ∨ isBoundary source e.stop = false
  · exact .inr ⟨_, .notBoundary (by omega) (by omega) hb⟩
  simp only [not_or, Bool.not_eq_false] at hb
  have hfits : e.Fits source := ⟨by omega, by omega, hb.1, hb.2⟩
  by_cases hover : ∃ n, limit = some n ∧ n < e.stop
  · obtain ⟨n, hn, h⟩ := hover
    exact .inr ⟨_, .overlapping hfits hn h⟩
  · have hlimit : ∀ n, limit = some n → e.stop ≤ n := fun n hn => not_lt.1 fun h => hover ⟨n, hn, h⟩
    refine .inl ⟨?_, hfits, hlimit⟩
    rw [check, if_neg hin, if_neg (by simp [hb]), if_neg]
    cases limit with
    | none => simp
    | some n => simpa using hlimit n rfl

/-- An edit passes if it fits and ends at or before the start of the edit in front of it. -/
theorem check_eq_ok_iff : e.check source limit = .ok () ↔ e.Fits source ∧ ∀ n, limit = some n → e.stop ≤ n := by
  rcases check_cases source limit e with ⟨h, hfits⟩ | ⟨err, hfault⟩
  · exact ⟨fun _ => hfits, fun _ => h⟩
  · simp only [hfault.check_eq, reduceCtorEq, false_iff]
    rintro ⟨hfits, hlimit⟩
    cases hfault with
    | outOfBounds h =>
      have := hfits.ordered
      have := hfits.inside
      omega
    | notBoundary _ _ h => simp [hfits.start_boundary, hfits.stop_boundary] at h
    | overlapping _ hn h => exact absurd h (not_lt.2 (hlimit _ hn))

/-! ### One check after another -/

theorem checkAll_cons_ok (h : e.check source limit = .ok ()) (rest : List Edit) :
    checkAll source limit (e :: rest) = checkAll source (some e.start) rest := by
  rw [checkAll, h]
  rfl

theorem checkAll_cons_error {err : EditError} (h : e.check source limit = .error err) (rest : List Edit) :
    checkAll source limit (e :: rest) = .error err := by
  rw [checkAll, h]
  rfl

/-- A list passes if it is clear, and its first edit ends at or before the limit. -/
theorem checkAll_eq_ok_iff : checkAll source limit sorted = .ok () ↔
    Clear source sorted ∧ ∀ e, sorted.head? = some e → ∀ n, limit = some n → e.stop ≤ n := by
  induction sorted generalizing limit with
  | nil => simpa [checkAll] using Clear.mk (by simp) (by simp)
  | cons e rest ih =>
    constructor
    · intro h
      rcases check_cases source limit e with ⟨he, hfits, hlimit⟩ | ⟨err, hfault⟩
      · obtain ⟨hclear, hhead⟩ := ih.1 (checkAll_cons_ok he rest ▸ h)
        refine ⟨⟨List.forall_mem_cons.2 ⟨hfits, hclear.fits⟩, ?_⟩, by rintro _ ⟨⟩; exact hlimit⟩
        exact List.isChain_cons.2 ⟨fun e' he' => hhead e' he' _ rfl, hclear.chain⟩
      · cases (checkAll_cons_error hfault.check_eq rest).symm.trans h
    · rintro ⟨⟨hfits, hchain⟩, hlimit⟩
      obtain ⟨hhead, hchain⟩ := List.isChain_cons.1 hchain
      rw [checkAll_cons_ok (check_eq_ok_iff.2 ⟨hfits e List.mem_cons_self, hlimit e rfl⟩)]
      refine ih.2 ⟨⟨fun e' he' => hfits e' (List.mem_cons_of_mem _ he'), hchain⟩, ?_⟩
      rintro e' he' _ ⟨⟩
      exact hhead e' he'

/-- The start of the last of some edits, or else the limit that they were checked against. -/
def lastStart (limit : Option Nat) (edits : List Edit) : Option Nat := (edits.getLast?.map Edit.start).or limit

theorem lastStart_cons (limit : Option Nat) (e : Edit) (rest : List Edit) :
    lastStart limit (e :: rest) = lastStart (some e.start) rest := by
  cases rest with
  | nil => rfl
  | cons e' rest => simp [lastStart, List.getLast?_cons]

/-- What is said of a list that does not pass is what is wrong with its first edit that does not. -/
theorem checkAll_eq_error_iff {err : EditError} : checkAll source limit sorted = .error err ↔
    ∃ before e after, sorted = before ++ e :: after ∧ checkAll source limit before = .ok () ∧
      Fault source (lastStart limit before) e err := by
  induction sorted generalizing limit with
  | nil => simp [checkAll]
  | cons e rest ih =>
    rcases check_cases source limit e with ⟨he, _⟩ | ⟨err', hfault⟩
    · rw [checkAll_cons_ok he, ih]
      constructor
      · rintro ⟨before, e', after, rfl, hbefore, hfault⟩
        refine ⟨e :: before, e', after, rfl, (checkAll_cons_ok he before).trans hbefore, ?_⟩
        rwa [lastStart_cons]
      · rintro ⟨before, e', after, hsplit, hbefore, hfault⟩
        cases before with
        | nil =>
          cases hsplit
          cases he.symm.trans hfault.check_eq
        | cons _ before =>
          cases hsplit
          refine ⟨before, e', after, rfl, (checkAll_cons_ok he before).symm.trans hbefore, ?_⟩
          rwa [lastStart_cons] at hfault
    · rw [checkAll_cons_error hfault.check_eq]
      constructor
      · rintro ⟨⟩
        exact ⟨[], e, rest, rfl, rfl, hfault⟩
      · rintro ⟨before, e', after, hsplit, hbefore, hfault'⟩
        cases before with
        | nil =>
          cases hsplit
          exact hfault.check_eq.symm.trans hfault'.check_eq
        | cons _ before =>
          cases hsplit
          cases (checkAll_cons_error hfault.check_eq before).symm.trans hbefore

/-! ### Edits that are apart -/

/-- In a list that is clear, each edit ends at or before the starts of all in front of it. -/
theorem Clear.pairwise (h : Clear source sorted) : sorted.Pairwise fun a b => b.stop ≤ a.start := by
  obtain ⟨hfits, hchain⟩ := h
  induction sorted with
  | nil => exact .nil
  | cons e rest ih =>
    obtain ⟨hhead, hchain⟩ := List.isChain_cons.1 hchain
    have hrest := ih (fun e' he' => hfits e' (List.mem_cons_of_mem _ he')) hchain
    refine List.pairwise_cons.2 ⟨fun b hb => ?_, hrest⟩
    cases rest with
    | nil => cases hb
    | cons c rest =>
      have hc := hhead c rfl
      rcases List.mem_cons.1 hb with rfl | hb
      · exact hc
      · have hbc := (List.pairwise_cons.1 hrest).1 b hb
        have hordered := (hfits c (by simp)).ordered
        omega

/-- Edits that pass are apart from one another. -/
theorem Clear.pairwise_apart {edits : List Edit} (h : Clear source sorted) (hsorted : LastFirst edits sorted) :
    edits.Pairwise Apart :=
  (hsorted.perm.pairwise_iff Apart.symm).1 (h.pairwise.imp .inr)

/-- Edits with different starts that fit and are apart from one another pass. -/
theorem LastFirst.clear {edits : List Edit} (h : LastFirst edits sorted) (hstarts : (edits.map Edit.start).Nodup)
    (hfits : ∀ e ∈ edits, e.Fits source) (hapart : edits.Pairwise Apart) : Clear source sorted := by
  have hfits' : ∀ e ∈ sorted, e.Fits source := fun e he => hfits e (h.perm.mem_iff.1 he)
  have hstarts' : sorted.Pairwise fun a b => a.start ≠ b.start :=
    List.pairwise_map.1 ((h.perm.map Edit.start).nodup_iff.2 hstarts)
  have hapart' := (h.perm.pairwise_iff Apart.symm).2 hapart
  refine ⟨hfits', List.Pairwise.isChain ?_⟩
  refine ((h.ordered.and hstarts').and hapart').imp_of_mem fun {a b} ha hb hab => ?_
  obtain ⟨⟨hle, hne⟩, hout | hout⟩ := hab
  · have := (hfits' a ha).ordered
    omega
  · exact hout

/-! ## From the last edit to the first -/

/-- The bytes of a source from a place on, with the texts of some edits, from left to right, in the place of their
ranges. -/
def splice (source : Bytes) : Nat → List Edit → Bytes
  | pos, [] => source.drop pos
  | pos, e :: rest => (source.drop pos).take (e.start - pos) ++ encode e.text ++ splice source e.stop rest

/-- An edit that fits a text fits it still when only what comes after the edit has changed. -/
theorem Fits.keep {pre post tail : List Char} (h : e.Fits (pre ++ post)) (hstop : e.stop ≤ byteLength pre) :
    e.Fits (pre ++ tail) := by
  have hordered := h.ordered
  have hboundary : ∀ n, n ≤ byteLength pre → isBoundary (pre ++ post) n = true → isBoundary (pre ++ tail) n = true := by
    intro n hn hb
    obtain ⟨a, b, hsplit, rfl⟩ := isBoundary_iff.1 hb
    obtain ⟨mid, rfl, _⟩ := exists_append_of_le hsplit.symm hn
    exact isBoundary_iff.2 ⟨a, mid ++ tail, List.append_assoc .., rfl⟩
  refine ⟨hordered, ?_, hboundary _ (by omega) h.start_boundary, hboundary _ hstop h.stop_boundary⟩
  rw [byteLength_append]
  omega

/-- Making edits from the last one to the first leaves the source in front of them as it is, and puts their texts into
the rest. -/
theorem foldr_replace_splice (asc : List Edit) {pre post : List Char} (hfits : ∀ e ∈ asc, e.Fits (pre ++ post))
    (hasc : asc.Pairwise fun a b => a.stop ≤ b.start) (hpre : ∀ e ∈ asc, byteLength pre ≤ e.start) :
    ∃ tail, asc.foldr (fun e cs => e.replace cs) (pre ++ post) = pre ++ tail ∧
      encodeChars tail = splice (encodeChars (pre ++ post)) (byteLength pre) asc := by
  have hdrop : ∀ {a b : List Char}, (encodeChars (a ++ b)).drop (byteLength a) = encodeChars b := by
    intro a b
    rw [encodeChars_append, ← length_encodeChars, List.drop_left]
  induction asc generalizing pre post with
  | nil => exact ⟨post, rfl, hdrop.symm⟩
  | cons e rest ih =>
    obtain ⟨hhead, hasc⟩ := List.pairwise_cons.1 hasc
    have he := hfits e List.mem_cons_self
    have hordered := he.ordered
    -- The source is what is in front of the place, a gap, the range of the edit, and what comes after it.
    obtain ⟨a, x, hax, hstart⟩ := isBoundary_iff.1 he.start_boundary
    obtain ⟨b, y, hby, hstop⟩ := isBoundary_iff.1 he.stop_boundary
    obtain ⟨mid, rfl, rfl⟩ := exists_append_of_le (hax.symm.trans hby) (by omega)
    obtain ⟨gap, rfl, rfl⟩ := exists_append_of_le hax (by rw [hstart]; exact hpre e List.mem_cons_self)
    have hsource : pre ++ (gap ++ (mid ++ y)) = pre ++ gap ++ mid ++ y := by simp only [List.append_assoc]
    rw [hsource] at hfits ⊢
    obtain ⟨tail, hfold, htail⟩ := ih (fun e' he' => hfits e' (List.mem_cons_of_mem _ he')) hasc
      fun e' he' => hstop ▸ hhead e' he'
    refine ⟨gap ++ e.text.toList ++ tail, ?_, ?_⟩
    · rw [List.foldr_cons, hfold, replace_eq hstart.symm hstop.symm]
      simp only [List.append_assoc]
    · have hgap : e.start - byteLength pre = (encodeChars gap).length := by
        rw [length_encodeChars, ← hstart, byteLength_append]
        omega
      have hrest : (encodeChars (pre ++ gap ++ mid ++ y)).drop (byteLength pre) =
          encodeChars gap ++ encodeChars (mid ++ y) := by
        rw [← encodeChars_append, ← hsource]
        exact hdrop
      rw [splice, hrest, hgap, List.take_left, ← hstop, ← htail, encodeChars_append, encodeChars_append]
      rfl

/-- Each edit of a list that is clear fits the text that the edits in front of it have left. -/
theorem Clear.fits_step {before after : List Edit} (h : Clear source (before ++ e :: after)) :
    e.Fits (before.foldl replace source) := by
  have he := h.fits e (by simp)
  obtain ⟨pre, post, rfl, hstop⟩ := isBoundary_iff.1 he.stop_boundary
  have hpair := List.pairwise_append.1 h.pairwise
  obtain ⟨tail, hfold, _⟩ := foldr_replace_splice before.reverse (fun e' he' => h.fits e' (by simp_all))
    (List.pairwise_reverse.2 hpair.1)
    (fun e' he' => hstop ▸ hpair.2.2 e' (List.mem_reverse.1 he') e List.mem_cons_self)
  rw [← List.foldl_reverse, List.reverse_reverse] at hfold
  rw [hfold]
  exact he.keep hstop.ge

/-- Making the edits of a list that is clear splices them into the source. -/
theorem Clear.encode_foldl (h : Clear source sorted) :
    encodeChars (sorted.foldl replace source) = splice (encodeChars source) 0 sorted.reverse := by
  have hfits : ∀ e ∈ sorted.reverse, e.Fits ([] ++ source) := fun e he => h.fits e (List.mem_reverse.1 he)
  obtain ⟨tail, hfold, htail⟩ := foldr_replace_splice sorted.reverse hfits (List.pairwise_reverse.2 h.pairwise)
    fun _ _ => Nat.zero_le _
  rw [← List.foldl_reverse, List.reverse_reverse] at hfold
  have hmade : sorted.foldl replace source = tail := hfold
  rw [hmade, htail]
  rfl

/-! ## All edits -/

theorem applyAll_cases (source : String) (edits : List Edit) :
    (Clear source.toList (descending edits) ∧
      applyAll source edits = .ok (String.ofList ((descending edits).foldl replace source.toList))) ∨
    ∃ err, applyAll source edits = .error err ∧ checkAll source.toList none (descending edits) = .error err := by
  cases hcheck : checkAll source.toList none (descending edits) with
  | ok u => exact .inl ⟨(checkAll_eq_ok_iff.1 hcheck).1, applyAll_of_checked hcheck⟩
  | error err =>
    refine .inr ⟨err, ?_, rfl⟩
    show (do checkAll source.toList none (descending edits); pure _) = _
    rw [hcheck]
    rfl

/-- Edits in any order are put into their one order from the last start to the first. They are made exactly if they all
fit and each one ends at or before the start of the one in front of it. Then they are apart, and each of them fits what
is left by those before it, so none is passed over; edits with different starts need only fit and be apart. The result
is the source from left to right, with the texts in the place of the ranges. What is said of edits that are not made is
what is wrong with the first of them in that order. -/
theorem applyAll_splices (source : String) (edits : List Edit) :
    ∃ sorted, (∀ other, LastFirst edits other ↔ other = sorted) ∧
      ((∃ text, applyAll source edits = .ok text) ↔ Clear source.toList sorted) ∧
      (Clear source.toList sorted → edits.Pairwise Apart) ∧
      ((edits.map Edit.start).Nodup →
        (Clear source.toList sorted ↔ (∀ e ∈ edits, e.Fits source.toList) ∧ edits.Pairwise Apart)) ∧
      (∀ text, applyAll source edits = .ok text → encode text = splice (encode source) 0 sorted.reverse) ∧
      (∀ before e after, sorted = before ++ e :: after → Clear source.toList sorted →
        e.Fits (before.foldl replace source.toList)) ∧
      ∀ err, applyAll source edits = .error err ↔ ∃ before e after, sorted = before ++ e :: after ∧
        Clear source.toList before ∧ Fault source.toList (before.getLast?.map Edit.start) e err := by
  have hsorted := lastFirst_descending edits
  have hclear : ∀ {sorted}, checkAll source.toList none sorted = .ok () ↔ Clear source.toList sorted := by
    intro sorted
    rw [checkAll_eq_ok_iff]
    simp
  have herror : ∀ err, applyAll source edits = .error err ↔
      checkAll source.toList none (descending edits) = .error err := by
    intro err
    rcases applyAll_cases source edits with ⟨h, hok⟩ | ⟨err', hfail, hcheck⟩
    · simp [hok, hclear.2 h]
    · simp [hfail, hcheck]
  refine ⟨descending edits, fun _ => lastFirst_iff, ?_, fun h => h.pairwise_apart hsorted, fun hstarts => ?_, ?_, ?_,
    ?_⟩
  · rcases applyAll_cases source edits with ⟨h, hok⟩ | ⟨err, hfail, hcheck⟩
    · simp [hok, h]
    · simp [hfail, ← hclear, hcheck]
  · exact ⟨fun h => ⟨fun e he => h.fits e (hsorted.perm.mem_iff.2 he), h.pairwise_apart hsorted⟩,
      fun h => hsorted.clear hstarts h.1 h.2⟩
  · intro text htext
    rcases applyAll_cases source edits with ⟨h, hok⟩ | ⟨err, hfail, _⟩
    · cases hok.symm.trans htext
      rw [encode_ofList, h.encode_foldl]
      rfl
    · cases hfail.symm.trans htext
  · rintro before e after hsplit h
    exact (hsplit ▸ h).fits_step
  · intro err
    rw [herror, checkAll_eq_error_iff]
    simp only [hclear, lastStart, Option.or_none]

/-- Insertions at one place come out in the reverse order. -/
example : applyAll "ab" [⟨1, 1, "x", ""⟩, ⟨1, 1, "y", ""⟩] = .ok "ayxb" := by cbv

/-! ## Edits in another order -/

/-- The same edits in another order, where edits with one start keep theirs. -/
structure Reordered (edits other : List Edit) : Prop where
  perm : other.Perm edits
  ties : ∀ n, other.filter (fun e => e.start == n) = edits.filter fun e => e.start == n

/-- Both have the same order from the last start to the first. -/
theorem Reordered.lastFirst {edits other : List Edit} (h : Reordered edits other) (hsorted : LastFirst other sorted) :
    LastFirst edits sorted where
  perm := hsorted.perm.trans h.perm
  ordered := hsorted.ordered
  stable n := (hsorted.stable n).trans (h.ties n)

/-- Edits with different starts have no ties to keep. -/
theorem reordered_of_nodup {edits other : List Edit} (hperm : other.Perm edits)
    (hstarts : (edits.map Edit.start).Nodup) : Reordered edits other := by
  refine ⟨hperm, fun n => ?_⟩
  have hdiffer : ∀ {l : List Edit}, l.Perm edits → (l.filter fun e => e.start == n).Pairwise fun a b =>
      a.start ≠ b.start := by
    intro l hl
    have hnodup := (hl.map Edit.start).nodup_iff.2 hstarts
    exact (List.pairwise_map.1 hnodup).sublist List.filter_sublist
  -- All that is left has the start n, so there is nothing that could stand in another order.
  refine List.Perm.eq_of_pairwise ?_ (hdiffer hperm) (hdiffer (.refl edits)) (hperm.filter _)
  intro a b ha hb hne _
  have ha' : a.start = n := by simpa using (List.mem_filter.1 ha).2
  have hb' : b.start = n := by simpa using (List.mem_filter.1 hb).2
  exact absurd (ha'.trans hb'.symm) hne

/-- What comes of edits depends on the one order that they are sorted into. -/
theorem applyAll_congr {edits other : List Edit} (source : String) (h : descending other = descending edits) :
    applyAll source other = applyAll source edits := by
  unfold applyAll
  rw [h]

/-- The order that edits are given in does not matter, as long as edits with one start keep theirs; so it does not
matter at all for edits with different starts. The text is the same, and so is what is said of edits that cannot be
made. -/
theorem applyAll_reordered (source : String) (edits other : List Edit) :
    (Reordered edits other → applyAll source other = applyAll source edits) ∧
    (other.Perm edits → (edits.map Edit.start).Nodup → applyAll source other = applyAll source edits) := by
  have hsame : Reordered edits other → applyAll source other = applyAll source edits := by
    intro h
    apply applyAll_congr
    exact lastFirst_iff.1 (h.lastFirst (lastFirst_descending other))
  constructor
  · exact hsame
  · intro hperm hstarts
    exact hsame (reordered_of_nodup hperm hstarts)

/-- An edit may move in front of insertions, or between them; the insertions stay in order. -/
theorem applyAll_reordered_insertions :
    Reordered [⟨1, 1, "x", ""⟩, ⟨0, 1, "A", ""⟩, ⟨1, 1, "y", ""⟩] [⟨0, 1, "A", ""⟩, ⟨1, 1, "x", ""⟩, ⟨1, 1, "y", ""⟩] ∧
      applyAll "ab" [⟨0, 1, "A", ""⟩, ⟨1, 1, "x", ""⟩, ⟨1, 1, "y", ""⟩] = .ok "Ayxb" := by
  have h : Reordered [⟨1, 1, "x", ""⟩, ⟨0, 1, "A", ""⟩, ⟨1, 1, "y", ""⟩]
      [⟨0, 1, "A", ""⟩, ⟨1, 1, "x", ""⟩, ⟨1, 1, "y", ""⟩] := by
    refine ⟨by decide, fun n => ?_⟩
    rcases n with _ | _ | n <;> rfl
  refine ⟨h, ((applyAll_reordered "ab" _ _).1 h).trans ?_⟩
  have hsorted : [⟨1, 1, "x", ""⟩, ⟨1, 1, "y", ""⟩, ⟨0, 1, "A", ""⟩] =
      descending [⟨1, 1, "x", ""⟩, ⟨0, 1, "A", ""⟩, ⟨1, 1, "y", ""⟩] := by
    refine lastFirst_iff.1 ⟨by decide, by simp, fun n => ?_⟩
    rcases n with _ | _ | n <;> rfl
  rw [applyAll, ← hsorted]
  rfl

end Edit

end Retarget
