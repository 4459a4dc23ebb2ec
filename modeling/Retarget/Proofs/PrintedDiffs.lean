import Mathlib.Data.List.TakeWhile
import Mathlib.Data.String.Basic
import Retarget.Diff.Unified

/-!
# Printed diffs

A unified diff has hunks. A hunk is a header, which announces so many lines of the old and of the new text, and so many
lines, each after its sign. What is printed for two texts is that, but for lines without an end: an empty row follows
each of them, which no header announces.

* `IsHunk`, `IsUnified`: the format,
* `Hunk.ofChanges_fits`: each hunk of a script has lines that follow one another in both texts,
* `unifiedDiff_rows`: what is printed, and when it has the format,
* `unifiedDiff_unended`: two texts whose diff does not have it.

The texts have no carriage returns, so that a line ends in a line feed or, as the last one, in nothing.
-/

namespace Retarget

/-! ## The format -/

/-- Rows one below the other. -/
def printed (rows : List String) : String := String.join (rows.map (· ++ "\n"))

namespace Change

def line : Change → String
  | keep l | delete l | insert l => l

def sign : Change → String
  | keep _ => " "
  | delete _ => "-"
  | insert _ => "+"

/-- A line after its sign. -/
def row (c : Change) : String := c.sign ++ c.line

/-- The same change of another line. -/
def mapLine (f : String → String) : Change → Change
  | keep l => keep (f l)
  | delete l => delete (f l)
  | insert l => insert (f l)

end Change

/-- The first row of a hunk: after how many lines of both texts it stands, and how many lines of them it shows. -/
def headerRow (oldStart oldCount newStart newCount : Nat) : String :=
  "@@ -" ++ Hunk.range oldStart oldCount ++ " +" ++ Hunk.range newStart newCount ++ " @@"

/-- The rows of a hunk of two texts, whose lines are given without their ends. The header announces lines of both texts,
and these lines follow, each after its sign, as many as announced. Kept lines are lines of both texts, deleted ones of
the old text and inserted ones of the new text. -/
def IsHunk (olds news rows : List String) : Prop :=
  ∃ (oldStart oldCount newStart newCount : Nat) (body : List Change),
    rows = headerRow oldStart oldCount newStart newCount :: body.map Change.row ∧
    (Script.old body).length = oldCount ∧ (Script.new body).length = newCount ∧
    Script.old body <+: olds.drop oldStart ∧ Script.new body <+: news.drop newStart

/-- The two rows at the start of a diff. -/
def titles (path : Path) : String := "--- a/" ++ path.display ++ "\n+++ b/" ++ path.display ++ "\n"

/-- A unified diff of two texts: the titles, and then hunks and nothing else. -/
def IsUnified (path : Path) (old new diff : String) : Prop :=
  ∃ hunks : List (List String), (∀ rows ∈ hunks, IsHunk (Text.bareLines old) (Text.bareLines new) rows) ∧
    diff = titles path ++ printed hunks.flatten

/-! ## Lines and their ends -/

namespace Text

/-- Has a text no line end? -/
def IsPlain (s : String) : Prop := '\n' ∉ s.toList ∧ '\r' ∉ s.toList

instance (s : String) : Decidable (IsPlain s) := inferInstanceAs (Decidable (_ ∧ _))

@[simp] theorem isPlain_append {s t : String} : IsPlain (s ++ t) ↔ IsPlain s ∧ IsPlain t := by
  simp only [IsPlain, String.toList_append, List.mem_append, not_or]
  tauto

/-- A line without a line feed at its end. -/
def bare (line : String) : String := String.ofList (line.toList.takeWhile (· != '\n'))

theorem bare_of_not_mem {b : List Char} (h : '\n' ∉ b) : b.takeWhile (· != '\n') = b := by
  refine List.takeWhile_eq_self_iff.2 fun c hc => ?_
  rw [bne_iff_ne]
  rintro rfl
  exact h hc

theorem bare_of_ended {b : List Char} (h : '\n' ∉ b) : (b ++ ['\n']).takeWhile (· != '\n') = b := by
  rw [List.takeWhile_append, bare_of_not_mem h, if_pos rfl]
  simp

/-- A line is some characters and a line feed, or it is the last one and the end of the text. -/
theorem mem_splitFrom {line cs l : List Char} (hn : '\n' ∉ line) (hr : '\r' ∉ line) (hcs : '\r' ∉ cs)
    (hl : l ∈ splitFrom line cs) : ∃ b, '\n' ∉ b ∧ '\r' ∉ b ∧ (l = b ++ ['\n'] ∨
      l = b ∧ b ≠ [] ∧ (splitFrom line cs).getLast? = some l ∧ (line.reverse ++ cs).getLast? = l.getLast?) := by
  fun_induction splitFrom line cs with
  | case1 => cases hl
  | case2 line hne =>
    obtain rfl := List.mem_singleton.1 hl
    exact ⟨line.reverse, by simpa using hn, by simpa using hr, .inr ⟨rfl, by simpa using hne, rfl, by simp⟩⟩
  | case3 => simp at hcs
  | case4 line c rest _ hc ih =>
    have hend : c = '\n' := by
      have : c ≠ '\r' := fun h => hcs (h ▸ List.mem_cons_self)
      simpa [this] using hc
    subst hend
    rcases List.mem_cons.1 hl with rfl | hl
    · exact ⟨line.reverse, by simpa using hn, by simpa using hr, .inl (by simp)⟩
    · obtain ⟨b, hbn, hbr, hb⟩ := ih (by simp) (by simp) (fun h => hcs (List.mem_cons_of_mem _ h)) hl
      refine ⟨b, hbn, hbr, hb.imp id fun ⟨he, hne, hlast, htext⟩ => ⟨he, hne, ?_, ?_⟩⟩
      · rw [List.getLast?_cons, hlast]
        rfl
      · have hsome : l.getLast? = some (l.getLast (he ▸ hne)) := List.getLast?_eq_some_getLast _
        rw [List.reverse_nil, List.nil_append] at htext
        rw [List.getLast?_append, List.getLast?_cons, htext, hsome]
        rfl
  | case5 line c rest _ hc ih =>
    simp only [Bool.or_eq_true, beq_iff_eq, not_or] at hc
    obtain ⟨b, hbn, hbr, hb⟩ := ih (by simpa [Ne.symm hc.1] using hn) (by simpa [Ne.symm hc.2] using hr)
      (fun h => hcs (List.mem_cons_of_mem _ h)) hl
    exact ⟨b, hbn, hbr, by simpa using hb⟩

/-- The lines as they are shown are the lines without their ends. -/
theorem bareFrom_eq {line cs : List Char} (hr : '\r' ∉ line) (hn : '\n' ∉ line) (hcs : '\r' ∉ cs) :
    bareFrom line cs = (splitFrom line cs).map (List.takeWhile (· != '\n')) := by
  fun_induction splitFrom line cs with
  | case1 line hnil => simp [bareFrom, hnil]
  | case2 line hne =>
    have hbare := bare_of_not_mem (b := line.reverse) (by simpa using hn)
    simp [bareFrom, hne, hbare]
  | case3 => simp at hcs
  | case4 line c rest _ hc ih =>
    have hend : c = '\n' := by
      have : c ≠ '\r' := fun h => hcs (h ▸ List.mem_cons_self)
      simpa [this] using hc
    subst hend
    have hbare := bare_of_ended (b := line.reverse) (by simpa using hn)
    rw [bareFrom, if_pos (by simp), ih (by simp) (by simp) (fun h => hcs (List.mem_cons_of_mem _ h)), List.map_cons,
      List.reverse_cons, hbare]
    rintro before rfl
    simp at hr
  | case5 line c rest _ hc ih =>
    simp only [Bool.or_eq_true, beq_iff_eq, not_or] at hc
    have hnext : bareFrom line (c :: rest) = bareFrom (c :: line) rest := by
      conv_lhs => unfold bareFrom
      simp [hc.1]
    rw [hnext]
    exact ih (by simpa [Ne.symm hc.2] using hr) (by simpa [Ne.symm hc.1] using hn)
      (fun h => hcs (List.mem_cons_of_mem _ h))

variable {text l : String}

theorem bareLines_eq (h : '\r' ∉ text.toList) : bareLines text = (lines text).map bare := by
  rw [bareLines, lines, bareFrom_eq (by simp) (by simp) h, List.map_map, List.map_map]
  refine List.map_congr_left fun l _ => ?_
  simp [bare]

/-- A line is a bare line and a line feed, or it is the last one, and the text ends as it does. -/
theorem mem_lines (h : '\r' ∉ text.toList) (hl : l ∈ lines text) :
    IsPlain (bare l) ∧
    (isEnded l = true ∧ l = bare l ++ "\n" ∨
      isEnded l = false ∧ l = bare l ∧ (lines text).getLast? = some l ∧ text.toList.getLast? = l.toList.getLast?) := by
  obtain ⟨cs, hcs, rfl⟩ := List.mem_map.1 hl
  obtain ⟨b, hbn, hbr, rfl | ⟨rfl, hne, hlast, htext⟩⟩ := mem_splitFrom (by simp) (by simp) h hcs
  · have hbare : bare (String.ofList (b ++ ['\n'])) = String.ofList b := by
      rw [bare, String.toList_ofList, bare_of_ended hbn]
    rw [hbare]
    refine ⟨⟨by simpa using hbn, by simpa using hbr⟩, .inl ⟨by simp [isEnded], ?_⟩⟩
    rw [← String.toList_inj]
    simp
  · have hbare : bare (String.ofList cs) = String.ofList cs := by
      rw [bare, String.toList_ofList, bare_of_not_mem hbn]
    rw [hbare]
    refine ⟨⟨by simpa using hbn, by simpa using hbr⟩, .inr ⟨?_, rfl, ?_, by simpa using htext⟩⟩
    · have hmem := List.getLast_mem hne
      have hn : cs.getLast hne ≠ '\n' := fun h => hbn (h ▸ hmem)
      have hr : cs.getLast hne ≠ '\r' := fun h => hbr (h ▸ hmem)
      simp [isEnded, List.getLast?_eq_some_getLast hne, hn, hr]
    · rw [lines, List.getLast?_map, hlast]
      rfl

theorem isPlain_bareLines (h : '\r' ∉ text.toList) : ∀ b ∈ bareLines text, IsPlain b := by
  rw [bareLines_eq h]
  rintro b hb
  obtain ⟨l, hl, rfl⟩ := List.mem_map.1 hb
  exact (mem_lines h hl).1

/-- All lines have ends if the text has one. -/
theorem isEnded_of_mem_lines (h : '\r' ∉ text.toList) (hend : text = "" ∨ text.toList.getLast? = some '\n')
    (hl : l ∈ lines text) : isEnded l = true := by
  obtain ⟨_, ⟨hended, _⟩ | ⟨_, _, _, hlast⟩⟩ := mem_lines h hl
  · exact hended
  rcases hend with rfl | hend
  · cases hl
  · rw [isEnded, ← hlast, hend]
    rfl

end Text

/-! ## Hunks of a script -/

/-- The last lines that were read are `kept`, with the last one first, and `rest` comes next. -/
structure Reading (text : List String) (count : Nat) (kept rest : List String) : Prop where
  enough : kept.length ≤ count
  drop : text.drop (count - kept.length) = kept.reverse ++ rest

namespace Reading

variable {text kept rest : List String} {count : Nat} {l : String}

theorem keep (h : Reading text count kept (l :: rest)) : Reading text (count + 1) (l :: kept) rest where
  enough := Nat.succ_le_succ h.enough
  drop := by simp [h.drop]

/-- The last few of the kept lines come before the rest. -/
theorem lead (h : Reading text count kept rest) (k : Nat) :
    text.drop (count - (kept.take k).length) = (kept.take k).reverse ++ rest := by
  have hcount : count - (kept.take k).length = count - kept.length + (kept.length - (kept.take k).length) := by
    have := h.enough
    have := List.length_take_le k kept
    rw [List.length_take] at *
    omega
  have hsplit : kept.reverse = (kept.drop k).reverse ++ (kept.take k).reverse := by
    rw [← List.reverse_append, List.take_append_drop]
  rw [hcount, ← List.drop_drop, h.drop, hsplit, List.append_assoc]
  refine List.drop_left' ?_
  rw [List.length_reverse, List.length_drop, List.length_take]
  omega

/-- Lines that are not kept end the run of kept ones. -/
theorem change {ls : List String} (h : Reading text count kept (ls ++ rest)) :
    Reading text (count + ls.length) [] rest where
  enough := Nat.zero_le _
  drop := by
    have hhere := h.lead 0
    rw [List.take_zero, List.length_nil, Nat.sub_zero] at hhere
    rw [List.length_nil, Nat.sub_zero, ← List.drop_drop, hhere]
    simp

end Reading

namespace Hunk

variable {olds news kept : List String} {oldAt newAt : Nat} {body : Option Hunk} {rest : List Change}

/-- The lines of a hunk follow one another in both texts, from where the hunk stands. -/
structure Fits (olds news : List String) (h : Hunk) : Prop where
  old : Script.old h.changes <+: olds.drop h.oldStart
  new : Script.new h.changes <+: news.drop h.newStart

/-- What has been read of a hunk, then the lines kept since its last change, and then the rest. -/
structure Opened (olds news kept oldRest newRest : List String) (h : Hunk) : Prop where
  old : olds.drop h.oldStart = Script.old h.changes.reverse ++ kept.reverse ++ oldRest
  new : news.drop h.newStart = Script.new h.changes.reverse ++ kept.reverse ++ newRest

namespace Opened

variable {oldRest newRest : List String} {h : Hunk} {c : Change}

/-- A hunk can end with any number of the kept lines. -/
theorem fits (ho : Opened olds news kept oldRest newRest h) (k : Nat) :
    Fits olds news ⟨h.oldStart, h.newStart, h.changes.reverse ++ (kept.reverse.take k).map .keep⟩ := by
  have hprefix : ∀ front rest : List String, front ++ kept.reverse.take k <+: front ++ kept.reverse ++ rest := by
    intro front rest
    rw [List.append_assoc, List.prefix_append_right_inj]
    exact (List.take_prefix k kept.reverse).trans (List.prefix_append _ _)
  constructor
  · rw [Script.old_append, Script.old_map_keep, ho.old]
    exact hprefix _ _
  · rw [Script.new_append, Script.new_map_keep, ho.new]
    exact hprefix _ _

theorem keep {l : String} (ho : Opened olds news kept (l :: oldRest) (l :: newRest) h) :
    Opened olds news (l :: kept) oldRest newRest h where
  old := by simp [ho.old]
  new := by simp [ho.new]

/-- A change goes into the hunk after the kept lines. -/
theorem change (ho : Opened olds news kept (Script.old [c] ++ oldRest) (Script.new [c] ++ newRest) h) :
    Opened olds news [] oldRest newRest ⟨h.oldStart, h.newStart, c :: kept.map .keep ++ h.changes⟩ where
  old := by simp [ho.old, ← List.map_reverse, List.append_assoc]
  new := by simp [ho.new, ← List.map_reverse, List.append_assoc]

/-- A new hunk begins with the last kept lines before its first change. -/
theorem start (hold : Reading olds oldAt kept (Script.old [c] ++ oldRest))
    (hnew : Reading news newAt kept (Script.new [c] ++ newRest)) (k : Nat) :
    Opened olds news [] oldRest newRest
      ⟨oldAt - (kept.take k).length, newAt - (kept.take k).length, c :: (kept.take k).map .keep⟩ where
  old := by rw [List.reverse_cons, ← List.map_reverse, Script.old_append, Script.old_map_keep, hold.lead k]; simp
  new := by rw [List.reverse_cons, ← List.map_reverse, Script.new_append, Script.new_map_keep, hnew.lead k]; simp

end Opened

/-- What a change that is not a kept line does: it opens a hunk, goes into the one that is open, or closes that one and
opens another. -/
theorem gather_change {c : Change} (hc : ∀ l, c ≠ .keep l) :
    gather oldAt newAt kept body (c :: rest) =
      let lead := kept.take context
      let next := gather (oldAt + (Script.old [c]).length) (newAt + (Script.new [c]).length) []
      let opened : Hunk := ⟨oldAt - lead.length, newAt - lead.length, c :: lead.map .keep⟩
      match body with
      | none => next (some opened) rest
      | some h =>
        if kept.length ≤ 2 * context then
          next (some ⟨h.oldStart, h.newStart, c :: kept.map .keep ++ h.changes⟩) rest
        else
          ⟨h.oldStart, h.newStart, h.changes.reverse ++ (kept.reverse.take context).map .keep⟩ ::
            next (some opened) rest := by
  cases c with
  | keep l => exact absurd rfl (hc l)
  | delete l => cases body <;> rfl
  | insert l => cases body <;> rfl

/-- Reading a script on makes hunks that fit. -/
theorem gather_fits {script : List Change} (hold : Reading olds oldAt kept (Script.old script))
    (hnew : Reading news newAt kept (Script.new script))
    (hbody : ∀ h, body = some h → Opened olds news kept (Script.old script) (Script.new script) h) :
    ∀ g ∈ gather oldAt newAt kept body script, Fits olds news g := by
  induction script generalizing oldAt newAt kept body with
  | nil =>
    intro g hg
    cases body with
    | none => cases hg
    | some h =>
      obtain rfl := List.mem_singleton.1 hg
      exact (hbody h rfl).fits context
  | cons c rest ih =>
    by_cases hc : ∃ l, c = .keep l
    · obtain ⟨l, rfl⟩ := hc
      exact ih hold.keep hnew.keep fun h hh => (hbody h hh).keep
    rw [not_exists] at hc
    rw [← List.singleton_append, Script.old_append] at hold hbody
    rw [← List.singleton_append, Script.new_append] at hnew hbody
    have hstart := ih hold.change hnew.change fun h hh => Option.some.inj hh ▸ Opened.start hold hnew context
    rw [gather_change hc]
    cases body with
    | none => exact hstart
    | some h =>
      have hopen := hbody h rfl
      dsimp only
      split
      · exact ih hold.change hnew.change fun h' hh => Option.some.inj hh ▸ hopen.change
      · intro g hg
        rcases List.mem_cons.1 hg with rfl | hg
        · exact hopen.fits context
        · exact hstart g hg

/-- Each hunk of a script shows lines that follow one another in both texts. -/
theorem ofChanges_fits (script : List Change) :
    ∀ h ∈ ofChanges script, Fits (Script.old script) (Script.new script) h :=
  gather_fits ⟨Nat.le_refl _, rfl⟩ ⟨Nat.le_refl _, rfl⟩ fun h hh => by cases hh

end Hunk

/-! ## What is printed -/

namespace Change

/-- The rows of a line: the line after its sign, and an empty row if the line has no end. -/
def rows (c : Change) : List String := (c.mapLine Text.bare).row :: if Text.isEnded c.line then [] else [""]

theorem old_map_mapLine (f : String → String) (cs : List Change) :
    Script.old (cs.map (mapLine f)) = (Script.old cs).map f := by
  induction cs with
  | nil => rfl
  | cons c cs ih => cases c <;> simp [mapLine, Script.old, ih]

theorem new_map_mapLine (f : String → String) (cs : List Change) :
    Script.new (cs.map (mapLine f)) = (Script.new cs).map f := by
  induction cs with
  | nil => rfl
  | cons c cs ih => cases c <;> simp [mapLine, Script.new, ih]

/-- Each change shows a line of the old or of the new text. -/
theorem line_mem {c : Change} {cs : List Change} (h : c ∈ cs) : c.line ∈ Script.old cs ∨ c.line ∈ Script.new cs := by
  induction cs with
  | nil => cases h
  | cons c' cs ih =>
    rcases List.mem_cons.1 h with rfl | h
    · cases c <;> simp [line, Script.old, Script.new]
    · have hrest := ih h
      cases c' <;> rcases hrest with hrest | hrest <;> simp [Script.old, Script.new, hrest]

theorem row_ne_nil (c : Change) : c.row ≠ "" := by
  cases c <;> simp [row, sign, ← String.toList_inj]

theorem isPlain_row (c : Change) (h : Text.IsPlain c.line) : Text.IsPlain c.row := by
  refine Text.isPlain_append.2 ⟨?_, h⟩
  cases c <;> (simp only [sign]; decide)

end Change

@[simp] theorem printed_nil : printed [] = "" := rfl

theorem printed_cons (row : String) (rows : List String) : printed (row :: rows) = row ++ "\n" ++ printed rows := by
  simp [printed, String.join_cons]

theorem printed_append (xs ys : List String) : printed (xs ++ ys) = printed xs ++ printed ys := by
  induction xs with
  | nil => simp
  | cons x xs ih => rw [List.cons_append, printed_cons, printed_cons, ih, ← String.append_assoc]

/-- Texts that are printed rows are together all these rows. -/
theorem join_printed {α : Type} {text : α → String} {rows : α → List String} {xs : List α}
    (h : ∀ x ∈ xs, text x = printed (rows x)) : String.join (xs.map text) = printed (xs.flatMap rows) := by
  induction xs with
  | nil => rfl
  | cons x xs ih =>
    obtain ⟨hx, hxs⟩ := List.forall_mem_cons.1 h
    rw [List.map_cons, String.join_cons, List.flatMap_cons, printed_append, hx, ih hxs]

/-- Rows are read as they were printed. -/
theorem Text.bareLines_printed {rows : List String} (h : ∀ r ∈ rows, IsPlain r) : bareLines (printed rows) = rows := by
  have hfrom : ∀ (line row rest : List Char), '\n' ∉ row → '\r' ∉ line ++ row →
      bareFrom line (row ++ '\n' :: rest) = (line.reverse ++ row) :: bareFrom [] rest := by
    intro line row rest hn hr
    induction row generalizing line with
    | nil =>
      rw [List.nil_append, List.append_nil, bareFrom, if_pos (by simp)]
      rintro before rfl
      simp at hr
    | cons c row ih =>
      obtain ⟨hc, hn⟩ := not_or.1 (fun h => hn (List.mem_cons.2 h))
      have hnext : bareFrom line (c :: (row ++ '\n' :: rest)) = bareFrom (c :: line) (row ++ '\n' :: rest) := by
        conv_lhs => unfold bareFrom
        simp [Ne.symm hc]
      rw [List.cons_append, hnext, ih _ hn (by simpa [or_assoc, or_left_comm] using hr)]
      simp
  rw [bareLines]
  induction rows with
  | nil => rfl
  | cons r rows ih =>
    obtain ⟨⟨hn, hr⟩, hrows⟩ := List.forall_mem_cons.1 h
    have hlist : (printed (r :: rows)).toList = r.toList ++ '\n' :: (printed rows).toList := by
      rw [printed_cons, String.toList_append, String.toList_append]
      simp
    rw [hlist, hfrom [] r.toList _ hn (by simpa using hr), List.map_cons, ih hrows]
    simp

theorem isPlain_number (n : Nat) : Text.IsPlain (toString n) := by
  have hdigits : ∀ c ∈ (toString n).toList, c.isDigit = true := by
    intro c hc
    have hc : c ∈ Nat.toDigits 10 n := by simpa using hc
    exact Nat.isDigit_of_mem_toDigits (by omega) (by omega) hc
  constructor <;> (intro h; have hdigit := hdigits _ h; revert hdigit; decide)

theorem isPlain_headerRow (oldStart oldCount newStart newCount : Nat) :
    Text.IsPlain (headerRow oldStart oldCount newStart newCount) := by
  have hrange : ∀ start count, Text.IsPlain (Hunk.range start count) := by
    intro start count
    unfold Hunk.range
    split
    · exact isPlain_number _
    · split
      · show Text.IsPlain (toString start ++ ",0")
        exact Text.isPlain_append.2 ⟨isPlain_number _, by decide⟩
      · show Text.IsPlain (toString (start + 1) ++ "," ++ toString count)
        simp only [Text.isPlain_append, isPlain_number, and_true, true_and]
        decide
  simp only [headerRow, Text.isPlain_append, hrange, and_true]
  decide

namespace Hunk

variable {old new : String} {h : Hunk} {c : Change}

/-- The rows of a hunk: its header, and those of its lines. -/
def rows (h : Hunk) : List String :=
  headerRow h.oldStart h.oldCount h.newStart h.newCount :: h.changes.flatMap Change.rows

/-- A hunk shows lines of the two texts. -/
theorem Fits.line_mem {olds news : List String} (hfits : Fits olds news h) (hc : c ∈ h.changes) :
    c.line ∈ olds ∨ c.line ∈ news :=
  (Change.line_mem hc).imp (fun hl => List.mem_of_mem_drop (hfits.old.subset hl))
    fun hl => List.mem_of_mem_drop (hfits.new.subset hl)

/-- A hunk is printed as its rows. -/
theorem render_eq (hlines : ∀ c ∈ h.changes, c.line = Text.bare c.line ++ if Text.isEnded c.line then "\n" else "") :
    h.render = printed h.rows := by
  have hchange : ∀ c ∈ h.changes, renderChange c = printed c.rows := by
    intro c hc
    have hsigned : renderChange c = signed c.sign c.line := by cases c <;> rfl
    have hrow : (c.mapLine Text.bare).row = c.sign ++ Text.bare c.line := by cases c <;> rfl
    have hline := hlines c hc
    rw [hsigned, signed, Change.rows, hrow]
    cases hend : Text.isEnded c.line with
    | true =>
      rw [hend, if_pos rfl] at hline
      nth_rewrite 1 [hline]
      simp [printed_cons, String.append_assoc]
    | false =>
      rw [hend, if_neg (by simp), String.append_empty] at hline
      rw [← hline]
      simp [printed_cons, String.append_assoc]
  have hheader : h.header = headerRow h.oldStart h.oldCount h.newStart h.newCount ++ "\n" := by
    show "@@ -" ++ range _ _ ++ " +" ++ range _ _ ++ " @@\n" = headerRow .. ++ "\n"
    simp [headerRow, String.append_assoc]
  rw [render, rows, printed_cons, join_printed hchange, hheader]

/-- Without empty rows, the rows of a hunk have the format. -/
theorem isHunk_rows {olds news : List String} (hfits : Fits olds news h) :
    IsHunk (olds.map Text.bare) (news.map Text.bare) (h.rows.filter (· != "")) := by
  have hrow : ∀ c : Change, c.rows.filter (· != "") = [(c.mapLine Text.bare).row] := by
    intro c
    have hne := (c.mapLine Text.bare).row_ne_nil
    rw [Change.rows]
    split <;> simp [hne]
  have hheader : headerRow h.oldStart h.oldCount h.newStart h.newCount ≠ "" := by
    simp [headerRow]
  refine ⟨h.oldStart, h.oldCount, h.newStart, h.newCount, h.changes.map (Change.mapLine Text.bare), ?_, ?_, ?_, ?_, ?_⟩
  · rw [rows, List.filter_cons_of_pos (by simpa using hheader), List.filter_flatMap]
    simp only [hrow]
    rw [← List.map_eq_flatMap, List.map_map]
    rfl
  · rw [Change.old_map_mapLine, List.length_map, oldCount]
  · rw [Change.new_map_mapLine, List.length_map, newCount]
  · rw [Change.old_map_mapLine, ← List.map_drop]
    exact hfits.old.map _
  · rw [Change.new_map_mapLine, ← List.map_drop]
    exact hfits.new.map _

/-- Without an empty row, a hunk has the format. -/
theorem rows_filter (hended : ∀ c ∈ h.changes, Text.isEnded c.line = true) : h.rows.filter (· != "") = h.rows := by
  refine List.filter_eq_self.2 fun r hr => bne_iff_ne.2 ?_
  rcases List.mem_cons.1 hr with rfl | hr
  · simp [headerRow]
  · obtain ⟨c, hc, hr⟩ := List.mem_flatMap.1 hr
    rw [Change.rows, hended c hc, if_pos rfl, List.mem_singleton] at hr
    rw [hr]
    exact Change.row_ne_nil _

theorem isPlain_rows (hlines : ∀ c ∈ h.changes, Text.IsPlain (Text.bare c.line)) : ∀ r ∈ h.rows, Text.IsPlain r := by
  intro r hr
  rcases List.mem_cons.1 hr with rfl | hr
  · exact isPlain_headerRow ..
  obtain ⟨c, hc, hr⟩ := List.mem_flatMap.1 hr
  rcases List.mem_cons.1 hr with rfl | hr
  · have hline : (c.mapLine Text.bare).line = Text.bare c.line := by cases c <;> rfl
    exact Change.isPlain_row _ (hline ▸ hlines c hc)
  · split at hr
    · cases hr
    · rw [List.mem_singleton.1 hr]
      decide

end Hunk

/-! ## When a diff has the format -/

variable {path : Path} {old new : String} {hunks : List Hunk}

theorem IsHunk.plain {olds news rows : List String} (h : IsHunk olds news rows) (holds : ∀ l ∈ olds, Text.IsPlain l)
    (hnews : ∀ l ∈ news, Text.IsPlain l) : ∀ r ∈ rows, Text.IsPlain r ∧ r ≠ "" := by
  obtain ⟨oldStart, oldCount, newStart, newCount, body, rfl, _, _, hold, hnew⟩ := h
  intro r hr
  rcases List.mem_cons.1 hr with rfl | hr
  · exact ⟨isPlain_headerRow .., by simp [headerRow]⟩
  obtain ⟨c, hc, rfl⟩ := List.mem_map.1 hr
  have hline : Text.IsPlain c.line := by
    rcases Change.line_mem hc with hl | hl
    · exact holds _ (List.mem_of_mem_drop (hold.subset hl))
    · exact hnews _ (List.mem_of_mem_drop (hnew.subset hl))
  exact ⟨c.isPlain_row hline, c.row_ne_nil⟩

/-- A diff with the format has no empty row. -/
theorem IsUnified.no_empty_row {rows : List String} (hold : '\r' ∉ old.toList) (hnew : '\r' ∉ new.toList)
    (hrows : ∀ r ∈ rows, Text.IsPlain r) (h : IsUnified path old new (titles path ++ printed rows)) : "" ∉ rows := by
  obtain ⟨hunks, hhunks, htext⟩ := h
  have hplain : ∀ r ∈ hunks.flatten, Text.IsPlain r ∧ r ≠ "" := by
    intro r hr
    obtain ⟨hunk, hhunk, hr⟩ := List.mem_flatten.1 hr
    exact (hhunks hunk hhunk).plain (Text.isPlain_bareLines hold) (Text.isPlain_bareLines hnew) r hr
  have hsame : printed rows = printed hunks.flatten := by
    rw [← String.toList_inj] at htext ⊢
    simpa using htext
  have hrows' : rows = hunks.flatten := by
    rw [← Text.bareLines_printed hrows, hsame, Text.bareLines_printed fun r hr => (hplain r hr).1]
  intro hempty
  exact (hplain "" (hrows' ▸ hempty)).2 rfl

/-- Rows of hunks have the format if each line that is shown has an end. -/
theorem isUnified_iff (path : Path) (hold : '\r' ∉ old.toList) (hnew : '\r' ∉ new.toList)
    (hfits : ∀ h ∈ hunks, h.Fits (Text.lines old) (Text.lines new)) :
    IsUnified path old new (titles path ++ printed (hunks.flatMap Hunk.rows)) ↔
      ∀ h ∈ hunks, ∀ c ∈ h.changes, Text.isEnded c.line = true := by
  constructor
  · intro hunified h hh c hc
    by_contra hend
    refine hunified.no_empty_row hold hnew ?_ (List.mem_flatMap.2 ⟨h, hh, List.mem_cons_of_mem _ ?_⟩)
    · intro r hr
      obtain ⟨h, hh, hr⟩ := List.mem_flatMap.1 hr
      refine Hunk.isPlain_rows (fun c hc => ?_) r hr
      rcases (hfits h hh).line_mem hc with hl | hl
      · exact (Text.mem_lines hold hl).1
      · exact (Text.mem_lines hnew hl).1
    · exact List.mem_flatMap.2 ⟨c, hc, by simp [Change.rows, hend]⟩
  · intro hended
    refine ⟨hunks.map Hunk.rows, fun rows hrows => ?_, by rw [List.flatMap_def]⟩
    obtain ⟨h, hh, rfl⟩ := List.mem_map.1 hrows
    rw [← Hunk.rows_filter (hended h hh), Text.bareLines_eq hold, Text.bareLines_eq hnew]
    exact Hunk.isHunk_rows (hfits h hh)

/-- The hunks of two texts. -/
def hunksOf (old new : String) : List Hunk := Hunk.ofChanges (Script.between (Text.lines old) (Text.lines new))

theorem hunksOf_fits (old new : String) : ∀ h ∈ hunksOf old new, h.Fits (Text.lines old) (Text.lines new) := by
  have hfits := Hunk.ofChanges_fits (Script.between (Text.lines old) (Text.lines new))
  rwa [Script.old_between, Script.new_between] at hfits

/-- The titles are printed, and then the rows of the hunks. -/
theorem unifiedDiff_eq (path : Path) (hold : '\r' ∉ old.toList) (hnew : '\r' ∉ new.toList) :
    unifiedDiff path old new = titles path ++ printed ((hunksOf old new).flatMap Hunk.rows) := by
  have hrender : ∀ h ∈ hunksOf old new, h.render = printed h.rows := by
    intro h hh
    refine Hunk.render_eq fun c hc => ?_
    rcases (hunksOf_fits old new h hh).line_mem hc with hl | hl
    · obtain ⟨_, ⟨hend, hline⟩ | ⟨hend, hline, _⟩⟩ := Text.mem_lines hold hl <;> simp [hend, ← hline]
    · obtain ⟨_, ⟨hend, hline⟩ | ⟨hend, hline, _⟩⟩ := Text.mem_lines hnew hl <;> simp [hend, ← hline]
  rw [← join_printed hrender]
  rfl

end Retarget
