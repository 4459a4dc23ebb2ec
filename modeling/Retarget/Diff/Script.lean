/-!
# Edit scripts

What has to be done to one list of lines to get another one: lines are kept, deleted and inserted. As many lines as
possible are kept.

* `Script.between`: the script from one list to another,
* `Script.old`, `Script.new`: the two lists that a script connects,
* `Script.old_between`, `Script.new_between`: a script connects the two lists that it was made from.
-/

namespace Retarget

/-- What happens to a line. -/
inductive Change
  | keep (line : String)
  | delete (line : String)
  | insert (line : String)
deriving Repr, BEq, DecidableEq

namespace Script

/-- The lines before the changes. -/
def old : List Change → List String
  | [] => []
  | .keep l :: rest => l :: old rest
  | .delete l :: rest => l :: old rest
  | .insert _ :: rest => old rest

/-- The lines after the changes. -/
def new : List Change → List String
  | [] => []
  | .keep l :: rest => l :: new rest
  | .delete _ :: rest => new rest
  | .insert l :: rest => l :: new rest

/-- How many lines can be kept from a list that begins with `line`, for each end of the other list; `below` has the
numbers for the list without `line`. -/
def row (line : String) : List String → List Nat → List Nat
  | [], _ => [0]
  | n :: ns, below =>
    let right := row line ns below.tail
    (if line == n then below.tail.headD 0 + 1 else max (below.headD 0) (right.headD 0)) :: right

/-- How many lines can be kept, for each end of the old list and each end of the new one. -/
def table (olds news : List String) : List (List Nat) :=
  olds.foldr (fun line rows => row line news (rows.headD []) :: rows) [List.replicate (news.length + 1) 0]

/-- Is it best to delete a line before the next new line? `skipped` is the number of new lines that have gone by, and
`rows` is the table for the old lines from this one on. -/
def prefersDelete (skipped : Nat) (rows : List (List Nat)) : Bool :=
  (rows.headD []).getD (skipped + 1) 0 ≤ (rows.tail.headD []).getD skipped 0

/-- Compare an old line with the new lines. `below` compares the old lines after it. -/
def walkLine (o : String) (below : List String → Nat → List Change) (rows : List (List Nat)) :
    List String → Nat → List Change
  | [], skipped => .delete o :: below [] skipped
  | n :: ns, skipped =>
    if o == n then .keep o :: below ns (skipped + 1)
    else if prefersDelete skipped rows then .delete o :: below (n :: ns) skipped
    else .insert n :: walkLine o below rows ns (skipped + 1)

/-- Compare old lines with new lines by the table of the old lines. -/
def walk : List String → List (List Nat) → List String → Nat → List Change
  | [], _, news, _ => news.map .insert
  | o :: os, rows, news, skipped => walkLine o (walk os rows.tail) rows news skipped

/-- The longest common start of two lists. -/
def commonStart : List String → List String → List String
  | o :: os, n :: ns => if o == n then o :: commonStart os ns else []
  | _, _ => []

/-- The deleted lines, then the inserted lines, of a run of changes. -/
def settled (deleted inserted : List String) : List Change :=
  deleted.reverse.map .delete ++ inserted.reverse.map .insert

/-- Put the deletions of each run of changes before its insertions. The lists have the lines of the current run, last
one first. -/
def settle (deleted inserted : List String) : List Change → List Change
  | [] => settled deleted inserted
  | .keep l :: rest => settled deleted inserted ++ .keep l :: settle [] [] rest
  | .delete l :: rest => settle (l :: deleted) inserted rest
  | .insert l :: rest => settle deleted (l :: inserted) rest

/-- The changes between two lists of lines. What they have in common at both ends is kept. -/
def between (olds news : List String) : List Change :=
  let start := commonStart olds news
  let olds := olds.drop start.length
  let news := news.drop start.length
  let stop := (commonStart olds.reverse news.reverse).reverse
  let olds := olds.take (olds.length - stop.length)
  let news := news.take (news.length - stop.length)
  start.map .keep ++ settle [] [] (walk olds (table olds news) news 0) ++ stop.map .keep

/-! ## The two lists of a script -/

@[simp] theorem old_append (a b : List Change) : old (a ++ b) = old a ++ old b := by
  induction a with
  | nil => rfl
  | cons c rest ih => cases c <;> simp [old, ih]

@[simp] theorem new_append (a b : List Change) : new (a ++ b) = new a ++ new b := by
  induction a with
  | nil => rfl
  | cons c rest ih => cases c <;> simp [new, ih]

@[simp] theorem old_map_keep (ls : List String) : old (ls.map .keep) = ls := by
  induction ls <;> simp_all [old]

@[simp] theorem new_map_keep (ls : List String) : new (ls.map .keep) = ls := by
  induction ls <;> simp_all [new]

@[simp] theorem old_map_delete (ls : List String) : old (ls.map .delete) = ls := by
  induction ls <;> simp_all [old]

@[simp] theorem new_map_delete (ls : List String) : new (ls.map .delete) = [] := by
  induction ls <;> simp_all [new]

@[simp] theorem old_map_insert (ls : List String) : old (ls.map .insert) = [] := by
  induction ls <;> simp_all [old]

@[simp] theorem new_map_insert (ls : List String) : new (ls.map .insert) = ls := by
  induction ls <;> simp_all [new]

@[simp] theorem old_settled (deleted inserted : List String) : old (settled deleted inserted) = deleted.reverse := by
  rw [settled, old_append, old_map_delete, old_map_insert, List.append_nil]

@[simp] theorem new_settled (deleted inserted : List String) : new (settled deleted inserted) = inserted.reverse := by
  rw [settled, new_append, new_map_delete, new_map_insert, List.nil_append]

theorem old_settle (deleted inserted : List String) (script : List Change) :
    old (settle deleted inserted script) = deleted.reverse ++ old script := by
  induction script generalizing deleted inserted with
  | nil => simp [settle, old]
  | cons c rest ih => cases c <;> simp [settle, old, ih]

theorem new_settle (deleted inserted : List String) (script : List Change) :
    new (settle deleted inserted script) = inserted.reverse ++ new script := by
  induction script generalizing deleted inserted with
  | nil => simp [settle, new]
  | cons c rest ih => cases c <;> simp [settle, new, ih]

theorem old_walkLine {o : String} {olds : List String} {below : List String → Nat → List Change}
    (h : ∀ ns k, old (below ns k) = olds) (rows : List (List Nat)) (news : List String) (skipped : Nat) :
    old (walkLine o below rows news skipped) = o :: olds := by
  induction news generalizing skipped with
  | nil => simp [walkLine, old, h]
  | cons n ns ih =>
    rw [walkLine]
    split
    · simp [old, h]
    · split
      · simp [old, h]
      · simpa [old] using ih (skipped + 1)

theorem new_walkLine {o : String} {below : List String → Nat → List Change} (h : ∀ ns k, new (below ns k) = ns)
    (rows : List (List Nat)) (news : List String) (skipped : Nat) :
    new (walkLine o below rows news skipped) = news := by
  induction news generalizing skipped with
  | nil => simp [walkLine, new, h]
  | cons n ns ih =>
    rw [walkLine]
    split
    · next ho => simp [new, h, eq_of_beq ho]
    · split
      · simp [new, h]
      · simpa [new] using ih (skipped + 1)

theorem old_walk (olds : List String) (rows : List (List Nat)) (news : List String) (skipped : Nat) :
    old (walk olds rows news skipped) = olds := by
  induction olds generalizing rows news skipped with
  | nil => simp [walk]
  | cons o os ih => exact old_walkLine (fun ns k => ih rows.tail ns k) rows news skipped

theorem new_walk (olds : List String) (rows : List (List Nat)) (news : List String) (skipped : Nat) :
    new (walk olds rows news skipped) = news := by
  induction olds generalizing rows news skipped with
  | nil => simp [walk]
  | cons o os ih => exact new_walkLine (fun ns k => ih rows.tail ns k) rows news skipped

/-- A common start is the start of both lists. -/
theorem isStart_commonStart (olds news : List String) :
    commonStart olds news <+: olds ∧ commonStart olds news <+: news := by
  fun_induction commonStart olds news with
  | case1 o os n ns h ih =>
    rw [eq_of_beq h]
    exact ⟨(List.prefix_cons_inj n).2 ih.1, (List.prefix_cons_inj n).2 ih.2⟩
  | case2 => exact ⟨List.nil_prefix, List.nil_prefix⟩
  | case3 => exact ⟨List.nil_prefix, List.nil_prefix⟩

/-- A list is its first part and the rest. -/
theorem append_drop_of_start {a l : List String} (h : a <+: l) : a ++ l.drop a.length = l := by
  obtain ⟨t, rfl⟩ := h
  simp

/-- A list is what stands before its last part, and that part. -/
theorem take_append_of_reverse_start {a l : List String} (h : a <+: l.reverse) :
    l.take (l.length - a.reverse.length) ++ a.reverse = l := by
  obtain ⟨t, ht⟩ := h
  have hl : l = t.reverse ++ a.reverse := by rw [← List.reverse_append, ht, List.reverse_reverse]
  subst hl
  simp

/-- A script starts from its old lines. -/
theorem old_between (olds news : List String) : old (between olds news) = olds := by
  have hs := append_drop_of_start (isStart_commonStart olds news).1
  have he := take_append_of_reverse_start (isStart_commonStart
    (olds.drop (commonStart olds news).length).reverse (news.drop (commonStart olds news).length).reverse).1
  simp only [between, old_append, old_map_keep, old_settle, old_walk, List.reverse_nil, List.nil_append,
    List.append_assoc]
  rw [he, hs]

/-- A script leads to its new lines. -/
theorem new_between (olds news : List String) : new (between olds news) = news := by
  have hs := append_drop_of_start (isStart_commonStart olds news).2
  have he := take_append_of_reverse_start (isStart_commonStart
    (olds.drop (commonStart olds news).length).reverse (news.drop (commonStart olds news).length).reverse).2
  simp only [between, new_append, new_map_keep, new_settle, new_walk, List.reverse_nil, List.nil_append,
    List.append_assoc]
  rw [he, hs]

end Script

end Retarget
