import Retarget.Pattern.Node

/-!
# Programs of patterns

A node is run as a list of instructions. `Node.code` lays the instructions of a node out from a given address; a run
that gets through them goes on at the address after the last one. `Node.size` is their number, and
`Node.length_code` says so.

A choice is a `split`, whose first way is preferred. A loop over a node that may match the empty text is entered
before it is tested, so that a round without progress ends the loop.
-/

namespace Retarget.Pattern

/-- An instruction. Unless it says otherwise a run goes on at the next address. -/
inductive Inst
  /-- Consume a character of the set. -/
  | set (s : CharSet)
  /-- Go on only where the assertion holds. -/
  | look (l : Look)
  /-- Note the position in a slot. -/
  | save (slot : Nat)
  | jump (target : Nat)
  /-- Go on at the first address, or else at the second. -/
  | split (first second : Nat)
  | accept
deriving Repr, BEq, DecidableEq

/-- A split between going on and leaving; the greedy one prefers to go on. -/
def Inst.fork (greedy : Bool) (on out : Nat) : Inst := if greedy then split on out else split out on

namespace Node

/-- The number of instructions of a node. -/
def size : Node → Nat
  | empty => 0
  | set _ => 1
  | look _ => 1
  | seq a b => a.size + b.size
  | alt a b => a.size + b.size + 2
  | repeated 0 none _ inner => inner.size + 2
  | repeated (min + 1) none _ inner => (min + 1) * inner.size + 1
  | repeated min (some max) _ inner => min * inner.size + (max - min) * (inner.size + 1)
  | capture _ inner => inner.size + 2

/-- Copies of a block one after another, `block` laying one out from its address. -/
def copies (block : Nat → List Inst) (width : Nat) : Nat → Nat → List Inst
  | 0, _ => []
  | n + 1, pc => block pc ++ copies block width n (pc + width)

/-- The instructions of a node from address `pc` on. -/
def code : Node → Nat → List Inst
  | empty, _ => []
  | set s, _ => [.set s]
  | look l, _ => [.look l]
  | seq a b, pc => a.code pc ++ b.code (pc + a.size)
  | alt a b, pc =>
    .split (pc + 1) (pc + a.size + 2) ::
      (a.code (pc + 1) ++ .jump (pc + a.size + b.size + 2) :: b.code (pc + a.size + 2))
  | repeated 0 none greedy inner, pc =>
    let out := pc + inner.size + 2
    .fork greedy (pc + 1) out ::
      (inner.code (pc + 1) ++ [if inner.consumes then .jump pc else .fork greedy (pc + 1) out])
  | repeated (min + 1) none greedy inner, pc =>
    copies inner.code inner.size (min + 1) pc ++
      [.fork greedy (pc + min * inner.size) (pc + (min + 1) * inner.size + 1)]
  | repeated min (some max) greedy inner, pc =>
    let start := pc + min * inner.size
    let out := start + (max - min) * (inner.size + 1)
    copies inner.code inner.size min pc ++
      copies (fun at' => .fork greedy (at' + 1) out :: inner.code (at' + 1)) (inner.size + 1) (max - min) start
  | capture index inner, pc => .save (2 * index) :: (inner.code (pc + 1) ++ [.save (2 * index + 1)])

theorem length_copies {block : Nat → List Inst} {width : Nat} (h : ∀ pc, (block pc).length = width) (n pc : Nat) :
    (copies block width n pc).length = n * width := by
  induction n generalizing pc with
  | zero => simp [copies]
  | succ n ih => simp [copies, h, ih, Nat.add_mul]; omega

/-- The instructions of a node are as many as its size. -/
theorem length_code (n : Node) (pc : Nat) : (n.code pc).length = n.size := by
  induction n generalizing pc with
  | empty | set _ | look _ => rfl
  | seq a b iha ihb => simp [code, size, iha, ihb]
  | alt a b iha ihb => simp [code, size, iha, ihb]; omega
  | capture _ inner ih => simp [code, size, ih]
  | repeated min max greedy inner ih =>
    match min, max with
    | 0, none => simp [code, size, ih]
    | min + 1, none => simp [code, size, length_copies ih]
    | min, some max =>
      simp only [code, size, List.length_append, length_copies ih]
      rw [length_copies (by simp [ih])]

/-- The whole program of a node: its instructions and the end. -/
def program (n : Node) : Array Inst := (n.code 0 ++ [Inst.accept]).toArray

end Node

end Retarget.Pattern
