import Conform.Pattern
/-!
# Program — patterns as lists of steps

`Pattern.steps` lays a pattern out as the steps of a machine that reads a
text from left to right. A step goes on to the one behind it, or jumps, or
splits in two, of which the first is preferred. A repetition is laid out
as many times as it has to match, and then either as many times more as it
may match, each behind a split, or with a split back to its start.
-/


namespace Conform

/-- One step of a program. Addresses count steps from the start. -/
inductive Step where
  /-- One character of a set is read. -/
  | read (set : Unicode.CodeSet)
  | check (statement : Assertion)
  /-- The match of a group begins here, or ends here if `closing`. -/
  | mark (group : Nat) (closing : Bool)
  | split (preferred other : Nat)
  | jump (target : Nat)
deriving Repr

/-- Steps by address. A match ends behind the last step. -/
abbrev Program := Array Step

namespace Step

/-- A split between going into something and going past it. -/
def enter (greedy : Bool) (inside outside : Nat) : Step :=
  if greedy then split inside outside else split outside inside

end Step

namespace Pattern

/-- The number of steps of a pattern. -/
def size : Pattern → Nat
  | empty => 0
  | literal text => text.length
  | char _ => 1
  | assertion _ => 1
  | sequence a b => a.size + b.size
  | choice a b => a.size + b.size + 2
  | group _ inner => inner.size + 2
  | repetition 0 none _ inner => inner.size + 2
  | repetition (least + 1) none _ inner => (least + 1) * inner.size + 1
  | repetition least (some most) _ inner =>
    least * inner.size + (most - least) * (inner.size + 1)

/-! ## Repetitions

What is repeated is given by its layout at an address and its size. -/

/-- Something laid out `count` times, one behind the other. -/
def copies (layout : Nat → List Step) (size : Nat) : Nat → Nat → List Step
  | 0, _ => []
  | count + 1, base => layout base ++ copies layout size count (base + size)

/-- Something laid out `count` times, with a way past the rest before each, to
the step behind the last. -/
def optionals (layout : Nat → List Step) (size : Nat) (greedy : Bool) : Nat → Nat → List Step
  | 0, _ => []
  | count + 1, base =>
    .enter greedy (base + 1) (base + (count + 1) * (size + 1)) ::
      layout (base + 1) ++ optionals layout size greedy count (base + size + 1)

/-- Something laid out once, with a way back to its start behind it. -/
def looped (layout : Nat → List Step) (size : Nat) (greedy : Bool) (base : Nat) : List Step :=
  layout base ++ [.enter greedy base (base + size + 1)]

/-- Any number of times something that takes at least one character: a split in
front, and a way back to the split. -/
def star (layout : Nat → List Step) (size : Nat) (greedy : Bool) (base : Nat) : List Step :=
  .enter greedy (base + 1) (base + size + 2) :: layout (base + 1) ++ [.jump base]

/-- Any number of times something that may match nothing: not at all, or once
and then again. -/
def anyNumber (layout : Nat → List Step) (size : Nat) (greedy : Bool) (base : Nat) : List Step :=
  .enter greedy (base + 1) (base + size + 2) :: looped layout size greedy (base + 1)

/-! ## Patterns -/

/-- The steps of a pattern, the first of them at the address `base`. -/
def steps : Pattern → Nat → List Step
  | empty, _ => []
  | literal text, _ => text.map fun c => .read (.singleton c.toNat)
  | char set, _ => [.read set]
  | assertion statement, _ => [.check statement]
  | sequence a b, base => a.steps base ++ b.steps (base + a.size)
  | choice a b, base =>
    .split (base + 1) (base + a.size + 2) :: a.steps (base + 1) ++
      .jump (base + a.size + b.size + 2) :: b.steps (base + a.size + 2)
  | group number inner, base =>
    .mark number false :: inner.steps (base + 1) ++ [.mark number true]
  | repetition 0 none greedy inner, base =>
    if inner.consumes then star inner.steps inner.size greedy base
    else anyNumber inner.steps inner.size greedy base
  | repetition (least + 1) none greedy inner, base =>
    copies inner.steps inner.size least base ++
      looped inner.steps inner.size greedy (base + least * inner.size)
  | repetition least (some most) greedy inner, base =>
    copies inner.steps inner.size least base ++
      optionals inner.steps inner.size greedy (most - least) (base + least * inner.size)

theorem length_copies {layout : Nat → List Step} {size : Nat}
    (h : ∀ base, (layout base).length = size) (count base : Nat) :
    (copies layout size count base).length = count * size := by
  induction count generalizing base with
  | zero => simp [copies]
  | succ count ih => simp [copies, h, ih, Nat.succ_mul, Nat.add_comm]

theorem length_optionals {layout : Nat → List Step} {size : Nat}
    (h : ∀ base, (layout base).length = size) (greedy : Bool) (count base : Nat) :
    (optionals layout size greedy count base).length = count * (size + 1) := by
  induction count generalizing base with
  | zero => simp [optionals]
  | succ count ih => simp [optionals, h, ih, Nat.succ_mul]; omega

/-- A pattern takes up as many addresses as its size says, wherever it is laid
out. -/
theorem length_steps (p : Pattern) (base : Nat) : (p.steps base).length = p.size := by
  fun_induction size p generalizing base with
  | case1 => simp [steps]
  | case2 => simp [steps]
  | case3 => simp [steps]
  | case4 => simp [steps]
  | case5 a b iha ihb => simp [steps, iha, ihb]
  | case6 a b iha ihb => simp [steps, iha, ihb]; omega
  | case7 _ inner ih => simp [steps, ih]
  | case8 _ inner ih =>
    simp only [steps]
    split <;> simp [star, anyNumber, looped, ih]
  | case9 least _ inner ih =>
    simp [steps, looped, length_copies ih, ih, Nat.succ_mul]; omega
  | case10 least _ most inner ih =>
    simp [steps, length_copies ih, length_optionals ih]

/-- The program of a pattern. -/
def program (p : Pattern) : Program := (p.steps 0).toArray

end Pattern

end Conform
