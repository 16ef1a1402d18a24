/-!
# CodeSet — sets of code points

A set is stored as the ascending code points at which membership changes, a
reader of the number line being outside at its start: `[0x30, 0x3A]` holds
the ten digits and `[0x80]` all that lies beyond ASCII. So a set has one
stored form, and two sets with the same members are equal.

All set operations are one walk along the changes of two sets, `merge`.
`holdsFrom_merge` says that a code point is in the result exactly as the
operation says of the two.
-/


namespace Conform.Unicode

/-- A set of code points. -/
structure CodeSet where
  /-- Where membership changes, in ascending order. -/
  changes : List Nat
deriving DecidableEq, Repr

namespace CodeSet

/-! ## Membership -/

/-- Membership, where `inside` says of the code points in front of the first
change. -/
def holdsFrom (inside : Bool) : List Nat → Nat → Bool
  | [], _ => inside
  | p :: rest, n => if n < p then inside else holdsFrom (!inside) rest n

/-- A code point is in the set. -/
def holds (s : CodeSet) (n : Nat) : Bool := holdsFrom false s.changes n

/-- A character is in the set. -/
def holdsChar (s : CodeSet) (c : Char) : Bool := s.holds c.toNat

/-! ## Operations -/

/-- Puts a change in front of others if there is one. -/
def change (point : Nat) (before after : Bool) (rest : List Nat) : List Nat :=
  if before = after then rest else point :: rest

/-- Walks along the changes of two sets; `a` and `b` say whether the walk is
inside them. -/
def merge (op : Bool → Bool → Bool) (a b : Bool) : List Nat → List Nat → List Nat
  | [], [] => []
  | p :: ps, [] => change p (op a b) (op (!a) b) (merge op (!a) b ps [])
  | [], q :: qs => change q (op a b) (op a (!b)) (merge op a (!b) [] qs)
  | p :: ps, q :: qs =>
    if p < q then change p (op a b) (op (!a) b) (merge op (!a) b ps (q :: qs))
    else if q < p then change q (op a b) (op a (!b)) (merge op a (!b) (p :: ps) qs)
    else change p (op a b) (op (!a) (!b)) (merge op (!a) (!b) ps qs)
termination_by ps qs => ps.length + qs.length

def empty : CodeSet := ⟨[]⟩

/-- The code points from `first` to `last`. -/
def range (first last : Nat) : CodeSet :=
  ⟨if last < 0x10FFFF then [first, last + 1] else [first]⟩

def singleton (n : Nat) : CodeSet := range n n

def union (s t : CodeSet) : CodeSet := ⟨merge (· || ·) false false s.changes t.changes⟩

def intersection (s t : CodeSet) : CodeSet := ⟨merge (· && ·) false false s.changes t.changes⟩

def difference (s t : CodeSet) : CodeSet := ⟨merge (· && !·) false false s.changes t.changes⟩

/-- The code points that are in just one of two sets. -/
def symmetricDifference (s t : CodeSet) : CodeSet := ⟨merge xor false false s.changes t.changes⟩

/-- The code points that are not in a set. -/
def complement (s : CodeSet) : CodeSet :=
  match s.changes with
  | 0 :: rest => ⟨rest⟩
  | changes => ⟨0 :: changes⟩

/-- The union of the sets of a list. -/
def unionOf (sets : List CodeSet) : CodeSet := sets.foldl union empty

/-- The changes of the set of ascending code points. -/
def changesOf : List Nat → List Nat
  | [] => []
  | n :: rest =>
    match changesOf rest with
    | [] => [n, n + 1]
    | q :: more =>
      if q = n then q :: more
      else if q = n + 1 then n :: more
      else n :: (n + 1) :: q :: more

/-- The set of the code points of a list. -/
def ofList (codes : List Nat) : CodeSet := ⟨changesOf (codes.mergeSort (· ≤ ·))⟩

/-- The set of the code points of runs, each from a first to a last one in steps. -/
def ofSteps (runs : List (Nat × Nat × Nat)) : CodeSet :=
  ofList <| runs.flatMap fun (first, last, step) =>
    (List.range ((last - first) / step + 1)).map fun i => first + i * step

/-! ## Views -/

/-- The first and the last code point of each run of members, from a list of
changes. -/
def rangesFrom : List Nat → List (Nat × Nat)
  | [] => []
  | [p] => [(p, 0x10FFFF)]
  | p :: q :: rest => (p, q - 1) :: rangesFrom rest

/-- The first and the last code point of each run of members. -/
def ranges (s : CodeSet) : List (Nat × Nat) := rangesFrom s.changes

/-- The member of a set that has only one. -/
def single? (s : CodeSet) : Option Nat :=
  match s.changes with
  | [p, q] => if q = p + 1 then some p else none
  | _ => none

/-! ## What the operations hold -/

theorem holdsFrom_of_lt {inside : Bool} {changes : List Nat} {n : Nat}
    (h : ∀ p ∈ changes, n < p) : holdsFrom inside changes n = inside := by
  cases changes with
  | nil => rfl
  | cons p rest => simp [holdsFrom, h p List.mem_cons_self]

theorem holdsFrom_change (point n : Nat) (before after : Bool) (rest : List Nat) :
    holdsFrom before (change point before after rest) n =
      if before ≠ after ∧ n < point then before else holdsFrom after rest n := by
  unfold change
  cases before <;> cases after <;> simp [holdsFrom]

/-- **A merge holds what its operation says.** Both lists of changes have to be
ascending. -/
theorem holdsFrom_merge (op : Bool → Bool → Bool) (a b : Bool) {ps qs : List Nat}
    (hp : ps.Pairwise (· < ·)) (hq : qs.Pairwise (· < ·)) (n : Nat) :
    holdsFrom (op a b) (merge op a b ps qs) n = op (holdsFrom a ps n) (holdsFrom b qs n) := by
  have before {inside : Bool} {p : Nat} {rest : List Nat} (h : (p :: rest).Pairwise (· < ·))
      (hn : n < p) : holdsFrom inside rest n = inside :=
    holdsFrom_of_lt fun q hq => Nat.lt_trans hn (List.rel_of_pairwise_cons h hq)
  fun_induction merge op a b ps qs with
  | case1 => rfl
  | case2 a b p ps ih =>
    rw [holdsFrom_change, ih hp.of_cons hq]
    by_cases hn : n < p
    · rw [before hp hn]; simp_all [holdsFrom]
    · simp [holdsFrom, hn]
  | case3 a b q qs ih =>
    rw [holdsFrom_change, ih hp hq.of_cons]
    by_cases hn : n < q
    · rw [before hq hn]; simp_all [holdsFrom]
    · simp [holdsFrom, hn]
  | case4 a b p ps q qs hpq ih =>
    rw [holdsFrom_change, ih hp.of_cons hq]
    by_cases hn : n < p
    · have : n < q := by omega
      rw [before hp hn]; simp_all [holdsFrom]
    · simp [holdsFrom, hn]
  | case5 a b p ps q qs _ hqp ih =>
    rw [holdsFrom_change, ih hp hq.of_cons]
    by_cases hn : n < q
    · have : n < p := by omega
      rw [before hq hn]; simp_all [holdsFrom]
    · simp [holdsFrom, hn]
  | case6 a b p ps q qs _ _ ih =>
    have : p = q := by omega
    subst this
    rw [holdsFrom_change, ih hp.of_cons hq.of_cons]
    by_cases hn : n < p
    · rw [before hp hn, before hq hn]; simp_all [holdsFrom]
    · simp [holdsFrom, hn]

theorem holdsFrom_not (inside : Bool) (changes : List Nat) (n : Nat) :
    holdsFrom (!inside) changes n = !holdsFrom inside changes n := by
  induction changes generalizing inside with
  | nil => rfl
  | cons p rest ih =>
    simp only [holdsFrom]
    split
    · rfl
    · exact ih _

/-- The complement holds what the set does not hold. -/
theorem holds_complement (s : CodeSet) (n : Nat) : s.complement.holds n = !s.holds n := by
  rcases s with ⟨changes⟩
  unfold complement
  split
  · rename_i rest hchanges
    cases hchanges
    rw [holds, holds, holdsFrom, if_neg (Nat.not_lt_zero n), holdsFrom_not, Bool.not_not]
  · rw [holds, holds, holdsFrom, if_neg (Nat.not_lt_zero n), holdsFrom_not]

/-- A union holds what one of two sets holds. -/
theorem holds_union {s t : CodeSet} (hs : s.changes.Pairwise (· < ·))
    (ht : t.changes.Pairwise (· < ·)) (n : Nat) :
    (s.union t).holds n = (s.holds n || t.holds n) :=
  holdsFrom_merge (· || ·) false false hs ht n

theorem holds_nil (n : Nat) : holds ⟨[]⟩ n = false := rfl

/-- Membership, one run of members after the other. -/
theorem holds_cons_cons_iff (p q : Nat) (rest : List Nat) (n : Nat) :
    holds ⟨p :: q :: rest⟩ n = true ↔ p ≤ n ∧ (n < q ∨ holds ⟨rest⟩ n = true) := by
  simp only [holds, holdsFrom, Bool.not_false, Bool.not_true]
  split
  · rename_i hp
    exact iff_of_false Bool.false_ne_true fun h => Nat.not_lt.2 h.1 hp
  · rename_i hp
    split
    · rename_i hq
      exact iff_of_true rfl ⟨Nat.not_lt.1 hp, .inl hq⟩
    · rename_i hq
      exact ⟨fun h => ⟨Nat.not_lt.1 hp, .inr h⟩, fun h => h.2.resolve_left hq⟩

end CodeSet

end Conform.Unicode
