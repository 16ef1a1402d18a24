import Conform.Proofs.Checked
import Conform.Proofs.Issue.Tree
import Mathlib.Algebra.Group.Defs
import Mathlib.Data.List.Induction
import Mathlib.Logic.ExistsUnique
/-!
# Semigroup — collections of issues are put together freely

A collection of issues is a non-empty list, so combining collections is associative and adds
their lengths, and nothing else is true of it that is not true of every semigroup: what is
said of single issues, in any semigroup, extends to collections in exactly one way.

Taking the leaves respects this. The leaves of a combination are the leaves of its parts,
one after the other; there always are some, none of them relays others, and to relay a
collection under a new issue does not change them.

Two loops come to the same as the definitions. A collection can be built by combining single
issues from the left, and leaves can be gathered behind those that were found before.
-/


namespace Conform

namespace Issues

/-! ## Combining -/

theorem append_assoc (a b c : Issues) : a ++ b ++ c = a ++ (b ++ c) := by
  refine toList_injective ?_
  rw [toList_append, toList_append, toList_append, toList_append, List.append_assoc]

theorem length_append (a b : Issues) : (a ++ b).length = a.length + b.length := by
  rw [length, toList_append, List.length_append]
  rfl

/-- A collection with one more issue behind it. -/
theorem append_single (first : Issue) (rest : List Issue) (issue : Issue) :
    (⟨first, rest⟩ : Issues) ++ single issue = ⟨first, rest ++ [issue]⟩ := rfl

/-- Combines single issues from the left. -/
def ofSingles? : List Issue → Option Issues
  | [] => none
  | first :: rest => some (rest.foldl (fun found issue => found ++ single issue) (single first))

theorem toList_foldl_append (found : Issues) (rest : List Issue) :
    (rest.foldl (fun found issue => found ++ single issue) found).toList =
      found.toList ++ rest := by
  induction rest generalizing found with
  | nil => simp
  | cons issue rest ih =>
    rw [List.foldl_cons, ih, toList_append, toList_single, List.append_assoc,
      List.singleton_append]

/-- No issue is lost or moved when they are combined one by one. -/
theorem ofSingles?_eq (list : List Issue) : ofSingles? list = ofList? list := by
  cases list with
  | nil => rfl
  | cons first rest =>
    have hlist := toList_foldl_append (single first) rest
    exact congrArg some (toList_injective hlist)

/-- A list without issues is no collection, and any other is the list of its collection. -/
theorem map_toList_ofList? (list : List Issue) :
    (ofList? list).map toList = if list = [] then none else some list := by
  cases list with
  | nil => rfl
  | cons first rest => rw [if_neg (List.cons_ne_nil first rest)]; rfl

/-! ## Collections are free -/

section

variable {S : Type} [Semigroup S]

/-- What is said of the first issue, combined with what is said of each of the others. -/
def extend (f : Issue → S) (issues : Issues) : S :=
  issues.rest.foldl (fun found issue => found * f issue) (f issues.first)

theorem foldl_mul (f : Issue → S) (a b : S) (list : List Issue) :
    list.foldl (fun found issue => found * f issue) (a * b) =
      a * list.foldl (fun found issue => found * f issue) b := by
  induction list generalizing b with
  | nil => rfl
  | cons issue rest ih => rw [List.foldl_cons, List.foldl_cons, mul_assoc, ih]

theorem extend_append (f : Issue → S) (a b : Issues) :
    extend f (a ++ b) = extend f a * extend f b := by
  have happend : a ++ b = ⟨a.first, a.rest ++ b.first :: b.rest⟩ := rfl
  rw [happend, extend, List.foldl_append, List.foldl_cons, foldl_mul]
  rfl

/-- **Whatever is said of single issues extends to collections in one way.** -/
theorem existsUnique_extend (f : Issue → S) : ∃! g : Issues → S,
    (∀ issue, g (single issue) = f issue) ∧ ∀ a b, g (a ++ b) = g a * g b := by
  refine ⟨extend f, ⟨fun issue => rfl, extend_append f⟩, ?_⟩
  rintro g ⟨hsingle, happend⟩
  funext issues
  obtain ⟨first, rest⟩ := issues
  -- a collection with more than one issue is combined of the last one and those before
  induction rest using List.reverseRecOn with
  | nil => exact hsingle first
  | append_singleton rest issue ih =>
    rw [← append_single, happend, ih, hsingle, extend_append]
    rfl

end

/-! ## The leaves of a combination -/

theorem leaves_append (a b : Issues) : (a ++ b).leaves = a.leaves ++ b.leaves := by
  rw [leaves, toList_append, Issue.leavesOf_append]
  rfl

theorem leaves_ne_nil (issues : Issues) : issues.leaves ≠ [] := by
  rw [leaves, toList, Issue.leavesOf]
  exact List.append_ne_nil_of_left_ne_nil (Issue.leaves_ne_nil issues.first) _

end Issues

namespace Issue

mutual

/-- A leaf relays no others. -/
theorem sub_eq_nil_of_mem_leaves {leaf : Issue} :
    ∀ issue : Issue, leaf ∈ issue.leaves → leaf.sub = []
  | ⟨path, kind, code, message, value, expected, []⟩, h => by
    rw [leaves] at h
    obtain rfl := List.mem_singleton.1 h
    rfl
  | ⟨_, _, _, _, _, _, sub :: others⟩, h => by
    rw [leaves] at h
    rcases List.mem_append.1 h with hsub | hothers
    · exact sub_eq_nil_of_mem_leaves sub hsub
    · exact sub_eq_nil_of_mem_leavesOf others hothers

theorem sub_eq_nil_of_mem_leavesOf {leaf : Issue} :
    ∀ list : List Issue, leaf ∈ leavesOf list → leaf.sub = []
  | [], h => by
    rw [leavesOf] at h
    cases h
  | issue :: rest, h => by
    rw [leavesOf] at h
    rcases List.mem_append.1 h with hissue | hrest
    · exact sub_eq_nil_of_mem_leaves issue hissue
    · exact sub_eq_nil_of_mem_leavesOf rest hrest

end

mutual

/-- Puts the leaves of a tree behind those found before. -/
def gather : Issue → List Issue → List Issue
  | ⟨path, kind, code, message, value, expected, []⟩, found =>
    found ++ [⟨path, kind, code, message, value, expected, []⟩]
  | ⟨_, _, _, _, _, _, sub :: others⟩, found => gatherAll others (gather sub found)

/-- Goes through the trees of a list, in order. -/
def gatherAll : List Issue → List Issue → List Issue
  | [], found => found
  | issue :: rest, found => gatherAll rest (gather issue found)

end

mutual

theorem gather_eq : ∀ (issue : Issue) (found : List Issue),
    gather issue found = found ++ issue.leaves
  | ⟨path, kind, code, message, value, expected, []⟩, found => by rw [gather, leaves]
  | ⟨_, _, _, _, _, _, sub :: others⟩, found => by
    rw [gather, gatherAll_eq others, gather_eq sub, leaves, List.append_assoc]

/-- What was found before stays in front, and the leaves follow. -/
theorem gatherAll_eq : ∀ (list found : List Issue), gatherAll list found = found ++ leavesOf list
  | [], found => by rw [gatherAll, leavesOf, List.append_nil]
  | issue :: rest, found => by
    rw [gatherAll, gatherAll_eq rest, gather_eq issue, leavesOf, List.append_assoc]

end

end Issue

namespace Issues

theorem sub_eq_nil_of_mem_leaves {issues : Issues} {leaf : Issue} (h : leaf ∈ issues.leaves) :
    leaf.sub = [] := Issue.sub_eq_nil_of_mem_leavesOf issues.toList h

/-- An issue that relays a collection has its leaves. -/
theorem leaves_single_relaying (issue : Issue) (issues : Issues) :
    (single { issue with sub := issues.toList }).leaves = issues.leaves := by
  have hleaves : ({ issue with sub := issues.toList } : Issue).leaves =
      Issue.leavesOf issues.toList := Issue.leaves_of_sub_ne_nil (toList_ne_nil issues)
  rw [leaves, toList_single, Issue.leavesOf, hleaves, Issue.leavesOf, List.append_nil]
  rfl

/-- **Collections of issues are combined freely, and leaves respect it.** A list is the list
of its collection, unless it is empty. Combining is associative, adds lengths, and is free.
Leaves of a combination are those of its parts in order; there always are some, none of them
relays others, and an issue that relays a collection, such as an aggregate, has its leaves.
To build a collection from single issues, and to gather leaves one by one, is the same. -/
theorem combined_freely (a b c : Issues) (list : List Issue) (issue : Issue) :
    (ofList? list).map toList = (if list = [] then none else some list) ∧
    ofSingles? list = ofList? list ∧
    a ++ b ++ c = a ++ (b ++ c) ∧
    (a ++ b).length = a.length + b.length ∧
    (∀ (S : Type) [Semigroup S] (f : Issue → S), ∃! g : Issues → S,
      (∀ issue, g (single issue) = f issue) ∧ ∀ a b, g (a ++ b) = g a * g b) ∧
    (a ++ b).leaves = a.leaves ++ b.leaves ∧
    a.leaves ≠ [] ∧
    a.leaves.all Issue.isLeaf = true ∧
    (single { issue with sub := a.toList }).leaves = a.leaves ∧
    Issue.gatherAll a.toList [] = a.leaves := by
  have hgather : Issue.gatherAll a.toList [] = a.leaves := Issue.gatherAll_eq a.toList []
  refine ⟨map_toList_ofList? list, ofSingles?_eq list, append_assoc a b c, length_append a b,
    fun S _ f => existsUnique_extend f, leaves_append a b, leaves_ne_nil a, ?_,
    leaves_single_relaying issue a, hgather⟩
  rw [List.all_eq_true]
  intro leaf hleaf
  exact List.isEmpty_iff.2 (sub_eq_nil_of_mem_leaves hleaf)

end Issues

end Conform
