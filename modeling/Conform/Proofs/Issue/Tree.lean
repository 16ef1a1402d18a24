import Conform.Issue
/-!
# Tree — the issues inside an issue

An issue is a tree of issues. `Issue.nodes` lists all of them, the issue
itself first; `Issue.leaves` keeps those that relay no others. Both are
given here as `flatMap` over the issues directly below.
-/


namespace Conform

namespace Issue

/-! ## All issues of a tree -/

mutual

/-- All issues of the tree of an issue, depth first, the issue itself first. -/
def nodes : Issue → List Issue
  | ⟨path, kind, code, message, value, expected, sub⟩ =>
    ⟨path, kind, code, message, value, expected, sub⟩ :: nodesOf sub

/-- All issues of the trees of a list of issues, in order. -/
def nodesOf : List Issue → List Issue
  | [] => []
  | issue :: rest => nodes issue ++ nodesOf rest

end

theorem nodesOf_eq_flatMap (list : List Issue) : nodesOf list = list.flatMap nodes := by
  induction list with
  | nil => rfl
  | cons issue rest ih => rw [nodesOf, ih, List.flatMap_cons]

theorem nodes_eq_cons (issue : Issue) : issue.nodes = issue :: nodesOf issue.sub := by
  obtain ⟨path, kind, code, message, value, expected, sub⟩ := issue
  rw [nodes]

/-- An issue of a tree is its root or is in the tree of one directly below. -/
theorem mem_nodes_iff {issue other : Issue} :
    other ∈ issue.nodes ↔ other = issue ∨ ∃ sub ∈ issue.sub, other ∈ sub.nodes := by
  rw [nodes_eq_cons, nodesOf_eq_flatMap, List.mem_cons, List.mem_flatMap]

/-! ## The leaves -/

theorem leavesOf_eq_flatMap (list : List Issue) : leavesOf list = list.flatMap leaves := by
  induction list with
  | nil => rfl
  | cons issue rest ih => rw [leavesOf, ih, List.flatMap_cons]

@[simp] theorem leavesOf_append (a b : List Issue) :
    leavesOf (a ++ b) = leavesOf a ++ leavesOf b := by
  simp [leavesOf_eq_flatMap]

/-- An issue that relays others has their leaves. -/
theorem leaves_of_sub_ne_nil {issue : Issue} (h : issue.sub ≠ []) :
    issue.leaves = leavesOf issue.sub := by
  obtain ⟨path, kind, code, message, value, expected, sub⟩ := issue
  cases sub with
  | nil => exact absurd rfl h
  | cons first rest => rw [leaves, leavesOf]

/-- An issue that relays none is its own leaf. -/
theorem leaves_of_sub_eq_nil {issue : Issue} (h : issue.sub = []) : issue.leaves = [issue] := by
  obtain ⟨path, kind, code, message, value, expected, sub⟩ := issue
  obtain rfl : sub = [] := h
  rw [leaves]

/-- Every issue has a leaf. -/
theorem leaves_ne_nil : ∀ issue : Issue, issue.leaves ≠ []
  | ⟨_, _, _, _, _, _, []⟩ => by simp [leaves]
  | ⟨_, _, _, _, _, _, first :: _⟩ => by simp [leaves, leaves_ne_nil first]

/-- A list of leaves is the list of its leaves. -/
theorem leavesOf_eq_self {list : List Issue} (h : ∀ issue ∈ list, issue.sub = []) :
    leavesOf list = list := by
  induction list with
  | nil => rfl
  | cons issue rest ih =>
    rw [leavesOf, leaves_of_sub_eq_nil (h issue (by simp)),
      ih fun other hother => h other (List.mem_cons_of_mem _ hother)]
    rfl

@[simp] theorem leaves_aggregate (path : Path) (message : String) (value : Value) (sub : Issues) :
    (aggregate path message value sub).leaves = sub.leaves :=
  leaves_of_sub_ne_nil (by simp [aggregate, Issues.toList])

end Issue

end Conform
