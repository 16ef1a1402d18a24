import Conform.Proofs.Checked
import Conform.Proofs.Issue.Tree
/-!
# Relabel — the same tree with other issues

`Issue.relabel` changes every issue of a tree and leaves alone which issue
relays which. Three changes are made here: `Issue.under` moves a tree below
a path, `Issue.placedAt` puts all its issues at one path, and
`Issue.outline` forgets all but the place, kind and code of every issue.
`Checked.mapIssues` makes a change to the issues of a result.
-/


namespace Conform

namespace Issue

/-! ## Changing every issue of a tree -/

mutual

/-- The tree with every issue changed. What an issue relays is not shown to the
change, and is changed in turn. -/
def relabel (f : Issue → Issue) : Issue → Issue
  | ⟨path, kind, code, message, value, expected, sub⟩ =>
    { f ⟨path, kind, code, message, value, expected, []⟩ with sub := relabelAll f sub }

/-- The trees of a list with every issue changed. -/
def relabelAll (f : Issue → Issue) : List Issue → List Issue
  | [] => []
  | issue :: rest => relabel f issue :: relabelAll f rest

end

variable {f : Issue → Issue}

theorem relabelAll_eq_map (f : Issue → Issue) (list : List Issue) :
    relabelAll f list = list.map (relabel f) := by
  induction list with
  | nil => rfl
  | cons issue rest ih => rw [relabelAll, ih, List.map_cons]

theorem relabel_mk (path : Path) (kind : IssueKind) (code message : String)
    (value : Option Value) (expected : Option String) (sub : List Issue) :
    relabel f ⟨path, kind, code, message, value, expected, sub⟩ =
      { f ⟨path, kind, code, message, value, expected, []⟩ with sub := sub.map (relabel f) } := by
  rw [relabel, relabelAll_eq_map]

theorem relabel_eq (f : Issue → Issue) (issue : Issue) :
    relabel f issue = { f { issue with sub := [] } with sub := issue.sub.map (relabel f) } := by
  obtain ⟨path, kind, code, message, value, expected, sub⟩ := issue
  exact relabel_mk ..

theorem with_sub_nil {issue : Issue} (h : issue.sub = []) : { issue with sub := [] } = issue := by
  obtain ⟨path, kind, code, message, value, expected, sub⟩ := issue
  obtain rfl : sub = [] := h
  rfl

mutual

/-- Two changes one after the other are one change, if the first makes no issue
relay others. -/
theorem relabel_relabel {f : Issue → Issue} (hf : ∀ issue, (f issue).sub = issue.sub)
    (g : Issue → Issue) : ∀ issue : Issue, relabel g (relabel f issue) = relabel (g ∘ f) issue
  | ⟨path, kind, code, message, value, expected, sub⟩ => by
    have hsub := relabelAll_relabelAll hf g sub
    simp only [relabelAll_eq_map, List.map_map] at hsub
    rw [relabel_mk, relabel_eq, relabel_mk]
    dsimp only [Function.comp_apply]
    rw [with_sub_nil (hf _), List.map_map, hsub]

theorem relabelAll_relabelAll {f : Issue → Issue} (hf : ∀ issue, (f issue).sub = issue.sub)
    (g : Issue → Issue) : ∀ list : List Issue,
      relabelAll g (relabelAll f list) = relabelAll (g ∘ f) list
  | [] => rfl
  | issue :: rest => by
    rw [relabelAll, relabelAll, relabelAll, relabel_relabel hf g issue,
      relabelAll_relabelAll hf g rest]

end

mutual

/-- The leaves of a changed tree are the changed leaves. -/
theorem leaves_relabel (f : Issue → Issue) : ∀ issue : Issue,
    (issue.relabel f).leaves = issue.leaves.map (relabel f)
  | ⟨path, kind, code, message, value, expected, []⟩ => by
    rw [leaves_of_sub_eq_nil (by rw [relabel_mk]; rfl), leaves]
    rfl
  | ⟨path, kind, code, message, value, expected, sub :: others⟩ => by
    rw [leaves_of_sub_ne_nil (by rw [relabel_mk]; exact List.cons_ne_nil _ _), relabel_mk, leaves,
      List.map_append, ← leaves_relabel f sub, ← leavesOf_relabel f others]
    rfl

theorem leavesOf_relabel (f : Issue → Issue) : ∀ list : List Issue,
    leavesOf (list.map (relabel f)) = (leavesOf list).map (relabel f)
  | [] => rfl
  | issue :: rest => by
    rw [List.map_cons, leavesOf, leavesOf, List.map_append, leaves_relabel f issue,
      leavesOf_relabel f rest]

end

/-! ## The changes -/

/-- The tree with every issue moved below a path. -/
def under (base : Path) : Issue → Issue :=
  relabel fun issue => { issue with path := base ++ issue.path }

theorem under_mk (base path : Path) (kind : IssueKind) (code message : String)
    (value : Option Value) (expected : Option String) (sub : List Issue) :
    under base ⟨path, kind, code, message, value, expected, sub⟩ =
      ⟨base ++ path, kind, code, message, value, expected, sub.map (under base)⟩ := by
  rw [under, relabel_mk]

/-- The tree with every issue put at one path. -/
def placedAt (path : Path) : Issue → Issue := relabel fun issue => { issue with path }

/-- What stands at one path stands at one path after a move. -/
theorem under_placedAt (base path : Path) (issue : Issue) :
    under base (placedAt path issue) = placedAt (base ++ path) issue := by
  refine relabel_relabel ?_ _ issue
  intro issue
  rfl

/-- The tree with nothing left of every issue but its place, kind and code. -/
def outline : Issue → Issue :=
  relabel fun issue => { issue with message := "", value := none, expected := none }

theorem outline_mk (path : Path) (kind : IssueKind) (code message : String)
    (value : Option Value) (expected : Option String) (sub : List Issue) :
    outline ⟨path, kind, code, message, value, expected, sub⟩ =
      ⟨path, kind, code, "", none, none, sub.map outline⟩ := by
  rw [outline, relabel_mk]

end Issue

/-- The collection with every issue changed. -/
def Issues.map (f : Issue → Issue) (issues : Issues) : Issues := ⟨f issues.first, issues.rest.map f⟩

@[simp] theorem Issues.toList_map (f : Issue → Issue) (issues : Issues) :
    (issues.map f).toList = issues.toList.map f := rfl

/-! ## Changing the issues of a result -/

namespace Checked

variable {α β : Type} {f : Issue → Issue}

/-- The result with every issue changed. -/
def mapIssues (f : Issue → Issue) (result : Checked α) : Checked α := result.mapError (Issues.map f)

@[simp] theorem mapIssues_ok (output : α) : mapIssues f (.ok output : Checked α) = .ok output := rfl

@[simp] theorem mapIssues_error (found : Issues) :
    mapIssues f (.error found : Checked α) = .error (found.map f) := rfl

@[simp] theorem mapIssues_fail (issue : Issue) :
    mapIssues f (fail issue : Checked α) = fail (f issue) := rfl

@[simp] theorem mapIssues_id (result : Checked α) : mapIssues id result = result := by
  cases result with
  | ok output => rfl
  | error found =>
    refine congrArg Except.error (Issues.toList_injective ?_)
    rw [Issues.toList_map, List.map_id]

theorem mapIssues_mapIssues (g : Issue → Issue) (result : Checked α) :
    mapIssues g (mapIssues f result) = mapIssues (g ∘ f) result := by
  cases result with
  | ok output => rfl
  | error found =>
    refine congrArg Except.error (Issues.toList_injective ?_)
    simp only [Issues.toList_map, List.map_map]

@[simp] theorem mapIssues_map (h : α → β) (result : Checked α) :
    mapIssues f (result.map h) = (mapIssues f result).map h := by
  cases result <;> rfl

@[simp] theorem issues_mapIssues (result : Checked α) :
    (mapIssues f result).issues = result.issues.map f := by
  cases result <;> rfl

@[simp] theorem output?_mapIssues (result : Checked α) :
    (mapIssues f result).output? = result.output? := by
  cases result <;> rfl

@[simp] theorem mapIssues_settle (output : α) (list : List Issue) :
    mapIssues f (settle output list) = settle output (list.map f) := by
  cases list <;> rfl

/-- Collecting changed results changes what is collected. -/
theorem mapIssues_collect (results : List (Checked α)) :
    mapIssues f (collect results) = collect (results.map (mapIssues f)) := by
  rw [collect, mapIssues_settle, collect, List.filterMap_map, List.flatMap_map, List.map_flatMap]
  simp only [Function.comp_def, output?_mapIssues, issues_mapIssues]

end Checked

end Conform
