import Conform.Checked
/-!
# Checked — what combined checks yield

`settle`, `collect`, `wrap` and `both` are opened here once: when a combined
check passes and with what, and when it fails and with which issues.
The rules of arrays, objects, tuples and unions are read off these lemmas
and do not look at the combinators again.

`Issues` is determined by its list, so equations between failures are
equations between lists.
-/


namespace Conform

/-! ## Non-empty collections as lists -/

namespace Issues

@[simp] theorem toList_single (issue : Issue) : (single issue).toList = [issue] := rfl

@[simp] theorem toList_append (a b : Issues) : (a ++ b).toList = a.toList ++ b.toList := rfl

@[simp] theorem toList_ne_nil (issues : Issues) : issues.toList ≠ [] := by
  simp [toList]

/-- A collection is its list. -/
theorem toList_injective {a b : Issues} (h : a.toList = b.toList) : a = b := by
  obtain ⟨first, rest⟩ := a
  obtain ⟨first', rest'⟩ := b
  simp only [toList, List.cons.injEq] at h
  rw [h.1, h.2]

@[simp] theorem ofList?_eq_none_iff {list : List Issue} : ofList? list = none ↔ list = [] := by
  cases list <;> simp [ofList?]

@[simp] theorem ofList?_eq_some_iff {list : List Issue} {issues : Issues} :
    ofList? list = some issues ↔ issues.toList = list := by
  cases list with
  | nil => simp [ofList?]
  | cons issue rest =>
    simp only [ofList?, Option.some.injEq]
    exact ⟨fun h => h ▸ rfl, fun h => toList_injective h.symm⟩

end Issues

namespace Checked

variable {α β : Type}

/-! ## One result -/

@[simp] theorem issues_ok (output : α) : issues (.ok output : Checked α) = [] := rfl

@[simp] theorem issues_error (found : Issues) :
    issues (.error found : Checked α) = found.toList := rfl

/-- A result without issues has an output. -/
theorem issues_eq_nil_iff {result : Checked α} :
    result.issues = [] ↔ ∃ output, result = .ok output := by
  cases result with
  | ok output => simp
  | error found => simp

/-- The issues of a result are those it fails with. -/
theorem mem_issues_iff {result : Checked α} {issue : Issue} :
    issue ∈ result.issues ↔ ∃ found, result = .error found ∧ issue ∈ found.toList := by
  cases result with
  | ok output => simp
  | error found => simp

@[simp] theorem output?_ok (output : α) : output? (.ok output : Checked α) = some output := rfl

@[simp] theorem output?_error (found : Issues) :
    output? (.error found : Checked α) = none := rfl

@[simp] theorem fail_eq_error_iff {issue : Issue} {found : Issues} :
    (fail issue : Checked α) = .error found ↔ found = .single issue := by
  simp [fail, eq_comm]

@[simp] theorem fail_ne_ok {issue : Issue} {output : α} :
    (fail issue : Checked α) ≠ .ok output := by
  simp [fail]

@[simp] theorem issues_fail (issue : Issue) : (fail issue : Checked α).issues = [issue] := rfl

@[simp] theorem map_eq_ok_iff {f : α → β} {result : Checked α} {output : β} :
    result.map f = .ok output ↔ ∃ a, result = .ok a ∧ f a = output := by
  cases result <;> simp [Except.map]

@[simp] theorem map_eq_error_iff {f : α → β} {result : Checked α} {found : Issues} :
    result.map f = .error found ↔ result = .error found := by
  cases result <;> simp [Except.map]

@[simp] theorem issues_map (f : α → β) (result : Checked α) :
    issues (result.map f) = result.issues := by
  cases result <;> rfl

theorem output?_map (f : α → β) (result : Checked α) :
    output? (result.map f) = result.output?.map f := by
  cases result <;> rfl

/-! ## Combined results -/

@[simp] theorem settle_eq_ok_iff {output a : α} {list : List Issue} :
    settle output list = .ok a ↔ list = [] ∧ output = a := by
  cases list <;> simp [settle, Issues.ofList?]

@[simp] theorem settle_eq_error_iff {output : α} {list : List Issue} {found : Issues} :
    settle output list = .error found ↔ found.toList = list := by
  unfold settle
  cases h : Issues.ofList? list with
  | none => simp [Issues.ofList?_eq_none_iff.1 h]
  | some issues =>
    rw [← Issues.ofList?_eq_some_iff, h]
    simp

@[simp] theorem issues_settle (output : α) (list : List Issue) :
    (settle output list).issues = list := by
  cases list <;> rfl

/-- **All outputs.** Collecting passes exactly if every result does, and then
with their outputs in order. -/
theorem collect_eq_ok_iff {results : List (Checked α)} {outputs : List α} :
    collect results = .ok outputs ↔ results = outputs.map .ok := by
  unfold collect
  rw [settle_eq_ok_iff]
  constructor
  · rintro ⟨hissues, rfl⟩
    -- without issues no result is a failure, so no output is dropped
    induction results with
    | nil => rfl
    | cons result rest ih =>
      simp only [List.flatMap_cons, List.append_eq_nil_iff] at hissues
      obtain ⟨output, rfl⟩ := issues_eq_nil_iff.1 hissues.1
      simpa using ih hissues.2
  · rintro rfl
    constructor
    · simp [List.flatMap_map]
    · simp [List.filterMap_map, Function.comp_def]

/-- **All issues.** Collecting fails with the issues of all results in order. -/
theorem collect_eq_error_iff {results : List (Checked α)} {found : Issues} :
    collect results = .error found ↔ found.toList = results.flatMap issues := by
  rw [collect, settle_eq_error_iff]

@[simp] theorem issues_collect (results : List (Checked α)) :
    (collect results).issues = results.flatMap issues := issues_settle _ _

@[simp] theorem wrap_eq_ok_iff {result : Checked α} {issue : Issues → Issue} {output : α} :
    result.wrap issue = .ok output ↔ result = .ok output := by
  cases result with
  | ok a => exact Iff.rfl
  | error sub => constructor <;> intro h <;> cases h

theorem wrap_eq_error_iff {result : Checked α} {issue : Issues → Issue} {found : Issues} :
    result.wrap issue = .error found ↔
      ∃ sub, result = .error sub ∧ found = .single (issue sub) := by
  cases result with
  | ok a =>
    constructor
    · intro h
      cases h
    · rintro ⟨sub, h, -⟩
      cases h
  | error sub =>
    constructor
    · intro h
      exact ⟨sub, rfl, (Except.error.inj h).symm⟩
    · rintro ⟨sub, h, rfl⟩
      obtain rfl := Except.error.inj h
      rfl

/-- Combining a result with the collection of others collects them all. -/
theorem map_both_collect (result : Checked α) (rest : List (Checked α)) :
    ((both result (collect rest)).map fun (a, as) => a :: as) = collect (result :: rest) := by
  -- four cases, of which only the first has an output
  cases hrest : collect rest with
  | ok outputs =>
    rw [collect_eq_ok_iff.1 hrest]
    cases result with
    | ok output => exact (collect_eq_ok_iff.2 rfl).symm
    | error found =>
      refine (collect_eq_error_iff.2 ?_).symm
      simp [List.flatMap_map]
  | error others =>
    have hothers := collect_eq_error_iff.1 hrest
    cases result with
    | ok output => exact (collect_eq_error_iff.2 (by simp [hothers])).symm
    | error found => exact (collect_eq_error_iff.2 (by simp [hothers])).symm

end Checked

end Conform
