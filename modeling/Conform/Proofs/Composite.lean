import Conform.Proofs.Checked
import Conform.Rule.Array
import Conform.Rule.Object
import Conform.Rule.Tuple
import Conform.Rule.Union
/-!
# Composite — what modifiers and composite rules do with their parts

One section for each way of making a validator from others. Each says when
the result passes, with which output, and where the issues of a failure
come from: an issue of an array is one of its elements', at its index; an
issue of an object is one of its fields', under its name; and so on. The
lemmas name the part that is responsible, so proofs about whole schemas
are case analyses over them.
-/


namespace Conform

/-! ## Modifiers -/

/-- The second step passes where the first does, with the same output. -/
def Widens {α : Type} (narrow wide : Value → Path → Checked α) : Prop :=
  ∀ ⦃value path output⦄, narrow value path = .ok output → wide value path = .ok output

namespace Modifiers

variable {α : Type} {m : Modifiers α} {step : Value → Path → Checked α} {value : Value} {path : Path}

theorem conclude_eq_ok_iff {result : Checked α} {output : α} :
    m.conclude path result = .ok output ↔
      ∃ a b, result = .ok a ∧ m.checked a path = .ok b ∧ m.finished b = output := by
  cases result with
  | error found => simp [conclude, bind, Except.bind]
  | ok a =>
    cases h : m.checked a path <;> simp [conclude, bind, Except.bind, h, pure, Except.pure]

/-- A run fails in the step or in the custom check. -/
theorem conclude_eq_error_iff {result : Checked α} {found : Issues} :
    m.conclude path result = .error found ↔
      result = .error found ∨ ∃ a, result = .ok a ∧ m.checked a path = .error found := by
  cases result with
  | error found => simp [conclude, bind, Except.bind]
  | ok a =>
    cases h : m.checked a path <;> simp [conclude, bind, Except.bind, h, pure, Except.pure]

/-- No hook is set. -/
structure HookFree (m : Modifiers α) : Prop where
  prepare : m.prepare = none
  custom : m.custom = none
  finish : m.finish = none

/-- Without hooks, present input is left to the step. -/
theorem HookFree.present (h : m.HookFree) : m.present step value path = step value path := by
  have hprepared : m.prepared value = value := by simp [prepared, h.prepare]
  rw [Modifiers.present, hprepared]
  cases hstep : step value path <;>
    simp [conclude, bind, Except.bind, pure, Except.pure, checked, finished, h.custom, h.finish]

/-- Without hooks, the output is that of the step, as a value. -/
theorem HookFree.validator_present (h : m.HookFree) (toValue : α → Value) :
    (m.validator step toValue).present value path = (step value path).map toValue :=
  congrArg (Except.map toValue) h.present

@[simp] theorem validator_present (toValue : α → Value) :
    (m.validator step toValue).present value path = (m.present step value path).map toValue := rfl

@[simp] theorem validator_absent (toValue : α → Value) :
    (m.validator step toValue).absent path =
      (m.absent path).map fun output => output.map toValue := rfl

/-- Absent input has the default, or no output where absence is accepted. -/
theorem absent_eq_ok_iff {output : Option α} :
    m.absent path = .ok output ↔
      m.fallback = output ∧ (m.fallback.isSome ∨ m.optional) := by
  unfold absent
  cases m.fallback with
  | some a => simp
  | none => cases m.optional <;> simp

end Modifiers

namespace Validator

variable {v : Validator} {items : List Value} {path : Path}

@[simp] theorem parse_some (value : Value) :
    v.parse (some value) path = (v.present value path).map some := rfl

@[simp] theorem parse_none : v.parse none path = v.absent path := rfl

end Validator

/-! ## Positions and elements

The elements of an array are the positions of a tuple that has the same
child everywhere. -/

namespace Tuple

variable {children : List Validator} {items : List Value} {path : Path}

@[simp] theorem length_positions (h : items.length = children.length) :
    (positions children items path).length = children.length := by
  simp [positions, h]

theorem getElem_positions {i : Nat} (h : i < (positions children items path).length)
    (hchild : i < children.length) (hitem : i < items.length) :
    (positions children items path)[i] = children[i].present items[i] (path.index i) := by
  simp [positions]

/-- An issue of the positions is one of a position that fails, at its index. -/
theorem mem_issues_positions (hlength : items.length = children.length) {issue : Issue} :
    issue ∈ (positions children items path).flatMap Checked.issues ↔
      ∃ (i : Nat) (hchild : i < children.length) (hitem : i < items.length) (found : Issues),
        children[i].present items[i] (path.index i) = .error found ∧ issue ∈ found.toList := by
  simp only [List.mem_flatMap, Checked.mem_issues_iff,
    List.mem_iff_getElem (l := positions children items path)]
  constructor
  · rintro ⟨result, ⟨i, hi, rfl⟩, found, hfound, hmem⟩
    have hchild : i < children.length := by rwa [length_positions hlength] at hi
    have hitem : i < items.length := by omega
    exact ⟨i, hchild, hitem, found, by rwa [getElem_positions hi hchild hitem] at hfound, hmem⟩
  · rintro ⟨i, hchild, hitem, found, hfound, hmem⟩
    have hi : i < (positions children items path).length := by rwa [length_positions hlength]
    exact ⟨_, ⟨i, hi, rfl⟩, found, by rwa [getElem_positions hi hchild hitem], hmem⟩

/-- All positions pass, each at its index. -/
theorem positions_eq_map_ok_iff (hlength : items.length = children.length)
    {outputs : List Value} :
    positions children items path = outputs.map .ok ↔
      children.length = outputs.length ∧
        ∀ (i : Nat) (hchild : i < children.length) (hitem : i < items.length)
          (h : i < outputs.length),
          children[i].present items[i] (path.index i) = .ok outputs[i] := by
  constructor
  · intro h
    have houtputs : children.length = outputs.length := by
      simpa [length_positions hlength] using congrArg List.length h
    refine ⟨houtputs, fun i hchild hitem houtput => ?_⟩
    have hi : i < (positions children items path).length := by rwa [length_positions hlength]
    have hget : (positions children items path)[i]? = (outputs.map Except.ok)[i]? := by rw [h]
    rw [List.getElem?_eq_getElem hi, List.getElem?_eq_getElem (by simpa using houtput)] at hget
    simpa [getElem_positions hi hchild hitem] using hget
  · rintro ⟨houtputs, hpass⟩
    refine List.ext_getElem (by simpa [length_positions hlength] using houtputs) fun i hi hi' => ?_
    have hchild : i < children.length := by rwa [length_positions hlength] at hi
    have hitem : i < items.length := by omega
    rw [getElem_positions hi hchild hitem, List.getElem_map]
    exact hpass i hchild hitem (by simpa using hi')

end Tuple

namespace Validator

variable {v : Validator} {items : List Value} {path : Path}

theorem onItems_eq_positions :
    v.onItems items path = Tuple.positions (List.replicate items.length v) items path := by
  refine List.ext_getElem (by simp [onItems, Tuple.positions]) fun i hi hi' => ?_
  simp [onItems, Tuple.positions]

/-- All elements pass, each at its index. -/
theorem onItems_eq_map_ok_iff {outputs : List Value} :
    v.onItems items path = outputs.map .ok ↔
      items.length = outputs.length ∧
        ∀ (i : Nat) (hitem : i < items.length) (h : i < outputs.length),
          v.present items[i] (path.index i) = .ok outputs[i] := by
  rw [onItems_eq_positions, Tuple.positions_eq_map_ok_iff (by simp)]
  simp only [List.length_replicate, List.getElem_replicate]
  exact and_congr_right fun _ =>
    ⟨fun h i hitem houtput => h i hitem hitem houtput, fun h i _ hitem houtput => h i hitem houtput⟩

/-- An issue of the elements is one of an element that fails, at its index. -/
theorem mem_issues_onItems {issue : Issue} :
    issue ∈ (v.onItems items path).flatMap Checked.issues ↔
      ∃ (i : Nat) (hitem : i < items.length) (found : Issues),
        v.present items[i] (path.index i) = .error found ∧ issue ∈ found.toList := by
  rw [onItems_eq_positions, Tuple.mem_issues_positions (by simp)]
  simp

end Validator

/-! ## Objects -/

namespace ObjectShape

variable {σ : Type} {s : ObjectShape σ} {members : Members} {path : Path}
variable {results : List (String × Checked (Option Value))}

theorem conclude_eq_ok_iff {output : Members} :
    s.conclude members path results = .ok output ↔
      fieldIssues results = [] ∧ s.unknownIssues (s.unknownMembers members) path = [] ∧
        fieldOutputs results ++ s.unknownOutput (s.unknownMembers members) = output := by
  simp [conclude, and_assoc]

/-- An object fails with one aggregate, over the issues of the fields and those
about undeclared keys. -/
theorem conclude_eq_error_iff {found : Issues} :
    s.conclude members path results = .error found ↔
      ∃ sub, sub.toList =
          fieldIssues results ++ s.unknownIssues (s.unknownMembers members) path ∧
        found = .single (failure path (.object members) sub) := by
  simp [conclude, Checked.wrap_eq_error_iff]

/-- Beside the results of the fields, only their names matter and what happens to
other keys. -/
theorem conclude_congr {τ : Type} {t : ObjectShape τ} (hkeys : s.keys = t.keys)
    (hmode : s.unknownKeys = t.unknownKeys) :
    s.conclude members path results = t.conclude members path results := by
  unfold conclude unknownMembers declares unknownIssues unknownOutput
  rw [hkeys, hmode]

theorem fieldIssues_eq_flatMap :
    fieldIssues results = results.flatMap fun entry => entry.2.issues := rfl

/-- An issue of the fields is one of a field that fails, at the field's name. -/
theorem mem_fieldIssues {s : ObjectShape Validator} {issue : Issue} :
    issue ∈ fieldIssues (s.fieldResults members path) ↔
      ∃ name child found, (name, child) ∈ s.fields ∧
        child.parse (members.get? name) (path.field name) = .error found ∧
          issue ∈ found.toList := by
  simp only [fieldIssues_eq_flatMap, fieldResults, List.mem_flatMap, List.mem_map, Prod.exists,
    Checked.mem_issues_iff]
  constructor
  · rintro ⟨_, _, ⟨name, child, hfield, heq⟩, found, hfound, hmem⟩
    obtain ⟨rfl, rfl⟩ := Prod.mk.inj heq
    exact ⟨name, child, found, hfield, hfound, hmem⟩
  · rintro ⟨name, child, found, hfield, hfound, hmem⟩
    exact ⟨_, _, ⟨name, child, hfield, rfl⟩, found, hfound, hmem⟩

/-- Undeclared keys are reported in one issue. -/
theorem mem_unknownIssues {unknown : Members} {issue : Issue}
    (h : issue ∈ s.unknownIssues unknown path) : issue = unknownKeysIssue path unknown.keys := by
  unfold unknownIssues at h
  split at h
  · exact List.mem_singleton.1 h
  · cases h

/-- Input that is not an object is reported as such. -/
theorem check_eq_mismatch {s : ObjectShape Validator} {value : Value}
    (h : ∀ members, value ≠ .object members) : s.check value path = s.mismatch value path := by
  cases value with
  | object members => exact absurd rfl (h members)
  | _ => rfl

end ObjectShape

/-! ## Arrays -/

namespace ArrayRule

variable {r : ArrayRule} {items : List Value} {path : Path} {results : List (Checked Value)}

theorem conclude_eq_ok_iff {output : List Value} :
    r.conclude items path results = .ok output ↔
      ∃ outputs : List Value, results = outputs.map .ok ∧
        r.lengthIssues items.length (.array items) path = [] ∧
        r.uniquenessIssues outputs (.array items) path = [] ∧ r.outputOf outputs = output := by
  unfold conclude
  cases h : Checked.collect results with
  | error sub =>
    simp only [Checked.settle_eq_ok_iff, List.append_eq_nil_iff, List.cons_ne_nil, and_false,
      false_and, false_iff, not_exists]
    rintro outputs ⟨rfl, -⟩
    rw [Checked.collect_eq_ok_iff.2 rfl] at h
    cases h
  | ok outputs =>
    have hresults := Checked.collect_eq_ok_iff.1 h
    subst hresults
    constructor
    · intro hsettle
      obtain ⟨hissues, houtput⟩ := Checked.settle_eq_ok_iff.1 hsettle
      exact ⟨outputs, rfl, (List.append_eq_nil_iff.1 hissues).1,
        (List.append_eq_nil_iff.1 hissues).2, houtput⟩
    · rintro ⟨outputs', houtputs, hlength, hunique, houtput⟩
      obtain rfl : outputs = outputs' := by
        rw [Checked.collect_eq_ok_iff.2 houtputs] at h
        exact (Except.ok.inj h).symm
      exact Checked.settle_eq_ok_iff.2 ⟨by rw [hlength, hunique]; rfl, houtput⟩

/-- An array reports its length beside the aggregate of its elements, or beside
their repetitions if all of them pass. -/
theorem issues_conclude :
    (r.conclude items path results).issues =
      r.lengthIssues items.length (.array items) path ++
        match Checked.collect results with
        | .error sub => [failure path (.array items) sub]
        | .ok outputs => r.uniquenessIssues outputs (.array items) path := by
  unfold conclude
  cases Checked.collect results <;> simp

/-- Input that is not an array is reported as such. -/
theorem check_eq_mismatch {item : Validator} {value : Value}
    (h : ∀ items, value ≠ .array items) : r.check item value path = r.mismatch value path := by
  cases value with
  | array items => exact absurd rfl (h items)
  | _ => rfl

end ArrayRule

/-! ## Tuples -/

namespace Tuple

variable {kind : TupleKind} {children : List Validator} {items : List Value} {path : Path}
variable {results : List (Checked Value)}

/-- A tuple sees its positions if their number is right. -/
theorem check_of_length_eq (kind : TupleKind) (h : items.length = children.length) :
    check kind children (.array items) path =
      conclude kind items path (positions children items path) :=
  if_pos h

/-- Otherwise it is about the length alone. -/
theorem check_of_length_ne (kind : TupleKind) (h : items.length ≠ children.length) :
    check kind children (.array items) path =
      Checked.fail (lengthIssue children.length items path) :=
  if_neg h

/-- Chaining results from the right collects them. -/
theorem gather_eq_collect {α : Type} (results : List (Checked α)) :
    Checked.gather results = Checked.collect results := by
  induction results with
  | nil => rfl
  | cons result rest ih => rw [Checked.gather, ih, Checked.map_both_collect]

/-- Both kinds of tuples put their positions together alike. -/
@[simp] theorem combine_eq_collect : combine kind results = Checked.collect results := by
  cases kind with
  | listed => rfl
  | typed => exact gather_eq_collect results

theorem conclude_eq_ok_iff {output : List Value} :
    conclude kind items path results = .ok output ↔ results = output.map .ok := by
  rw [conclude, combine_eq_collect, Checked.wrap_eq_ok_iff, Checked.collect_eq_ok_iff]

/-- A tuple accepts arrays of its length in which every position passes, and it puts
the outputs at their positions. -/
theorem check_eq_ok_iff {value : Value} {outputs : List Value} :
    check kind children value path = .ok outputs ↔
      ∃ items : List Value, value = .array items ∧ items.length = children.length ∧
        children.length = outputs.length ∧
        ∀ (i : Nat) (hchild : i < children.length) (hitem : i < items.length)
          (h : i < outputs.length),
          children[i].present items[i] (path.index i) = .ok outputs[i] := by
  constructor
  · intro hcheck
    cases value with
    | array items =>
      by_cases hlength : items.length = children.length
      · rw [check_of_length_eq kind hlength, conclude_eq_ok_iff] at hcheck
        exact ⟨items, rfl, hlength, (positions_eq_map_ok_iff hlength).1 hcheck⟩
      · rw [check_of_length_ne kind hlength] at hcheck
        cases hcheck
    | _ => cases hcheck
  · rintro ⟨items, rfl, hlength, hpass⟩
    rw [check_of_length_eq kind hlength, conclude_eq_ok_iff]
    exact (positions_eq_map_ok_iff hlength).2 hpass

/-- A tuple of the right length fails with one aggregate over the issues of its
positions. -/
theorem conclude_eq_error_iff {found : Issues} :
    conclude kind items path results = .error found ↔
      ∃ sub, sub.toList = results.flatMap Checked.issues ∧
        found = .single (failure path (.array items) sub) := by
  rw [conclude, combine_eq_collect, Checked.wrap_eq_error_iff]
  simp only [Checked.collect_eq_error_iff]

end Tuple

/-! ## Unions -/

namespace Union

variable {alternatives : List Validator} {value : Value} {path : Path}

/-- The output is that of an alternative that accepts after others that do not. -/
theorem firstOutput_eq_ok_iff {output : Value} :
    firstOutput alternatives value path = .ok output ↔
      ∃ before alternative after, alternatives = before ++ alternative :: after ∧
        (∀ other ∈ before, ∃ found, other.present value path = .error found) ∧
        alternative.present value path = .ok output := by
  induction alternatives with
  | nil => simp [firstOutput]
  | cons first rest ih =>
    cases hfirst : first.present value path with
    | ok accepted =>
      simp only [firstOutput, hfirst, Except.ok.injEq]
      constructor
      · rintro rfl
        exact ⟨[], first, rest, rfl, by simp, hfirst⟩
      · rintro ⟨before, alternative, after, hsplit, hbefore, halternative⟩
        cases before with
        | nil =>
          obtain ⟨rfl, -⟩ := List.cons.inj hsplit
          rw [hfirst] at halternative
          exact Except.ok.inj halternative
        | cons other before =>
          obtain ⟨rfl, -⟩ := List.cons.inj hsplit
          obtain ⟨found, hfound⟩ := hbefore first (by simp)
          rw [hfirst] at hfound
          cases hfound
    | error found =>
      have hrec : firstOutput (first :: rest) value path = .ok output ↔
          firstOutput rest value path = .ok output := by
        simp only [firstOutput, hfirst]
        cases firstOutput rest value path <;> simp
      -- the first alternative refuses, so it joins those in front
      rw [hrec, ih]
      constructor
      · rintro ⟨before, alternative, after, rfl, hbefore, halternative⟩
        refine ⟨first :: before, alternative, after, rfl, ?_, halternative⟩
        simpa [hfirst] using hbefore
      · rintro ⟨before, alternative, after, hsplit, hbefore, halternative⟩
        cases before with
        | nil =>
          obtain ⟨rfl, -⟩ := List.cons.inj hsplit
          rw [hfirst] at halternative
          cases halternative
        | cons other before =>
          obtain ⟨rfl, rfl⟩ := List.cons.inj hsplit
          exact ⟨before, alternative, after, rfl,
            fun other hother => hbefore other (List.mem_cons_of_mem _ hother), halternative⟩

/-- Without an alternative that accepts, the issues of all come in order. -/
theorem firstOutput_eq_error_iff {sub : List Issue} :
    firstOutput alternatives value path = .error sub ↔
      (∀ alternative ∈ alternatives, ∃ found, alternative.present value path = .error found) ∧
        sub = alternatives.flatMap fun alternative =>
          Checked.issues (alternative.present value path) := by
  induction alternatives generalizing sub with
  | nil => simp [firstOutput, eq_comm]
  | cons first rest ih =>
    cases hfirst : first.present value path with
    | ok accepted => simp [firstOutput, hfirst]
    | error found =>
      simp only [firstOutput, hfirst, List.forall_mem_cons, List.flatMap_cons,
        Checked.issues_error]
      cases hrest : firstOutput rest value path with
      | ok output =>
        -- some later alternative accepts, so not all of them fail
        have hnot : ¬ ∀ alternative ∈ rest, ∃ found, alternative.present value path = .error found := by
          intro hall
          rw [ih.2 ⟨hall, rfl⟩] at hrest
          cases hrest
        simp [hnot]
      | error others =>
        obtain ⟨hall, rfl⟩ := ih.1 hrest
        simp only [Except.error.injEq, exists_eq', true_and]
        exact ⟨fun h => ⟨hall, h.symm⟩, fun h => h.2.symm⟩

/-- A union is refused where no alternative accepts, with one issue about what all of
them report. -/
theorem check_eq_error_iff {found : Issues} :
    check alternatives value path = .error found ↔
      (∀ alternative ∈ alternatives, ∃ found, alternative.present value path = .error found) ∧
        found = .single (failure alternatives.length path value
          (alternatives.flatMap fun alternative =>
            Checked.issues (alternative.present value path))) := by
  have hcheck : check alternatives value path = .error found ↔
      ∃ sub, firstOutput alternatives value path = .error sub ∧
        found = .single (failure alternatives.length path value sub) := by
    unfold check
    cases firstOutput alternatives value path <;> simp [conclude]
  rw [hcheck]
  constructor
  · rintro ⟨sub, hsub, rfl⟩
    obtain ⟨hall, rfl⟩ := firstOutput_eq_error_iff.1 hsub
    exact ⟨hall, rfl⟩
  · rintro ⟨hall, rfl⟩
    exact ⟨_, firstOutput_eq_error_iff.2 ⟨hall, rfl⟩, rfl⟩

/-- What the issue of a union relays is what it was given. -/
@[simp] theorem sub_failure (count : Nat) (sub : List Issue) :
    (failure count path value sub).sub = sub := by
  cases sub <;> rfl

/-- Where no alternative accepts, each has something to relay. -/
theorem relayed_ne_nil (hne : alternatives ≠ [])
    (h : ∀ alternative ∈ alternatives, ∃ found, alternative.present value path = .error found) :
    (alternatives.flatMap fun alternative => Checked.issues (alternative.present value path)) ≠ [] := by
  obtain ⟨first, rest, rfl⟩ := List.exists_cons_of_ne_nil hne
  obtain ⟨found, hfound⟩ := h first List.mem_cons_self
  rw [List.flatMap_cons, hfound]
  exact List.append_ne_nil_of_left_ne_nil found.toList_ne_nil _

end Union

end Conform
