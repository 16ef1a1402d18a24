import Conform.Proofs.Issue.Relabel
import Conform.Proofs.Leaf
import Conform.Proofs.Node
/-!
# Correspondence — two runs side by side

Two runs of one validator on inputs that have something in common should
have results that have something in common. A `Correspondence` says what
this is: which inputs and which paths correspond, and which changes to the
issues on either side make those of the two runs the same. Its laws are
about single issues and about the outer form of single values.

From the laws, each rule is shown to keep a correspondence once: what is
proved of the parts of a composite carries over to the whole. The main
result, `Family.respects`, goes through lazy nodes as well.
-/


namespace Conform

namespace Value

/-- Neither an array nor an object. -/
def isScalar : Value → Bool
  | array _ => false
  | object _ => false
  | _ => true

/-- Two values of the same outer form, with related parts: equal scalars, arrays
related item by item, and objects with the same keys related key by key. -/
inductive SameForm (r : Value → Value → Prop) : Value → Value → Prop
  | scalar {a : Value} : a.isScalar = true → SameForm r a a
  | array {items items' : List Value} : items.length = items'.length →
      (∀ (i : Nat) (h : i < items.length) (h' : i < items'.length), r items[i] items'[i]) →
      SameForm r (.array items) (.array items')
  | object {members members' : Members} : members.keys.Perm members'.keys →
      (∀ key, Option.Rel r (members.get? key) (members'.get? key)) →
      SameForm r (.object members) (.object members')

theorem SameForm.typeName_eq {r : Value → Value → Prop} {a a' : Value} (h : SameForm r a a') :
    a.typeName = a'.typeName := by
  cases h <;> rfl

end Value

/-- What two runs have in common. -/
structure Correspondence where
  /-- The inputs correspond. -/
  value : Value → Value → Prop
  /-- The paths correspond. -/
  path : Path → Path → Prop
  /-- What is made of the issues of the one run. -/
  left : Issue → Issue
  /-- What is made of the issues of the other. -/
  right : Issue → Issue
  sameForm : ∀ {a a'}, value a a' → Value.SameForm value a a'
  scalar : ∀ {a}, a.isScalar = true → value a a
  push : ∀ {p p'} (s : Segment), path p p' → path (p.push s) (p'.push s)
  /-- Issues with the same texts become the same. -/
  issue : ∀ {p p' v v' sub sub'} (kind : IssueKind) (code message : String)
    (expected : Option String), path p p' → Option.Rel value v v' →
    sub.map left = sub'.map right →
    left ⟨p, kind, code, message, v, expected, sub⟩ = right ⟨p', kind, code, message, v', expected, sub'⟩
  /-- So do the issues that list the keys of objects. -/
  unknownKeys : ∀ {p p'} {ms ms' : Members} (keep : String → Bool), path p p' →
    value (.object ms) (.object ms') →
    left (ObjectShape.unknownKeysIssue p (ms.keys.filter keep)) =
      right (ObjectShape.unknownKeysIssue p' (ms'.keys.filter keep))
  /-- So do the issues that quote an input and list options. -/
  enumeration : ∀ {p p' a a'} (r : EnumerationRule) (strict : Bool), path p p' → value a a' →
    (r.check strict a p).mapIssues left = (r.check strict a' p').mapIssues right

namespace Correspondence

variable {C : Correspondence} {α β : Type} {a a' : Value} {p p' : Path}

/-! ## Results that agree -/

/-- The results are the same after the changes to their issues. -/
def Agree (C : Correspondence) (result result' : Checked α) : Prop :=
  result.mapIssues C.left = result'.mapIssues C.right

theorem agree_ok (output : α) : C.Agree (.ok output) (.ok output) := rfl

theorem agree_fail {issue issue' : Issue} (h : C.left issue = C.right issue') :
    C.Agree (Checked.fail issue : Checked α) (Checked.fail issue') := by
  rw [Agree, Checked.mapIssues_fail, Checked.mapIssues_fail, h]

/-- Both results have the same output, or both have issues that become the same. -/
theorem agree_iff {result result' : Checked α} : C.Agree result result' ↔
    (∃ output, result = .ok output ∧ result' = .ok output) ∨
      ∃ found found', result = .error found ∧ result' = .error found' ∧
        found.map C.left = found'.map C.right := by
  unfold Agree
  cases result with
  | ok output => cases result' <;> simp [eq_comm]
  | error found => cases result' <;> simp

theorem Agree.map {result result' : Checked α} (h : C.Agree result result') (f : α → β) :
    C.Agree (result.map f) (result'.map f) := by
  rw [Agree, Checked.mapIssues_map, Checked.mapIssues_map, h]

theorem Agree.bind {result result' : Checked α} {f f' : α → Checked β}
    (h : C.Agree result result') (hf : ∀ output, C.Agree (f output) (f' output)) :
    C.Agree (result >>= f) (result' >>= f') := by
  rcases agree_iff.1 h with ⟨output, rfl, rfl⟩ | ⟨found, found', rfl, rfl, hfound⟩
  · exact hf output
  · exact agree_iff.2 (.inr ⟨found, found', rfl, rfl, hfound⟩)

theorem Agree.issues_map_eq {result result' : Checked α} (h : C.Agree result result') :
    result.issues.map C.left = result'.issues.map C.right := by
  rw [← Checked.issues_mapIssues, h, Checked.issues_mapIssues]

theorem agree_settle {output : α} {list list' : List Issue}
    (h : list.map C.left = list'.map C.right) :
    C.Agree (Checked.settle output list) (Checked.settle output list') := by
  rw [Agree, Checked.mapIssues_settle, Checked.mapIssues_settle, h]

theorem agree_collect {results results' : List (Checked α)}
    (h : results.map (Checked.mapIssues C.left) = results'.map (Checked.mapIssues C.right)) :
    C.Agree (Checked.collect results) (Checked.collect results') := by
  rw [Agree, Checked.mapIssues_collect, Checked.mapIssues_collect, h]

theorem Agree.wrap {result result' : Checked α} (h : C.Agree result result')
    {issue issue' : Issues → Issue}
    (hissue : ∀ sub sub', sub.map C.left = sub'.map C.right →
      C.left (issue sub) = C.right (issue' sub')) :
    C.Agree (result.wrap issue) (result'.wrap issue') := by
  rcases agree_iff.1 h with ⟨output, rfl, rfl⟩ | ⟨found, found', rfl, rfl, hfound⟩
  · exact agree_ok output
  · exact agree_fail (hissue found found' hfound)

/-! ## Issues that become the same -/

theorem left_required (hp : C.path p p') : C.left (.required p) = C.right (.required p') :=
  C.issue _ _ _ _ hp .none rfl

theorem left_refinement (ha : C.value a a') (hp : C.path p p') (code message : String)
    (expected : Option String) :
    C.left { Issue.refinement p code message a with expected := expected } =
      C.right { Issue.refinement p' code message a' with expected := expected } :=
  C.issue _ _ _ _ hp (.some ha) rfl

/-- The type of the input is the same, so the message is. -/
theorem left_typeMismatch (ha : C.value a a') (hp : C.path p p') (expected : String)
    (message : Option String) :
    C.left ((Issue.typeMismatch p expected a).reworded message) =
      C.right ((Issue.typeMismatch p' expected a').reworded message) := by
  have hname := (C.sameForm ha).typeName_eq
  simp only [Issue.reworded, Issue.typeMismatch, Issue.new, hname]
  exact C.issue _ _ _ _ hp (.some ha) rfl

/-- As many issues are relayed, so the message that counts them is the same. -/
theorem left_aggregate (ha : C.value a a') (hp : C.path p p') {sub sub' : Issues}
    (hsub : sub.map C.left = sub'.map C.right) (message : Nat → String) :
    C.left (.aggregate p (message sub.length) a sub) =
      C.right (.aggregate p' (message sub'.length) a' sub') := by
  have hlist : sub.toList.map C.left = sub'.toList.map C.right := congrArg Issues.toList hsub
  have hlength : sub.length = sub'.length := by
    simpa [Issues.length] using congrArg List.length hlist
  rw [hlength]
  exact C.issue _ _ _ _ hp (.some ha) hlist

/-! ## Steps and modifiers -/

/-- On inputs and at paths that correspond, the results of a step agree. -/
def RespectsStep (C : Correspondence) (step : Value → Path → Checked α) : Prop :=
  ∀ ⦃a a' p p'⦄, C.value a a' → C.path p p' → C.Agree (step a p) (step a' p')

/-- What becomes of inputs that correspond agrees. -/
structure Respects (C : Correspondence) (v : Validator) : Prop where
  absent : ∀ ⦃p p'⦄, C.path p p' → C.Agree (v.absent p) (v.absent p')
  present : C.RespectsStep v.present

theorem Respects.parse {v : Validator} (hv : C.Respects v) {input input' : Option Value}
    (hinput : Option.Rel C.value input input') (hp : C.path p p') :
    C.Agree (v.parse input p) (v.parse input' p') := by
  cases hinput with
  | none => exact hv.absent hp
  | some ha => exact (hv.present ha hp).map some

/-- Preparation keeps inputs in correspondence, and the custom check agrees with
itself. -/
structure Preserves (C : Correspondence) (m : Modifiers α) : Prop where
  prepare : ∀ f, m.prepare = some f → ∀ ⦃a a'⦄, C.value a a' → C.value (f a) (f a')
  custom : ∀ check, m.custom = some check → ∀ output ⦃p p'⦄, C.path p p' →
    C.Agree (check output p) (check output p')

variable {m : Modifiers α}

theorem Preserves.prepared (hm : C.Preserves m) (ha : C.value a a') :
    C.value (m.prepared a) (m.prepared a') := by
  unfold Modifiers.prepared
  cases hprepare : m.prepare with
  | none => exact ha
  | some f => exact hm.prepare f hprepare ha

theorem Preserves.checked (hm : C.Preserves m) (output : α) (hp : C.path p p') :
    C.Agree (m.checked output p) (m.checked output p') := by
  unfold Modifiers.checked
  cases hcustom : m.custom with
  | none => exact agree_ok output
  | some check => exact hm.custom check hcustom output hp

theorem Preserves.present (hm : C.Preserves m) {step : Value → Path → Checked α}
    (hstep : C.RespectsStep step) : C.RespectsStep (m.present step) := by
  intro a a' p p' ha hp
  refine (hstep (hm.prepared ha) hp).bind fun output => ?_
  exact (hm.checked output hp).bind fun output => agree_ok _

theorem Preserves.absent (m : Modifiers α) (hp : C.path p p') :
    C.Agree (m.absent p) (m.absent p') := by
  unfold Modifiers.absent
  cases m.fallback with
  | some output => exact agree_ok _
  | none =>
    cases m.optional with
    | true => exact agree_ok _
    | false => exact agree_fail (left_required hp)

theorem Preserves.validator (hm : C.Preserves m) {step : Value → Path → Checked α}
    (hstep : C.RespectsStep step) (toValue : α → Value) : C.Respects (m.validator step toValue) where
  absent _ _ hp := (absent m hp).map _
  present _ _ _ _ ha hp := (hm.present hstep ha hp).map toValue

/-! ## Leaves

A rule without children sees of an array or an object only that it is one.
Of a scalar the two runs see the same. -/

/-- A step that refuses arrays and objects by their type. -/
theorem respectsStep_of_scalar {step : Value → Path → Checked α} (expected : String)
    (message : Option String)
    (harray : ∀ items p, step (.array items) p =
      Checked.fail ((Issue.typeMismatch p expected (.array items)).reworded message))
    (hobject : ∀ members p, step (.object members) p =
      Checked.fail ((Issue.typeMismatch p expected (.object members)).reworded message))
    (hscalar : ∀ ⦃a p p'⦄, a.isScalar = true → C.path p p' → C.Agree (step a p) (step a p')) :
    C.RespectsStep step := by
  intro a a' p p' ha hp
  cases C.sameForm ha with
  | scalar h => exact hscalar h hp
  | array =>
    rw [harray, harray]
    exact agree_fail (left_typeMismatch ha hp expected message)
  | object =>
    rw [hobject, hobject]
    exact agree_fail (left_typeMismatch ha hp expected message)

theorem map_findSome?_eq {κ : Type} {check check' : κ → Option Issue}
    (h : ∀ c, (check c).map C.left = (check' c).map C.right) (constraints : List κ) :
    (constraints.findSome? check).map C.left = (constraints.findSome? check').map C.right := by
  rw [List.map_findSome?, List.map_findSome?]
  exact congrArg (List.findSome? · constraints) (funext h)

/-- An output unless there is an issue. -/
theorem agree_unless (output : α) {issue? issue?' : Option Issue} :
    issue?.map C.left = issue?'.map C.right →
    C.Agree (match issue? with | some issue => Checked.fail issue | none => .ok output)
      (match issue?' with | some issue => Checked.fail issue | none => .ok output) := by
  intro h
  cases issue? <;> cases issue?' <;>
    simp only [Option.map_none, Option.map_some, reduceCtorEq, Option.some.injEq] at h
  · exact agree_ok output
  · exact agree_fail h

theorem agree_verify {κ : Type} {r : Ranked κ} {output : α}
    {check check' : κ → Option String → Option Issue}
    (h : ∀ c message, (check c message).map C.left = (check' c message).map C.right) :
    C.Agree (r.verify output check) (r.verify output check') := by
  refine agree_unless output (map_findSome?_eq (fun entry => ?_) r.entries)
  exact h entry.1 entry.2

end Correspondence

end Conform
