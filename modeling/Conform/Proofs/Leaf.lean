import Conform.Proofs.Composite
import Conform.Family
/-!
# Leaf — the rules that have no children report one finding

Each of the five rules without children reads its input, changes it, and
checks it, and stops at the first thing that is wrong. So a failure is one
issue, at the path of the input, and it relays no others:
`FailsDirectly`. The findings of composites about themselves, on their
type or their length, are of the same form.
-/


namespace Conform

/-- A finding about the value at a path itself. -/
structure Issue.DirectAt (path : Path) (issue : Issue) : Prop where
  path_eq : issue.path = path
  sub_eq : issue.sub = []
  kind_eq : issue.kind = .type ∨ issue.kind = .refinement

namespace Issue

variable {path : Path} {issue : Issue}

theorem directAt_typeMismatch (path : Path) (expected : String) (value : Value) :
    DirectAt path (typeMismatch path expected value) := ⟨rfl, rfl, .inl rfl⟩

theorem directAt_refinement (path : Path) (code message : String) (value : Value) :
    DirectAt path (refinement path code message value) := ⟨rfl, rfl, .inr rfl⟩

theorem DirectAt.reworded (h : DirectAt path issue) (message : Option String) :
    DirectAt path (issue.reworded message) := ⟨h.path_eq, h.sub_eq, h.kind_eq⟩

theorem DirectAt.expecting (h : DirectAt path issue) (expected : String) :
    DirectAt path (issue.expecting expected) := ⟨h.path_eq, h.sub_eq, h.kind_eq⟩

end Issue

/-- A step whose failures are one finding about the input itself. -/
def FailsDirectly {α : Type} (step : Value → Path → Checked α) : Prop :=
  ∀ ⦃value path found⦄, step value path = .error found →
    ∃ issue, issue.DirectAt path ∧ found = .single issue

/-! ## Constraints in the order of their ranks -/

namespace Ranked

variable {κ α : Type} {r : Ranked κ} {check : κ → Option String → Option Issue}

theorem verify_eq_ok_iff {output a : α} :
    r.verify output check = .ok a ↔
      (∀ entry ∈ r.entries, check entry.1 entry.2 = none) ∧ output = a := by
  unfold verify
  cases h : r.firstIssue check with
  | some issue =>
    obtain ⟨⟨c, message⟩, hentry, hcheck⟩ := List.exists_of_findSome?_eq_some h
    simp only [Checked.fail_ne_ok, false_iff, not_and]
    intro hnone
    exact absurd ((hnone _ hentry).symm.trans hcheck) (by simp)
  | none =>
    have hnone : ∀ entry ∈ r.entries, check entry.1 entry.2 = none := List.findSome?_eq_none_iff.1 h
    simp only [Except.ok.injEq]
    exact ⟨fun h => ⟨hnone, h⟩, fun h => h.2⟩

/-- Only a stated constraint can fail, and one failing constraint is reported. -/
theorem exists_of_verify_eq_error {output : α} {found : Issues}
    (h : r.verify output check = .error found) :
    ∃ entry ∈ r.entries, ∃ issue, check entry.1 entry.2 = some issue ∧ found = .single issue := by
  unfold verify at h
  cases hfirst : r.firstIssue check with
  | some issue =>
    obtain ⟨entry, hentry, hcheck⟩ := List.exists_of_findSome?_eq_some hfirst
    rw [hfirst] at h
    exact ⟨entry, hentry, issue, hcheck, Checked.fail_eq_error_iff.1 h⟩
  | none =>
    rw [hfirst] at h
    cases h

end Ranked

/-! ## The five rules -/

theorem TextConstraint.issue?_eq_none_iff {c : TextConstraint} {message : Option String}
    {s : String} {path : Path} : c.issue? message s path = none ↔ c.holds s = true := by
  simp [issue?]

theorem NumberConstraint.issue?_eq_none_iff {c : NumberConstraint} {message : Option String}
    {n : Binary64} {path : Path} : c.issue? message n path = none ↔ c.holds n = true := by
  unfold issue?
  split
  · simp_all
  · split <;> simp_all

theorem TextRule.failsDirectly (r : TextRule) (strict : Bool) : FailsDirectly (r.check strict) := by
  intro value path found h
  unfold check at h
  cases hread : r.read strict value path with
  | error issues =>
    rw [hread] at h
    obtain rfl : issues = found := Except.error.inj h
    unfold read at hread
    split at hread
    case h_4 =>
      exact ⟨_, (Issue.directAt_typeMismatch ..).reworded _, Checked.fail_eq_error_iff.1 hread⟩
    all_goals cases hread
  | ok s =>
    rw [hread] at h
    obtain ⟨entry, -, issue, hissue, rfl⟩ := Ranked.exists_of_verify_eq_error h
    refine ⟨issue, ?_, rfl⟩
    unfold TextConstraint.issue? at hissue
    split at hissue
    · cases hissue
    · obtain rfl := Option.some.inj hissue
      exact (Issue.directAt_refinement ..).expecting _

/-- A number is reported as not of the type, or as refused by a constraint. -/
theorem NumberConstraint.directAt_of_issue? {c : NumberConstraint} {message : Option String}
    {n : Binary64} {path : Path} {issue : Issue} (h : c.issue? message n path = some issue) :
    issue.DirectAt path := by
  unfold issue? at h
  split at h
  · cases h
  · split at h
    · obtain rfl := Option.some.inj h
      exact (Issue.directAt_typeMismatch ..).reworded _
    · obtain rfl := Option.some.inj h
      exact (Issue.directAt_refinement ..).expecting _

theorem NumberRule.read_eq_error {r : NumberRule} {strict : Bool} {value : Value} {path : Path}
    {found : Issues} (h : r.read strict value path = .error found) :
    read.mismatch r value path = .error found := by
  unfold read at h
  dsimp only at h
  split at h
  · split at h
    · exact h
    · cases h
  · exact h

theorem NumberRule.failsDirectly (r : NumberRule) (strict : Bool) :
    FailsDirectly (r.check strict) := by
  intro value path found h
  unfold check at h
  cases hread : r.read strict value path with
  | error issues =>
    rw [hread] at h
    obtain rfl : issues = found := Except.error.inj h
    exact ⟨_, (Issue.directAt_typeMismatch ..).reworded _,
      Checked.fail_eq_error_iff.1 (read_eq_error hread)⟩
  | ok n =>
    rw [hread] at h
    obtain ⟨entry, -, issue, hissue, rfl⟩ := Ranked.exists_of_verify_eq_error h
    exact ⟨issue, NumberConstraint.directAt_of_issue? hissue, rfl⟩

theorem BooleanRule.failsDirectly (r : BooleanRule) (strict : Bool) :
    FailsDirectly (r.check strict) := by
  intro value path found h
  unfold check at h
  split at h
  · exact ⟨_, Issue.directAt_typeMismatch .., Checked.fail_eq_error_iff.1 h⟩
  · split at h
    · split at h
      · cases h
      · refine ⟨_, ?_, Checked.fail_eq_error_iff.1 h⟩
        unfold refusal
        split <;> exact Issue.directAt_refinement ..
    · cases h

theorem EnumerationRule.failsDirectly (r : EnumerationRule) (strict : Bool) :
    FailsDirectly (r.check strict) := by
  intro value path found h
  unfold check at h
  split at h
  · cases h
  · exact ⟨_, (Issue.directAt_refinement ..).expecting _, Checked.fail_eq_error_iff.1 h⟩

theorem DateRule.failsDirectly (r : DateRule) (today : Int) (strict : Bool) :
    FailsDirectly (r.check today strict) := by
  intro value path found h
  unfold check at h
  split at h
  · exact ⟨_, Issue.directAt_typeMismatch .., Checked.fail_eq_error_iff.1 h⟩
  · split at h
    · exact ⟨_, Issue.directAt_refinement .., Checked.fail_eq_error_iff.1 h⟩
    · rename_i t _
      cases hfirst : r.firstIssue today t path with
      | none =>
        rw [hfirst] at h
        cases h
      | some issue =>
        rw [hfirst] at h
        refine ⟨issue, ?_, Checked.fail_eq_error_iff.1 h⟩
        obtain ⟨c, -, hissue⟩ := List.exists_of_findSome?_eq_some hfirst
        unfold DateConstraint.issue? at hissue
        split at hissue
        · cases hissue
        · obtain rfl := Option.some.inj hissue
          exact (Issue.directAt_refinement ..).expecting _

/-! ## What composites report about themselves -/

theorem ObjectShape.failsDirectly_mismatch {σ : Type} (s : ObjectShape σ) :
    FailsDirectly s.mismatch := by
  intro value path found h
  exact ⟨_, (Issue.directAt_typeMismatch ..).reworded _, Checked.fail_eq_error_iff.1 h⟩

theorem ObjectShape.directAt_unknownIssues {σ : Type} {s : ObjectShape σ} {unknown : Members}
    {path : Path} {issue : Issue} (h : issue ∈ s.unknownIssues unknown path) :
    issue.DirectAt path := by
  rw [mem_unknownIssues h]
  exact Issue.directAt_refinement ..

theorem ArrayRule.failsDirectly_mismatch (r : ArrayRule) : FailsDirectly r.mismatch := by
  intro value path found h
  exact ⟨_, (Issue.directAt_typeMismatch ..).reworded _, Checked.fail_eq_error_iff.1 h⟩

theorem ArrayRule.directAt_lengthIssues {r : ArrayRule} {length : Nat} {value : Value}
    {path : Path} {issue : Issue} (h : issue ∈ r.lengthIssues length value path) :
    issue.DirectAt path := by
  obtain ⟨⟨c, message⟩, -, hissue⟩ := List.mem_flatMap.1 h
  cases c <;> simp only [ArrayConstraint.lengthIssues] at hissue
  case unique => cases hissue
  case uniqueBy => cases hissue
  all_goals
    split at hissue
    · cases hissue
    · rw [List.mem_singleton.1 hissue]
      exact (Issue.directAt_refinement ..).expecting _

theorem ArrayRule.directAt_uniquenessIssues {r : ArrayRule} {outputs : List Value}
    {value : Value} {path : Path} {issue : Issue}
    (h : issue ∈ r.uniquenessIssues outputs value path) : issue.DirectAt path := by
  obtain ⟨⟨c, message⟩, -, hissue⟩ := List.mem_flatMap.1 h
  dsimp only [ArrayConstraint.uniquenessIssues] at hissue
  split at hissue
  · obtain ⟨indices, -, rfl⟩ := List.mem_map.1 hissue
    exact Issue.directAt_refinement ..
  · cases hissue

theorem Tuple.directAt_lengthIssue (arity : Nat) (items : List Value) (path : Path) :
    (lengthIssue arity items path).DirectAt path :=
  (Issue.directAt_refinement ..).expecting _

theorem Family.directAt_depthIssue (path : Path) (limit : Nat) (value : Value) :
    (depthIssue path limit value).DirectAt path := Issue.directAt_refinement ..

end Conform
