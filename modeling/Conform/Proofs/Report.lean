import Conform.Proofs.Leaf
import Conform.Proofs.Node
/-!
# Report — what holds of everything that is reported

An issue comes about in few ways: a rule finds something about its input, an
object lacks the key of a field, or a composite relays what its parts
report. `Issue.Inherited` lists these ways as conditions on a property of
reports. A property that meets them holds of whatever a schema reports, at
any depth of lazy nodes (`Family.failsWith`), so a fact about all issues of
all failures is proved by five cases about single ones.

Modifiers stand between a rule and its caller. `Modifiers.Keeps` says what
is asked of them.
-/


namespace Conform

namespace Issue

/-! ## Issues that relay others -/

/-- The finding of an object, an array or a tuple says how many it relays. -/
def CountsParts (issue : Issue) : Prop :=
  issue.code = "aggregate" ∧ ∃ what ∈ ["Object", "Array", "Tuple"],
    issue.message = s!"{what} validation failed with {issue.sub.length} issue(s)"

/-- The finding of a union says that no alternative accepts. -/
def RefusesAll (issue : Issue) : Prop :=
  issue.code = "invalid_union" ∧ ∃ count : Nat,
    issue.message = s!"Expected input to match one of the {count} validators, but it matched none"

/-- A finding about the value at a path that relays those of its parts or of its
alternatives. -/
structure RelaysAt (value : Value) (path : Path) (issue : Issue) : Prop where
  path_eq : issue.path = path
  kind_eq : issue.kind = .aggregate
  value_eq : issue.value = some value
  sub_ne_nil : issue.sub ≠ []
  wording : issue.CountsParts ∨ issue.RefusesAll

theorem countsParts_object (path : Path) (value : Value) (sub : Issues) :
    (ObjectShape.failure path value sub).CountsParts :=
  ⟨rfl, "Object", by simp, rfl⟩

theorem countsParts_array (path : Path) (value : Value) (sub : Issues) :
    (ArrayRule.failure path value sub).CountsParts :=
  ⟨rfl, "Array", by simp, rfl⟩

theorem countsParts_tuple (path : Path) (value : Value) (sub : Issues) :
    (Tuple.failure path value sub).CountsParts :=
  ⟨rfl, "Tuple", by simp, rfl⟩

theorem relaysAt_object (path : Path) (value : Value) (sub : Issues) :
    (ObjectShape.failure path value sub).RelaysAt value path :=
  ⟨rfl, rfl, rfl, sub.toList_ne_nil, .inl (countsParts_object path value sub)⟩

theorem relaysAt_array (path : Path) (value : Value) (sub : Issues) :
    (ArrayRule.failure path value sub).RelaysAt value path :=
  ⟨rfl, rfl, rfl, sub.toList_ne_nil, .inl (countsParts_array path value sub)⟩

theorem relaysAt_tuple (path : Path) (value : Value) (sub : Issues) :
    (Tuple.failure path value sub).RelaysAt value path :=
  ⟨rfl, rfl, rfl, sub.toList_ne_nil, .inl (countsParts_tuple path value sub)⟩

theorem relaysAt_union (count : Nat) (path : Path) (value : Value) {sub : List Issue}
    (h : sub ≠ []) : (Union.failure count path value sub).RelaysAt value path := by
  cases sub with
  | nil => exact absurd rfl h
  | cons first rest => exact ⟨rfl, rfl, rfl, List.cons_ne_nil first rest, .inr ⟨rfl, count, rfl⟩⟩

/-! ## Properties that composites hand on -/

/-- A property of what is reported about the value at a path, handed on by
composites from their parts. -/
structure Inherited (q : Value → Path → Issue → Prop) : Prop where
  /-- Findings about the value itself have it. -/
  direct : ∀ {value path issue}, issue.DirectAt path → q value path issue
  /-- That an object lacks a key has it. -/
  missing : ∀ {members name path}, Members.get? members name = none →
    q (.object members) path (.required (path.field name))
  /-- What is reported about a member is reported about the object. -/
  field : ∀ {members name part path issue}, Members.get? members name = some part →
    q part (path.field name) issue → q (.object members) path issue
  /-- What is reported about an element is reported about the array. -/
  index : ∀ {items : List Value} {i : Nat} {path issue} (h : i < items.length),
    q items[i] (path.index i) issue → q (.array items) path issue
  /-- A finding that relays others has it with them. -/
  relays : ∀ {value path issue}, issue.RelaysAt value path →
    (∀ part ∈ issue.sub, q value path part) → q value path issue

end Issue

/-- What a step reports has a property. -/
def FailsWith {α : Type} (q : Value → Path → Issue → Prop) (step : Value → Path → Checked α) :
    Prop :=
  ∀ ⦃value path found⦄, step value path = .error found → ∀ root ∈ found.toList, q value path root

/-- The custom check, if there is one, reports findings about the value at the path
that it is given. -/
def Modifiers.ReportsDirectly {α : Type} (m : Modifiers α) : Prop :=
  ∀ check, m.custom = some check → ∀ output path found, check output path = .error found →
    ∀ issue ∈ found.toList, issue.DirectAt path

/-- What is reported about prepared input may be reported about the input, and the
custom check reports directly. -/
structure Modifiers.Keeps {α : Type} (q : Value → Path → Issue → Prop) (m : Modifiers α) :
    Prop where
  prepare : ∀ {value path issue}, q (m.prepared value) path issue → q value path issue
  custom : m.ReportsDirectly

/-- The modifiers of the node keep a property of reports. -/
def Schema.Keeps (q : Value → Path → Issue → Prop) (s : Schema) : Prop :=
  s.HasModifiers fun m => m.Keeps q

variable {q : Value → Path → Issue → Prop}

/-! ## Steps, modifiers and composites -/

/-- A failure with one finding about the input. -/
theorem Issue.Inherited.of_fail (hq : Issue.Inherited q) {α : Type} {value : Value} {path : Path}
    {issue root : Issue} {found : Issues} (h : issue.DirectAt path)
    (hfound : (Checked.fail issue : Checked α) = .error found) (hroot : root ∈ found.toList) :
    q value path root := by
  obtain rfl := Checked.fail_eq_error_iff.1 hfound
  obtain rfl := List.mem_singleton.1 hroot
  exact hq.direct h

theorem FailsDirectly.failsWith (hq : Issue.Inherited q) {α : Type}
    {step : Value → Path → Checked α} (h : FailsDirectly step) : FailsWith q step := by
  intro value path found hfound root hroot
  obtain ⟨issue, hissue, rfl⟩ := h hfound
  obtain rfl := List.mem_singleton.1 hroot
  exact hq.direct hissue

theorem Modifiers.Keeps.failsWith (hq : Issue.Inherited q) {α : Type} {m : Modifiers α}
    (hm : m.Keeps q) {step : Value → Path → Checked α} (hstep : FailsWith q step)
    (toValue : α → Value) : FailsWith q (m.validator step toValue).present := by
  intro value path found hfound root hroot
  rw [validator_present, Checked.map_eq_error_iff, Modifiers.present, conclude_eq_error_iff] at hfound
  rcases hfound with hfound | ⟨output, -, hchecked⟩
  · -- the step failed, and it saw the prepared input
    exact hm.prepare (hstep hfound root hroot)
  · unfold checked at hchecked
    cases hcustom : m.custom with
    | none =>
      rw [hcustom] at hchecked
      cases hchecked
    | some check =>
      rw [hcustom] at hchecked
      exact hq.direct (hm.custom check hcustom output path found hchecked root hroot)

theorem ObjectShape.failsWith_check (hq : Issue.Inherited q) {s : ObjectShape Validator}
    (h : ∀ name child, (name, child) ∈ s.fields → FailsWith q child.present ∧
      ∀ path found, child.absent path = .error found → found = .single (.required path)) :
    FailsWith q s.check := by
  intro value path found hfound
  cases value with
  | object members =>
    obtain ⟨sub, hsub, rfl⟩ := conclude_eq_error_iff.1 hfound
    intro root hroot
    obtain rfl := List.mem_singleton.1 hroot
    refine hq.relays (Issue.relaysAt_object ..) fun part hpart => ?_
    replace hpart : part ∈ sub.toList := hpart
    rw [hsub, List.mem_append] at hpart
    rcases hpart with hpart | hpart
    · obtain ⟨name, child, partFound, hfield, hparse, hmem⟩ := mem_fieldIssues.1 hpart
      cases hmember : Members.get? members name with
      | some member =>
        rw [hmember, Validator.parse_some, Checked.map_eq_error_iff] at hparse
        exact hq.field hmember ((h name child hfield).1 hparse part hmem)
      | none =>
        -- the field can only say that it is missing, and the object lacks its key
        rw [hmember, Validator.parse_none] at hparse
        obtain rfl := (h name child hfield).2 _ _ hparse
        obtain rfl := List.mem_singleton.1 hmem
        exact hq.missing hmember
    · exact hq.direct (directAt_unknownIssues hpart)
  | _ => exact s.failsDirectly_mismatch.failsWith hq hfound

theorem ArrayRule.failsWith_check (hq : Issue.Inherited q) (r : ArrayRule) {item : Validator}
    (hitem : FailsWith q item.present) : FailsWith q (r.check item) := by
  intro value path found hfound
  cases value with
  | array items =>
    intro root hroot
    have hissues : root ∈ (r.conclude items path (item.onItems items path)).issues := by
      rw [show r.conclude items path (item.onItems items path) = .error found from hfound]
      exact hroot
    rw [issues_conclude, List.mem_append] at hissues
    rcases hissues with hlength | hissues
    · exact hq.direct (directAt_lengthIssues hlength)
    · cases hcollect : Checked.collect (item.onItems items path) with
      | ok outputs =>
        rw [hcollect] at hissues
        exact hq.direct (directAt_uniquenessIssues hissues)
      | error sub =>
        rw [hcollect] at hissues
        obtain rfl := List.mem_singleton.1 hissues
        refine hq.relays (Issue.relaysAt_array ..) fun part hpart => ?_
        replace hpart : part ∈ sub.toList := hpart
        rw [Checked.collect_eq_error_iff.1 hcollect, Validator.mem_issues_onItems] at hpart
        obtain ⟨i, hi, partFound, hpresent, hmem⟩ := hpart
        exact hq.index hi (hitem hpresent part hmem)
  | _ => exact r.failsDirectly_mismatch.failsWith hq hfound

theorem Tuple.failsWith_check (hq : Issue.Inherited q) (kind : TupleKind)
    {children : List Validator} (hchildren : ∀ child ∈ children, FailsWith q child.present) :
    FailsWith q (check kind children) := by
  intro value path found hfound root hroot
  cases value with
  | array items =>
    by_cases hlength : items.length = children.length
    · rw [check_of_length_eq kind hlength] at hfound
      obtain ⟨sub, hsub, rfl⟩ := conclude_eq_error_iff.1 hfound
      obtain rfl := List.mem_singleton.1 hroot
      refine hq.relays (Issue.relaysAt_tuple ..) fun part hpart => ?_
      replace hpart : part ∈ sub.toList := hpart
      rw [hsub, mem_issues_positions hlength] at hpart
      obtain ⟨i, hchild, hi, partFound, hpresent, hmem⟩ := hpart
      exact hq.index hi (hchildren _ (List.getElem_mem hchild) hpresent part hmem)
    · rw [check_of_length_ne kind hlength] at hfound
      exact hq.of_fail (directAt_lengthIssue ..) hfound hroot
  | _ => exact hq.of_fail (Issue.directAt_typeMismatch ..) hfound hroot

/-- The alternatives of a union are about the same input as the union. Without
alternatives it reports about the input itself. -/
theorem Union.failsWith_check (hq : Issue.Inherited q) {alternatives : List Validator}
    (h : ∀ alternative ∈ alternatives, FailsWith q alternative.present) :
    FailsWith q (check alternatives) := by
  intro value path found hfound root hroot
  obtain ⟨-, rfl⟩ := check_eq_error_iff.1 hfound
  obtain rfl : root = failure .. := List.mem_singleton.1 hroot
  by_cases hsub : (alternatives.flatMap fun v => Checked.issues (v.present value path)) = []
  · rw [hsub]
    exact hq.direct (Issue.directAt_refinement ..)
  · refine hq.relays (Issue.relaysAt_union _ _ _ hsub) fun part hpart => ?_
    rw [sub_failure, List.mem_flatMap] at hpart
    obtain ⟨alternative, halternative, hissues⟩ := hpart
    obtain ⟨partFound, hpresent, hmem⟩ := Checked.mem_issues_iff.1 hissues
    exact h alternative halternative hpresent part hmem

/-! ## Schemas -/

namespace Family

variable {family : Family} {today : Int} {s : Schema}

/-- Absent input fails only as missing. -/
theorem absent_eq_error {env : Env} {path : Path} {found : Issues}
    (h : (s.validator env).absent path = .error found) : found = .single (.required path) := by
  have hissues := s.issues_absent env path
  rw [h, Checked.issues_error, Schema.missing] at hissues
  split at hissues
  · exact absurd hissues found.toList_ne_nil
  · exact Issues.toList_injective hissues

/-- **Reports inherit.** A property that composites hand on and modifiers keep
holds of everything reported about present input, inside any number of lazy
nodes. -/
theorem failsWith (hq : Issue.Inherited q) (hfamily : ∀ target, (family target).Every (Schema.Keeps q))
    (scope : Scope) (hs : s.Every (Schema.Keeps q)) :
    FailsWith q (s.validator (family.env today scope)).present := by
  refine induction
    (motive := fun scope s => FailsWith q (s.validator (family.env today scope)).present)
    hfamily ?_ scope hs
  intro scope s hs resolved
  -- `resolved` is the statement for the targets of lazy nodes, one level deeper
  induction hs with
  | text h => exact Modifiers.Keeps.failsWith hq h ((TextRule.failsDirectly ..).failsWith hq) _
  | number h => exact Modifiers.Keeps.failsWith hq h ((NumberRule.failsDirectly ..).failsWith hq) _
  | boolean h => exact Modifiers.Keeps.failsWith hq h ((BooleanRule.failsDirectly ..).failsWith hq) _
  | date h => exact Modifiers.Keeps.failsWith hq h ((DateRule.failsDirectly ..).failsWith hq) _
  | enumeration h =>
    exact Modifiers.Keeps.failsWith hq h ((EnumerationRule.failsDirectly ..).failsWith hq) _
  | object h _ ih =>
    rw [Schema.validator_object]
    refine Modifiers.Keeps.failsWith hq h (ObjectShape.failsWith_check hq ?_) _
    exact ObjectShape.forall_fields_mapChildren fun name child hfield =>
      ⟨ih name child hfield, fun path found => absent_eq_error⟩
  | array h _ ih => exact Modifiers.Keeps.failsWith hq h (ArrayRule.failsWith_check hq _ ih) _
  | tuple h _ ih =>
    rw [Schema.validator_tuple]
    exact Modifiers.Keeps.failsWith hq h
      (Tuple.failsWith_check hq _ (List.forall_mem_map.2 ih)) _
  | union h _ ih =>
    rw [Schema.validator_union]
    exact Modifiers.Keeps.failsWith hq h (Union.failsWith_check hq (List.forall_mem_map.2 ih)) _
  | optional h _ ih => exact Modifiers.Keeps.failsWith hq h ih _
  | @lazy target limit modifiers h =>
    refine Modifiers.Keeps.failsWith hq h ?_ id
    by_cases hdepth : scope.depth < scope.limitAt limit
    · show FailsWith q (family.resolve today scope target limit)
      rw [resolve_of_lt hdepth]
      exact resolved target limit hdepth
    · intro value path found hfound root hroot
      rw [show (family.env today scope).resolve target limit value path = _ from
        resolve_of_not_lt hdepth value path] at hfound
      exact hq.of_fail (directAt_depthIssue ..) hfound hroot

end Family

end Conform
