import Conform.Proofs.Aggregation
import Conform.Proofs.Report
/-!
# Alternation — the order and the grouping of alternatives

The first alternative that accepts decides what a union makes of its input.
So the order of the alternatives says which output there is, but not whether
there is one, and a refusal only relays in another order. Neighbours that
are taken together into a union of their own change the shape of a refusal,
but neither the output nor the leaves.

Alternatives may be lazy nodes. Nothing is asked of the `Env` here, so all of
this holds inside any number of open lazy nodes.
-/


namespace Conform

namespace Checked

variable {α β : Type} {a b : Checked α}

/-- The same output, or failures with the same leaves. -/
structure SameOutcome (a b : Checked α) : Prop where
  output_eq : a.output? = b.output?
  leaves_eq : a.leaves = b.leaves

theorem SameOutcome.refl (a : Checked α) : a.SameOutcome a := ⟨rfl, rfl⟩

/-- Results with one outcome both pass, with the same output, or both fail. -/
theorem SameOutcome.cases (h : a.SameOutcome b) :
    (∃ output, a = .ok output ∧ b = .ok output) ∨
      ∃ found found', a = .error found ∧ b = .error found' ∧ found.leaves = found'.leaves := by
  obtain ⟨houtput, hleaves⟩ := h
  cases a with
  | ok output =>
    cases b with
    | ok output' => exact .inl ⟨output, rfl, congrArg Except.ok (Option.some.inj houtput).symm⟩
    | error found' => cases houtput
  | error found =>
    cases b with
    | ok output' => cases houtput
    | error found' => exact .inr ⟨found, found', rfl, rfl, hleaves⟩

/-- What follows sees the output and nothing else. -/
theorem SameOutcome.bind (h : a.SameOutcome b) (f : α → Checked β) :
    SameOutcome (a >>= f) (b >>= f) := by
  rcases h.cases with ⟨output, rfl, rfl⟩ | ⟨found, found', rfl, rfl, hleaves⟩
  · exact .refl _
  · exact ⟨rfl, hleaves⟩

theorem SameOutcome.map (h : a.SameOutcome b) (f : α → β) :
    SameOutcome (a.map f) (b.map f) := by
  have hmap (result : Checked α) : result.map f = result >>= fun output => .ok (f output) := by
    cases result <;> rfl
  rw [hmap, hmap]
  exact h.bind _

theorem SameOutcome.conclude (h : a.SameOutcome b) (m : Modifiers α) (path : Path) :
    SameOutcome (m.conclude path a) (m.conclude path b) :=
  h.bind _

end Checked

namespace Union

variable {alternatives others : List Validator} {value : Value} {path : Path}

/-! ## The first output -/

theorem toOption_firstOutput (alternatives : List Validator) (value : Value) (path : Path) :
    (firstOutput alternatives value path).toOption =
      alternatives.findSome? fun v => (v.present value path).output? := by
  induction alternatives with
  | nil => rfl
  | cons first rest ih =>
    rw [List.findSome?_cons, ← ih, firstOutput]
    cases first.present value path with
    | ok output => rfl
    | error found => cases firstOutput rest value path <;> rfl

/-- The output of a union is the first among those of its alternatives. -/
theorem output?_check (alternatives : List Validator) (value : Value) (path : Path) :
    (check alternatives value path).output? =
      alternatives.findSome? fun v => (v.present value path).output? := by
  rw [← toOption_firstOutput, check]
  cases firstOutput alternatives value path <;> rfl

/-- A union accepts what one of its alternatives accepts. -/
theorem exists_check_eq_ok_iff :
    (∃ output, check alternatives value path = .ok output) ↔
      ∃ v ∈ alternatives, ∃ output, v.present value path = .ok output := by
  have hsome {α : Type} (result : Checked α) :
      (∃ output, result = .ok output) ↔ result.output?.isSome := by
    cases result <;> simp
  simp only [hsome, output?_check, List.isSome_findSome?, List.any_eq_true]

/-! ## The order of what is relayed -/

/-- Apart from what it relays, the issue of a union depends on the number of
alternatives. -/
theorem failure_with_sub {count : Nat} {sub sub' : List Issue} (h : sub ≠ []) (h' : sub' ≠ []) :
    { failure count path value sub with sub := sub' } = failure count path value sub' := by
  obtain ⟨first, rest, rfl⟩ := List.exists_cons_of_ne_nil h
  obtain ⟨first', rest', rfl⟩ := List.exists_cons_of_ne_nil h'
  rfl

/-- **Another order of the alternatives** only reorders what a refusal relays. -/
theorem check_eq_error_of_perm (hne : alternatives ≠ []) (hperm : alternatives.Perm others)
    {found : Issues} (h : check alternatives value path = .error found) :
    ∃ issue, found = .single issue ∧ issue.RelaysAt value path ∧
      issue.sub = alternatives.flatMap (fun v => Checked.issues (v.present value path)) ∧
      check others value path = .error (.single { issue with
        sub := others.flatMap fun v => Checked.issues (v.present value path) }) := by
  obtain ⟨hall, rfl⟩ := check_eq_error_iff.1 h
  have hall' : ∀ v ∈ others, ∃ found, v.present value path = .error found :=
    fun v hv => hall v (hperm.mem_iff.2 hv)
  have hsub := relayed_ne_nil hne hall
  have hsub' := relayed_ne_nil (fun h => hne (h ▸ hperm).eq_nil) hall'
  refine ⟨_, rfl, Issue.relaysAt_union _ _ _ hsub, sub_failure .., ?_⟩
  rw [failure_with_sub hsub hsub', hperm.length_eq]
  exact check_eq_error_iff.2 ⟨hall', rfl⟩

/-! ## The grouping of alternatives -/

/-- Findings of neighbours may be taken together first. -/
theorem findings_grouped (value : Value) (path : Path) {before run after : List (List Issue)}
    (hrun : run ≠ []) :
    findings value path (before ++ [findings value path run] ++ after) =
      findings value path (before ++ run ++ after) := by
  have hne : (before ++ run ++ after).isEmpty = false := by simp [hrun]
  have hne' (group : List Issue) : (before ++ [group] ++ after).isEmpty = false := by simp
  have hempty : run.isEmpty = false := by simpa using hrun
  cases haccepts : run.any List.isEmpty with
  | true =>
    -- one of the neighbours accepts, so both unions do
    have hgroup : findings value path run = [] := by
      rw [findings, hempty, haccepts]
      rfl
    have hany : (before ++ [[]] ++ after).any List.isEmpty = true := by simp
    have hany' : (before ++ run ++ after).any List.isEmpty = true := by
      simp only [List.any_append, haccepts, Bool.or_true, Bool.true_or]
    rw [hgroup, findings, findings, hne, hne', hany, hany']
    rfl
  | false =>
    have hgroup : findings value path run = run.flatten := by
      rw [findings, hempty, haccepts]
      rfl
    have hflatten : run.flatten.isEmpty = false := by
      obtain ⟨first, rest, rfl⟩ := List.exists_cons_of_ne_nil hrun
      have hfirst : first ≠ [] := by
        rintro rfl
        cases haccepts
      simp [hfirst]
    have hany : (before ++ [run.flatten] ++ after).any List.isEmpty =
        (before ++ run ++ after).any List.isEmpty := by
      simp only [List.any_append, List.any_cons, List.any_nil, Bool.or_false, hflatten, haccepts]
    rw [hgroup, findings, findings, hne, hne', hany]
    simp only [List.flatten_append, List.flatten_singleton]

/-- **Neighbours in a union of their own** change neither the output nor the leaves. -/
theorem sameOutcome_grouped (before after : List Validator) {run : List Validator} (hrun : run ≠ [])
    {nested : Modifiers Value} (hnested : nested.HookFree) (value : Value) (path : Path) :
    Checked.SameOutcome (check (before ++ [Validator.union nested run] ++ after) value path)
      (check (before ++ run ++ after) value path) := by
  have hgroup : (Validator.union nested run).present value path = check run value path :=
    (hnested.validator_present id).trans (congrFun Except.map_id _)
  constructor
  · simp only [output?_check, List.findSome?_append, List.findSome?_cons, List.findSome?_nil, hgroup]
    cases run.findSome? fun v => (v.present value path).output? <;> rfl
  · rw [leaves_check, leaves_check]
    simp only [List.map_append, List.map_cons, List.map_nil, hgroup, leaves_check run]
    exact findings_grouped value path (by simpa using hrun)

end Union

/-! ## Unions of schemas -/

namespace Schema

/-- Absent input is a matter of the modifiers alone. -/
theorem absent_union (env : Env) (alternatives : List Schema) (modifiers : Modifiers Value)
    (path : Path) :
    ((union alternatives modifiers).validator env).absent path =
      (modifiers.absent path).map (Option.map id) := by
  rw [validator_union]
  rfl

variable {env : Env} {alternatives others : List Schema} {modifiers : Modifiers Value}
  {value : Value} {path : Path}

/-- Without hooks, a union does what trying its alternatives does. -/
theorem attempt_union (hm : modifiers.HookFree) :
    (union alternatives modifiers).attempt env value path =
      Union.check (alternatives.map (validator env)) value path := by
  rw [attempt, validator_union, Validator.union, hm.validator_present]
  exact congrFun Except.map_id _

theorem flatMap_issues_validator :
    ((alternatives.map (validator env)).flatMap fun v => Checked.issues (v.present value path)) =
      alternatives.flatMap fun s => (s.attempt env value path).issues := by
  rw [List.flatMap_map]
  rfl

/-- The output of a union is the first among those of its alternatives. -/
theorem output?_attempt_union (hm : modifiers.HookFree) :
    ((union alternatives modifiers).attempt env value path).output? =
      alternatives.findSome? fun s => (s.attempt env value path).output? := by
  rw [attempt_union hm, Union.output?_check, List.findSome?_map]
  rfl

theorem exists_attempt_union_eq_ok_iff (hm : modifiers.HookFree) :
    (∃ output, (union alternatives modifiers).attempt env value path = .ok output) ↔
      ∃ s ∈ alternatives, ∃ output, s.attempt env value path = .ok output := by
  simp only [attempt_union hm, Union.exists_check_eq_ok_iff, List.mem_map,
    exists_exists_and_eq_and]
  rfl

/-- A refusal relays what the alternatives report, in their order. -/
theorem attempt_union_eq_error_of_perm (hm : modifiers.HookFree) (hne : alternatives ≠ [])
    (hperm : alternatives.Perm others) {found : Issues}
    (h : (union alternatives modifiers).attempt env value path = .error found) :
    ∃ issue, found = .single issue ∧ issue.RelaysAt value path ∧
      issue.sub = alternatives.flatMap (fun s => (s.attempt env value path).issues) ∧
      (union others modifiers).attempt env value path = .error (.single { issue with
        sub := others.flatMap fun s => (s.attempt env value path).issues }) := by
  rw [attempt_union hm] at h ⊢
  have hne' : alternatives.map (validator env) ≠ [] := by simpa using hne
  simpa only [flatMap_issues_validator] using
    Union.check_eq_error_of_perm hne' (hperm.map (validator env)) h

/-- Taking neighbours together changes no outcome of a union, whatever its modifiers. -/
theorem sameOutcome_grouped {before run after : List Schema} (hrun : run ≠ [])
    {nested : Modifiers Value} (hnested : nested.HookFree) (input : Option Value) :
    Checked.SameOutcome
      (((union (before ++ [union run nested] ++ after) modifiers).validator env).parse input path)
      (((union (before ++ run ++ after) modifiers).validator env).parse input path) := by
  cases input with
  | none =>
    rw [Validator.parse_none, Validator.parse_none, absent_union, absent_union]
    exact .refl _
  | some value =>
    simp only [validator_union, List.map_append, List.map_cons, List.map_nil]
    have hrun' : run.map (validator env) ≠ [] := by simpa using hrun
    have hstep := Union.sameOutcome_grouped (before.map (validator env)) (after.map (validator env))
      hrun' hnested (modifiers.prepared value) path
    exact ((hstep.conclude modifiers path).map id).map some

/-- **Order and grouping of alternatives.** A union without hooks accepts what one
of its alternatives accepts, with the first output there is. In another order
of the alternatives it accepts the same inputs, and refuses with the same
issue, which relays what the alternatives report in their new order. Absent
input is no matter of the alternatives. Taking a run of neighbours together
into a union without hooks leaves the output and the leaves of a failure as they
are, and here the union may have any modifiers. -/
theorem union_order_and_grouping (hne : alternatives ≠ []) (env : Env)
    (modifiers : Modifiers Value) (path : Path) :
    (modifiers.HookFree → ∀ value,
      ((union alternatives modifiers).attempt env value path).output? =
          alternatives.findSome? (fun s => (s.attempt env value path).output?) ∧
        ((∃ output, (union alternatives modifiers).attempt env value path = .ok output) ↔
          ∃ s ∈ alternatives, ∃ output, s.attempt env value path = .ok output) ∧
        ∀ others, alternatives.Perm others →
          ((∃ output, (union others modifiers).attempt env value path = .ok output) ↔
            ∃ output, (union alternatives modifiers).attempt env value path = .ok output) ∧
          ∀ found, (union alternatives modifiers).attempt env value path = .error found →
            ∃ issue, found = .single issue ∧ issue.RelaysAt value path ∧
              issue.sub = alternatives.flatMap (fun s => (s.attempt env value path).issues) ∧
              (union others modifiers).attempt env value path = .error (.single { issue with
                sub := others.flatMap fun s => (s.attempt env value path).issues })) ∧
      (∀ others, ((union others modifiers).validator env).absent =
        ((union alternatives modifiers).validator env).absent) ∧
      ∀ before run after nested input, alternatives = before ++ run ++ after → run ≠ [] →
        nested.HookFree → Checked.SameOutcome
          (((union (before ++ [union run nested] ++ after) modifiers).validator env).parse input path)
          (((union alternatives modifiers).validator env).parse input path) := by
  refine ⟨fun hm value => ⟨output?_attempt_union hm, exists_attempt_union_eq_ok_iff hm,
    fun others hperm => ⟨?_, fun found hfound => ?_⟩⟩, fun others => ?_, ?_⟩
  · simp only [exists_attempt_union_eq_ok_iff hm, hperm.mem_iff]
  · exact attempt_union_eq_error_of_perm hm hne hperm hfound
  · funext path
    rw [absent_union, absent_union]
  · rintro before run after nested input rfl hrun hnested
    exact sameOutcome_grouped hrun hnested input

/-- A name, a part one lazy node further down, or a mass. -/
def freight : List Schema := [.text {} {}, subpart, mass]

/-- Scrap is no freight in any order and under any grouping. -/
theorem order_and_grouping_of_freight :
    freight ≠ [] ∧ ({} : Modifiers Value).HookFree ∧ freight.Perm freight.reverse ∧
      (∃ issue, (union freight {}).attempt inMachine .scrap .root = .error (.single issue) ∧
        (union freight.reverse {}).attempt inMachine .scrap .root = .error (.single { issue with
          sub := freight.reverse.flatMap fun s => (s.attempt inMachine .scrap .root).issues })) ∧
      Checked.SameOutcome
        (((union [.text {} {}, union [subpart, mass] {}] {}).validator inMachine).parse
          (some .scrap) .root)
        (((union freight {}).validator inMachine).parse (some .scrap) .root) := by
  have hne : freight ≠ [] := List.cons_ne_nil _ _
  have hm : ({} : Modifiers Value).HookFree := ⟨rfl, rfl, rfl⟩
  have hperm : freight.Perm freight.reverse := (List.reverse_perm freight).symm
  obtain ⟨horder, -, hgrouping⟩ := union_order_and_grouping hne inMachine {} .root
  refine ⟨hne, hm, hperm, ?_, ?_⟩
  · have hfails : ((union freight {}).attempt inMachine .scrap .root).passed = false := by cbv
    cases hresult : (union freight {}).attempt inMachine .scrap .root with
    | ok output =>
      rw [hresult] at hfails
      cases hfails
    | error found =>
      obtain ⟨issue, rfl, -, -, hreversed⟩ := ((horder hm .scrap).2.2 _ hperm).2 found hresult
      exact ⟨issue, rfl, hreversed⟩
  · exact hgrouping [.text {} {}] [subpart, mass] [] {} _ rfl (List.cons_ne_nil _ _) hm

end Schema

end Conform
