import Conform.Proofs.Findings
import Conform.Proofs.Issue.Tree
import Conform.Proofs.Leaf
import Mathlib
/-!
# Aggregation — nothing that is wrong is lost

The leaves of a failure are the findings of the schema, neither more nor
less and in their order, and a parse passes exactly if there are none. Each
composite groups what its parts report in its own way and stops early in
its own way; there is one lemma for each about the leaves of the result,
in terms of the leaves of the parts.
-/


namespace Conform

/-! ## The leaves of a result -/

namespace Checked

variable {α β : Type}

/-- The leaves of the issues that a check failed with. -/
def leaves (result : Checked α) : List Issue := Issue.leavesOf result.issues

@[simp] theorem leaves_ok (output : α) : leaves (.ok output : Checked α) = [] := rfl

@[simp] theorem leaves_error (found : Issues) :
    leaves (.error found : Checked α) = found.leaves := rfl

@[simp] theorem leaves_map (f : α → β) (result : Checked α) :
    leaves (result.map f) = result.leaves := by
  rw [leaves, issues_map]
  rfl

/-- A failure has a leaf. -/
theorem leaves_eq_nil_iff {result : Checked α} :
    result.leaves = [] ↔ ∃ output, result = .ok output := by
  rw [← issues_eq_nil_iff, leaves, Issue.leavesOf_eq_flatMap]
  constructor
  · intro h
    refine List.eq_nil_iff_forall_not_mem.2 fun issue hissue => ?_
    exact Issue.leaves_ne_nil issue (List.flatMap_eq_nil_iff.1 h issue hissue)
  · intro h
    rw [h]
    rfl

@[simp] theorem leaves_fail (issue : Issue) : (fail issue : Checked α).leaves = issue.leaves :=
  List.append_nil _

/-- An aggregate has the leaves of what it relays. -/
theorem leaves_wrap {result : Checked α} {issue : Issues → Issue}
    (h : ∀ sub, (issue sub).leaves = sub.leaves) : (result.wrap issue).leaves = result.leaves := by
  cases result with
  | ok output => rfl
  | error sub => exact (leaves_fail (issue sub)).trans (h sub)

theorem leaves_collect (results : List (Checked α)) :
    (collect results).leaves = results.flatMap leaves := by
  rw [leaves, issues_collect, Issue.leavesOf_eq_flatMap, List.flatMap_assoc]
  exact congrArg results.flatMap (funext fun result => (Issue.leavesOf_eq_flatMap _).symm)

end Checked

/-- The leaves of a rule without children are the one issue it reports. -/
theorem FailsDirectly.leaves {α : Type} {step : Value → Path → Checked α}
    (h : FailsDirectly step) (value : Value) (path : Path) :
    (step value path).leaves = (step value path).issue?.toList := by
  cases hstep : step value path with
  | ok output => rfl
  | error found =>
    obtain ⟨issue, hissue, rfl⟩ := h hstep
    exact Issue.leavesOf_eq_self (by simp [hissue.sub_eq])

/-- Findings about a value itself are leaves. -/
theorem Issue.leavesOf_of_directAt {path : Path} {list : List Issue}
    (h : ∀ issue ∈ list, issue.DirectAt path) : Issue.leavesOf list = list :=
  leavesOf_eq_self fun issue hissue => (h issue hissue).sub_eq

/-- Undeclared keys are found by comparing the keys of the input with those of
the fields. -/
theorem ObjectShape.unknownIssues_eq_findings {σ : Type} (s : ObjectShape σ) (members : Members)
    (path : Path) :
    s.unknownIssues (s.unknownMembers members) path =
      s.unknownKeys.findings s.keys members path := by
  have hkeys : (members.keys.filter fun key => !s.keys.contains key) =
      (s.unknownMembers members).keys := by
    rw [Members.keys, List.filter_map]
    rfl
  unfold unknownIssues UnknownKeys.findings
  rw [hkeys]
  cases s.unknownKeys <;> cases s.unknownMembers members <;> rfl

/-- The leaves of an object are those of its fields and of its undeclared keys. -/
theorem ObjectShape.leaves_conclude {σ : Type} (s : ObjectShape σ) (members : Members)
    (path : Path) (results : List (String × Checked (Option Value))) :
    (s.conclude members path results).leaves =
      (results.flatMap fun entry => entry.2.leaves) ++
        s.unknownKeys.findings s.keys members path := by
  have hfailure (sub : Issues) : (failure path (.object members) sub).leaves = sub.leaves :=
    Issue.leaves_aggregate ..
  have hunknown : Issue.leavesOf (s.unknownIssues (s.unknownMembers members) path) =
      s.unknownIssues (s.unknownMembers members) path :=
    Issue.leavesOf_of_directAt fun issue => directAt_unknownIssues
  rw [conclude, Checked.leaves_wrap hfailure, Checked.leaves, Checked.issues_settle,
    Issue.leavesOf_append, hunknown, unknownIssues_eq_findings, fieldIssues_eq_flatMap,
    Issue.leavesOf_eq_flatMap, List.flatMap_assoc]
  simp only [Checked.leaves, Issue.leavesOf_eq_flatMap]

/-- The leaves of an array are those of its elements, behind the findings about
its length. Repetitions are found only where the elements leave nothing. -/
theorem ArrayRule.leaves_conclude (r : ArrayRule) (items : List Value) (path : Path)
    (results : List (Checked Value)) :
    (r.conclude items path results).leaves =
      r.lengthIssues items.length (.array items) path ++
        if (results.flatMap Checked.leaves).isEmpty then
          r.uniquenessIssues (results.filterMap Checked.output?) (.array items) path
        else results.flatMap Checked.leaves := by
  rw [Checked.leaves, issues_conclude, Issue.leavesOf_append,
    Issue.leavesOf_of_directAt fun issue => directAt_lengthIssues, ← Checked.leaves_collect]
  congr 1
  -- a failing collection has a leaf, so the test for emptiness takes the same branch
  cases hcollect : Checked.collect results with
  | ok outputs =>
    obtain rfl := Checked.collect_eq_ok_iff.1 hcollect
    have houtputs : (outputs.map Except.ok).filterMap (Checked.output? (α := Value)) = outputs := by
      simp [List.filterMap_map, Function.comp_def]
    rw [houtputs]
    exact Issue.leavesOf_of_directAt fun issue => directAt_uniquenessIssues
  | error sub =>
    have hleaves : Checked.leaves (.error sub : Checked (List Value)) ≠ [] := by
      intro h
      obtain ⟨output, houtput⟩ := Checked.leaves_eq_nil_iff.1 h
      cases houtput
    rw [if_neg (by simpa using hleaves)]
    exact (Checked.leaves_fail (α := Value) _).trans (Issue.leaves_aggregate ..)

/-- The leaves of a tuple are those of its positions. -/
theorem Tuple.leaves_conclude (kind : TupleKind) (items : List Value) (path : Path)
    (results : List (Checked Value)) :
    (conclude kind items path results).leaves = results.flatMap Checked.leaves := by
  have hfailure (sub : Issues) : (failure path (.array items) sub).leaves = sub.leaves :=
    Issue.leaves_aggregate ..
  rw [conclude, Checked.leaves_wrap hfailure, combine_eq_collect, Checked.leaves_collect]

/-- A union relays the findings of its alternatives. -/
theorem Union.leaves_failure (count : Nat) (path : Path) (value : Value) {sub : List Issue}
    (h : sub ≠ []) : (failure count path value sub).leaves = Issue.leavesOf sub := by
  cases sub with
  | nil => exact absurd rfl h
  | cons first rest => exact Issue.leaves_of_sub_ne_nil (List.cons_ne_nil first rest)

/-- The leaves of a union are those of all its alternatives, unless one of them
has none. -/
theorem Union.leaves_check (alternatives : List Validator) (value : Value) (path : Path) :
    (check alternatives value path).leaves =
      findings value path (alternatives.map fun v => (v.present value path).leaves) := by
  unfold check
  cases hfirst : firstOutput alternatives value path with
  | ok output =>
    obtain ⟨before, alternative, after, rfl, -, halternative⟩ := firstOutput_eq_ok_iff.1 hfirst
    rw [findings, if_neg (by simp), if_pos (by simp [halternative])]
    rfl
  | error sub =>
    obtain ⟨hall, rfl⟩ := firstOutput_eq_error_iff.1 hfirst
    have hleaves : ∀ alternative ∈ alternatives, (alternative.present value path).leaves ≠ [] := by
      intro alternative hmem hnil
      obtain ⟨output, houtput⟩ := Checked.leaves_eq_nil_iff.1 hnil
      obtain ⟨found, hfound⟩ := hall alternative hmem
      rw [houtput] at hfound
      cases hfound
    cases alternatives with
    | nil => rfl
    | cons first rest =>
      -- the aggregate relays something, so it is no leaf itself
      have hsub := relayed_ne_nil (List.cons_ne_nil first rest) hall
      rw [findings, if_neg (by simp), if_neg (by simpa using hleaves)]
      calc (conclude (rest.length + 1) value path (.error _)).leaves
          = Issue.leavesOf ((first :: rest).flatMap fun v => (v.present value path).issues) :=
            (Checked.leaves_fail _).trans (leaves_failure _ _ _ hsub)
        _ = ((first :: rest).map fun v => (v.present value path).leaves).flatten := by
            rw [Issue.leavesOf_eq_flatMap, List.flatMap_assoc, ← List.flatMap_def]
            simp only [Checked.leaves, Issue.leavesOf_eq_flatMap]

/-! ## The leaves of a schema -/

namespace Schema

variable {env : FindingsEnv}

/-- The leaves of what a schema does with present input are its findings. -/
def Reports (env : FindingsEnv) (s : Schema) : Prop :=
  ∀ value path, ((s.validator env.toEnv).present value path).leaves = s.findings env value path

/-- The findings about absent input need no condition on the schema. -/
theorem leaves_absent (env : Env) (s : Schema) (path : Path) :
    ((s.validator env).absent path).leaves = s.missing path := by
  rw [Checked.leaves, issues_absent]
  refine Issue.leavesOf_eq_self fun issue hissue => ?_
  rw [mem_missing hissue]
  rfl

theorem Reports.input {s : Schema} (h : s.Reports env) (input : Option Value) (path : Path) :
    ((s.validator env.toEnv).parse input path).leaves = s.inputFindings env input path := by
  cases input with
  | some value => exact (Checked.leaves_map ..).trans (h value path)
  | none => exact leaves_absent env.toEnv s path

/-- A rule behind modifiers without hooks leaves what the rule leaves. -/
theorem leaves_present {α : Type} {m : Modifiers α} (hm : m.HookFree)
    (step : Value → Path → Checked α) (toValue : α → Value) (value : Value) (path : Path) :
    ((m.validator step toValue).present value path).leaves = (step value path).leaves := by
  rw [Modifiers.validator_present, Checked.leaves_map, hm.present]

/-- A rule without children leaves at most the issue it reports. -/
theorem leaves_rule {α : Type} {m : Modifiers α} (hm : m.HookFree)
    {step : Value → Path → Checked α} (hstep : FailsDirectly step) (toValue : α → Value)
    (value : Value) (path : Path) :
    ((m.validator step toValue).present value path).leaves = (step value path).issue?.toList := by
  rw [leaves_present hm, hstep.leaves]

theorem reports_object {shape : ObjectShape Schema} (hm : shape.modifiers.HookFree)
    (hchildren : ∀ name child, (name, child) ∈ shape.fields → child.Reports env) :
    (object shape).Reports env := by
  intro value path
  obtain ⟨fields, unknownKeys, typeMessage, modifiers⟩ := shape
  rw [validator_object]
  refine (leaves_present hm _ _ value path).trans ?_
  cases value with
  | object members =>
    rw [findings, ObjectShape.check, ObjectShape.leaves_conclude, fieldFindings_eq_flatMap,
      ObjectShape.fieldResults, List.flatMap_map, ObjectShape.mapChildren, List.flatMap_map,
      ObjectShape.keys, List.map_map]
    congr 1
    refine List.flatMap_congr fun field hfield => ?_
    exact (hchildren field.1 field.2 hfield).input _ _
  | _ => rfl

theorem flatMap_leaves_onItems {item : Schema} (hitem : item.Reports env) (items : List Value)
    (path : Path) :
    ((item.validator env.toEnv).onItems items path).flatMap Checked.leaves =
      items.zipIdx.flatMap fun (x, i) => findings env item x (path.index i) := by
  rw [Validator.onItems, List.flatMap_map]
  refine List.flatMap_congr ?_
  rintro ⟨x, i⟩ -
  exact hitem x (path.index i)

theorem reports_array {item : Schema} {rule : ArrayRule} {modifiers : Modifiers (List Value)}
    (hm : modifiers.HookFree) (hitem : item.Reports env) :
    (array item rule modifiers).Reports env := by
  intro value path
  rw [validator_array, Validator.array, leaves_present hm]
  cases value with
  | array items =>
    rw [findings, ArrayRule.check, ArrayRule.leaves_conclude, flatMap_leaves_onItems hitem]
  | _ => rfl

theorem flatMap_leaves_positions {items : List Schema} (h : ∀ child ∈ items, child.Reports env)
    (values : List Value) (i : Nat) (path : Path) :
    ((((items.map (validator env.toEnv)).zip values).zipIdx i).flatMap fun ((child, value), i) =>
        (child.present value (path.index i)).leaves) =
      positionFindings env items values i path := by
  induction items generalizing values i with
  | nil => rfl
  | cons s rest ih =>
    cases values with
    | nil => rfl
    | cons value values =>
      rw [positionFindings, ← ih (fun child hchild => h child (List.mem_cons_of_mem s hchild)),
        ← h s List.mem_cons_self value (path.index i)]
      rfl

theorem reports_tuple {kind : TupleKind} {items : List Schema}
    {modifiers : Modifiers (List Value)} (hm : modifiers.HookFree)
    (hitems : ∀ child ∈ items, child.Reports env) : (tuple kind items modifiers).Reports env := by
  intro value path
  rw [validator_tuple, Validator.tuple, leaves_present hm]
  cases value with
  | array values =>
    rw [findings, Tuple.check, List.length_map]
    by_cases hlength : values.length = items.length
    · rw [if_pos hlength, if_pos hlength, Tuple.leaves_conclude, Tuple.positions,
        List.flatMap_map]
      exact flatMap_leaves_positions hitems values 0 path
    · rw [if_neg hlength, if_neg hlength]
      rfl
  | _ => rfl

theorem reports_union {alternatives : List Schema} {modifiers : Modifiers Value}
    (hm : modifiers.HookFree) (halternatives : ∀ child ∈ alternatives, child.Reports env) :
    (union alternatives modifiers).Reports env := by
  intro value path
  have hfindings : ((alternatives.map (validator env.toEnv)).map fun v =>
      (v.present value path).leaves) = alternativeFindings env alternatives value path := by
    rw [alternativeFindings_eq_map, List.map_map]
    exact List.map_congr_left fun s hs => halternatives s hs value path
  rw [validator_union, Validator.union, leaves_present hm, findings, Union.leaves_check, hfindings]

end Schema

namespace Family

variable {family : Family} {today : Int} {scope : Scope} {s : Schema}

/-- A lazy node leaves the findings of its target one level deeper, or the
finding that the limit is exceeded. -/
theorem leaves_resolve {target : Deferred} {limit : Nat}
    (h : scope.depth < scope.limitAt limit →
      (family target).Reports (family.findingsEnv today (scope.enter limit)))
    (value : Value) (path : Path) :
    (family.resolve today scope target limit value path).leaves =
      family.deferredFindings today scope target limit value path := by
  rw [deferredFindings]
  by_cases hdepth : scope.depth < scope.limitAt limit
  · rw [if_pos hdepth, resolve_of_lt hdepth]
    exact h hdepth value path
  · rw [if_neg hdepth, resolve_of_not_lt hdepth]
    rfl

/-- **Findings are leaves.** Inside any number of lazy nodes, the leaves of what
a schema without hooks does with present input are its findings. -/
theorem reports (hfamily : ∀ target, (family target).Every Schema.IsHookFree) (scope : Scope)
    (hs : s.Every Schema.IsHookFree) : s.Reports (family.findingsEnv today scope) := by
  refine induction (motive := fun scope s => s.Reports (family.findingsEnv today scope))
    hfamily ?_ scope hs
  intro scope s hs resolved
  -- `resolved` is the statement for the targets of lazy nodes, one level deeper
  induction hs with
  | text h =>
    exact fun value path => Schema.leaves_rule h (TextRule.failsDirectly ..) _ value path
  | number h =>
    exact fun value path => Schema.leaves_rule h (NumberRule.failsDirectly ..) _ value path
  | boolean h =>
    exact fun value path => Schema.leaves_rule h (BooleanRule.failsDirectly ..) _ value path
  | date h =>
    exact fun value path => Schema.leaves_rule h (DateRule.failsDirectly ..) _ value path
  | enumeration h =>
    exact fun value path => Schema.leaves_rule h (EnumerationRule.failsDirectly ..) _ value path
  | object h _ ih => exact Schema.reports_object h ih
  | array h _ ih => exact Schema.reports_array h ih
  | tuple h _ ih => exact Schema.reports_tuple h ih
  | union h _ ih => exact Schema.reports_union h ih
  | @optional inner modifiers h _ ih =>
    intro value path
    have hstep := Schema.leaves_present h (inner.validator (family.env today scope)).present id
    exact (hstep value path).trans (ih value path)
  | @lazy target limit modifiers h =>
    intro value path
    have hstep := Schema.leaves_present h (family.resolve today scope target limit) id
    exact (hstep value path).trans (leaves_resolve (resolved target limit) value path)

/-- **Exhaustive aggregation.** A schema without hooks accepts exactly the input
that nothing is found about, and the leaves of a failure are all findings,
each once and in the order of the parts. -/
theorem parse_eq_findings (hfamily : ∀ target, (family target).Every Schema.IsHookFree)
    (hs : s.Every Schema.IsHookFree) (today : Int) (input : Option Value) (path : Path) :
    ((∃ output, (family.validator today s).parse input path = .ok output) ↔
        s.inputFindings (family.findingsEnv today .outside) input path = []) ∧
      ∀ issues, (family.validator today s).parse input path = .error issues →
        issues.leaves = s.inputFindings (family.findingsEnv today .outside) input path := by
  have hleaves : ((family.validator today s).parse input path).leaves =
      s.inputFindings (family.findingsEnv today .outside) input path :=
    (reports hfamily .outside hs).input input path
  constructor
  · rw [← hleaves, Checked.leaves_eq_nil_iff]
  · intro issues hissues
    rw [← hleaves, hissues, Checked.leaves_error]

/-- Where something is wrong with a piece of scrap, and what. -/
def scrapFindings : List (String × String) :=
  [("name", "required"), ("mass", "invalid_type"), ("parts.0", "invalid_type"),
    ("parts.1.mass", "invalid_type"), ("parts.1.parts.0.name", "invalid_type"),
    ("parts.1.parts.0.mass", "invalid_type"), ("parts.1.parts.0.parts.0", "max_depth_exceeded"),
    ("", "unrecognized_keys")]

/-- Scrap is no part, and everything wrong with it is among the leaves. -/
theorem leaves_scrap :
    (∀ target, (machines {} target).Every Schema.IsHookFree) ∧
      (Schema.part {}).Every Schema.IsHookFree ∧
      ∃ issues, (validator (machines {}) 0 (Schema.part {})).parse (some .scrap) .root =
          .error issues ∧
        issues.leaves.map (fun issue => (issue.path.render, issue.code)) = scrapFindings := by
  have hpart : (Schema.part {}).Every Schema.IsHookFree := by
    apply Schema.every_part <;> exact ⟨rfl, rfl, rfl⟩
  have hfindings : (((Schema.part {}).inputFindings (findingsEnv (machines {}) 0 .outside)
      (some .scrap) .root).map fun issue => (issue.path.render, issue.code)) = scrapFindings := by
    cbv
  have hfamily : ∀ target, (machines {} target).Every Schema.IsHookFree := fun _ => hpart
  obtain ⟨hok, herror⟩ := parse_eq_findings hfamily hpart 0 (some .scrap) .root
  refine ⟨hfamily, hpart, ?_⟩
  cases hresult : (validator (machines {}) 0 (Schema.part {})).parse (some .scrap) .root with
  | ok output =>
    rw [hok.1 ⟨output, hresult⟩] at hfindings
    cases hfindings
  | error issues =>
    rw [← herror issues hresult] at hfindings
    exact ⟨issues, rfl, hfindings⟩

end Family

end Conform
