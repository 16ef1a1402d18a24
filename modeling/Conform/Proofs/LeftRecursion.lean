import Conform.Proofs.Alternation
import Conform.Proofs.Targets
/-!
# LeftRecursion — unions that refer back to themselves

A union may have itself as its last alternative, by way of a lazy node. The
lazy node sees the same value at the same path, so nothing but the limit ends
the recursion. If one of the other alternatives accepts, it does so on the
first level and the lazy node is never reached. Otherwise every level reports
once what the other alternatives report, and below the last of them stands
the one issue about the limit.

The induction is on the levels that are left. The smaller of two limits is in
force below the outermost lazy node: its own, and the default.
-/


namespace Conform

/-! ## Issues in layers -/

namespace Issue

variable {value : Value} {path : Path} {relayed : List Issue} {core issue : Issue} {levels : Nat}

/-- The issue is `core` with refusals of unions around it, one for each level. Each of them
relays the given issues and then what is inside of it. -/
inductive Layered (value : Value) (path : Path) (relayed : List Issue) (core : Issue) :
    Nat → Issue → Prop
  | core : Layered value path relayed core 0 core
  | layer {levels : Nat} {inner outer : Issue} : Layered value path relayed core levels inner →
      outer.RelaysAt value path → outer.RefusesAll → outer.sub = relayed ++ [inner] →
      Layered value path relayed core (levels + 1) outer

/-- Every level adds the leaves of what it relays, in front of those further in. -/
theorem Layered.leaves_eq (h : Layered value path relayed core levels issue) :
    issue.leaves = (List.replicate levels (leavesOf relayed)).flatten ++ core.leaves := by
  induction h with
  | core => rfl
  | @layer levels inner outer _ hrelays _ hsub ih =>
    have hinner : leavesOf [inner] = inner.leaves := by
      rw [leavesOf, leavesOf, List.append_nil]
    rw [leaves_of_sub_ne_nil hrelays.sub_ne_nil, hsub, leavesOf_append, hinner, ih,
      List.replicate_succ, List.flatten_cons, List.append_assoc]

/-- A union that refuses puts one layer around what its last alternative reports. -/
theorem Layered.of_union (count : Nat) (h : Layered value path relayed core levels issue) :
    Layered value path relayed core (levels + 1)
      (Union.failure count path value (relayed ++ [issue])) := by
  have hsub : relayed ++ [issue] ≠ [] := by simp
  have hrefuses : (Union.failure count path value (relayed ++ [issue])).RefusesAll := by
    obtain ⟨first, rest, hcons⟩ := List.exists_cons_of_ne_nil hsub
    rw [hcons]
    exact ⟨rfl, count, rfl⟩
  exact .layer h (relaysAt_union count path value hsub) hrefuses (Union.sub_failure ..)

end Issue

/-! ## Lazy nodes that are open -/

/-- What a schema makes of present input, outside of all lazy nodes. -/
def Family.attempt (family : Family) (today : Int) (value : Value) (path : Path) (s : Schema) :
    Checked Value :=
  s.attempt (family.env today .outside) value path

variable {family : Family} {today : Int} {scope : Scope} {target : Deferred}
  {alternatives : List Schema} {value : Value} {path : Path}

/-- No lazy node occurs in the schema. -/
def Schema.IsLazyFree (s : Schema) : Prop := s.Every (Refers fun _ => False)

/-- Where no lazy node occurs, it does not matter how many are open. -/
theorem Schema.IsLazyFree.attempt_eq {s : Schema} (h : s.IsLazyFree) (scope : Scope) :
    s.attempt (family.env today scope) value path = family.attempt today value path s := by
  have htoday : (family.env today scope).today = (family.env today .outside).today := rfl
  have hvalidator := validator_congr htoday (fun _ _ hnone => hnone.elim) h
  rw [Family.attempt, attempt, attempt, hvalidator]

/-- A lazy node without modifiers does with present input what its step does. -/
theorem Schema.attempt_lazy (env : Env) (target : Deferred) (limit : Nat) :
    (lazy target limit {}).attempt env value path = env.resolve target limit value path := by
  have hhooks : ({} : Modifiers Value).HookFree := ⟨rfl, rfl, rfl⟩
  rw [attempt, validator, hhooks.validator_present]
  exact congrFun Except.map_id _

/-- A union without hooks is refused where no alternative accepts, with one issue about what
all of them report. -/
theorem Schema.attempt_union_eq_error_iff {env : Env} {modifiers : Modifiers Value}
    (hm : modifiers.HookFree) {found : Issues} :
    (union alternatives modifiers).attempt env value path = .error found ↔
      (∀ s ∈ alternatives, ∃ found, s.attempt env value path = .error found) ∧
        found = .single (Union.failure alternatives.length path value
          (alternatives.flatMap fun s => (s.attempt env value path).issues)) := by
  rw [attempt_union hm, Union.check_eq_error_iff, flatMap_issues_validator, List.length_map,
    List.forall_mem_map]
  rfl

/-! ## Levels of the recursion -/

/-- The union of some alternatives and, last, of what the lazy node refers to. -/
def Schema.orTarget (alternatives : List Schema) (target : Deferred) : Schema :=
  union (alternatives ++ [deferred target]) {}

namespace Family

/-- Alternatives without lazy nodes make the same of a value on every level. -/
theorem map_attempt_eq (hfree : ∀ s ∈ alternatives, s.IsLazyFree) (scope : Scope) :
    alternatives.map (Schema.attempt (family.env today scope) value path) =
      alternatives.map (family.attempt today value path) :=
  List.map_congr_left fun s hs => (hfree s hs).attempt_eq scope

/-- An alternative that accepts is found on every level, in front of the lazy node. -/
theorem attempt_orTarget_of_accepts (hfree : ∀ s ∈ alternatives, s.IsLazyFree) {output : Value}
    (h : alternatives.findSome? (fun s => (family.attempt today value path s).output?) =
      some output) (scope : Scope) :
    (Schema.orTarget alternatives target).attempt (family.env today scope) value path =
      .ok output := by
  have hhooks : ({} : Modifiers Value).HookFree := ⟨rfl, rfl, rfl⟩
  have hlevel : (alternatives.map (Schema.attempt (family.env today scope) value path)).findSome?
      Checked.output? = some output := by
    rw [map_attempt_eq hfree, List.findSome?_map]
    exact h
  have houtput : ((Schema.orTarget alternatives target).attempt (family.env today scope)
      value path).output? = some output := by
    rw [List.findSome?_map] at hlevel
    rw [Schema.orTarget, Schema.output?_attempt_union hhooks, List.findSome?_append]
    exact congrArg (Option.or · _) hlevel
  cases hresult : (Schema.orTarget alternatives target).attempt (family.env today scope) value path with
  | ok output' =>
    rw [hresult] at houtput
    exact congrArg Except.ok (Option.some.inj houtput)
  | error found =>
    rw [hresult] at houtput
    cases houtput

/-- A level on which no alternative accepts and the lazy node fails with one issue. -/
theorem attempt_orTarget_of_fails (hfree : ∀ s ∈ alternatives, s.IsLazyFree)
    (h : ∀ s ∈ alternatives, ∃ found, family.attempt today value path s = .error found)
    {issue : Issue}
    (hissue : family.resolve today scope target defaultDepth value path =
      .error (.single issue)) :
    (Schema.orTarget alternatives target).attempt (family.env today scope) value path =
      .error (.single (Union.failure (alternatives ++ [Schema.deferred target]).length path value
        ((alternatives.flatMap fun s => (family.attempt today value path s).issues) ++ [issue]))) := by
  have hhooks : ({} : Modifiers Value).HookFree := ⟨rfl, rfl, rfl⟩
  have hlazy : (Schema.deferred target).attempt (family.env today scope) value path =
      .error (.single issue) :=
    (Schema.attempt_lazy ..).trans hissue
  refine (Schema.attempt_union_eq_error_iff hhooks).2 ⟨fun s hs => ?_, ?_⟩
  · rcases List.mem_append.1 hs with hs | hs
    · rw [(hfree s hs).attempt_eq]
      exact h s hs
    · rw [List.mem_singleton.1 hs]
      exact ⟨_, hlazy⟩
  · have hrelayed : (alternatives.flatMap fun s =>
        (s.attempt (family.env today scope) value path).issues) =
        alternatives.flatMap fun s => (family.attempt today value path s).issues := by
      rw [← List.flatMap_map _ Checked.issues, map_attempt_eq hfree, List.flatMap_map]
    rw [List.flatMap_append, hrelayed, List.flatMap_singleton, hlazy]
    rfl

/-- **All levels.** If no alternative accepts, there is a level for every lazy node that can
still be opened, and one more. The induction is on how many can be opened. -/
theorem exists_layered_of_fails (hfamily : family target = .orTarget alternatives target)
    (hfree : ∀ s ∈ alternatives, s.IsLazyFree)
    (h : ∀ s ∈ alternatives, ∃ found, family.attempt today value path s = .error found)
    {limit : Nat} (hlimit : scope.limitAt defaultDepth = limit) :
    ∃ issue, (Schema.orTarget alternatives target).attempt (family.env today scope) value path =
        .error (.single issue) ∧
      Issue.Layered value path
        (alternatives.flatMap fun s => (family.attempt today value path s).issues)
        (depthIssue path limit value) (limit - scope.depth + 1) issue := by
  induction hn : limit - scope.depth generalizing scope with
  | zero =>
    have hstop : ¬ scope.depth < scope.limitAt defaultDepth := by omega
    have hresolve : family.resolve today scope target defaultDepth value path =
        .error (.single (depthIssue path limit value)) := by
      rw [resolve_of_not_lt hstop, hlimit]
      rfl
    exact ⟨_, attempt_orTarget_of_fails hfree h hresolve, Issue.Layered.core.of_union _⟩
  | succ n ih =>
    have hopen : scope.depth < scope.limitAt defaultDepth := by omega
    -- the default does not lower the limit again
    have hinside : (scope.enter defaultDepth).limitAt defaultDepth = limit := by
      rw [← hlimit]
      simp only [Scope.enter, Scope.limitAt]
      omega
    have hdepth : limit - (scope.enter defaultDepth).depth = n := by
      show limit - (scope.depth + 1) = n
      omega
    obtain ⟨issue, hattempt, hlayered⟩ := ih hinside hdepth
    have hresolve : family.resolve today scope target defaultDepth value path =
        .error (.single issue) := by
      rw [resolve_of_lt hopen, hfamily]
      exact hattempt
    exact ⟨_, attempt_orTarget_of_fails hfree h hresolve, hlayered.of_union _⟩

/-- **One layer for each level.** A lazy node with a limit stands for the union of alternatives
without lazy nodes and, last, of a lazy node with the default limit that refers back to the union.
If the limit is zero, that is all it reports. Otherwise it does what the first alternative does
that accepts. If none accepts, it fails with one issue, and the smaller of the two limits says how
often the refusal of a union stands around the issue that names it. So the leaves are those of the
alternatives, repeated as often, and the issue about the limit at the end. -/
theorem left_recursion_is_layered (hfamily : family target = .orTarget alternatives target)
    (hfree : ∀ s ∈ alternatives, s.IsLazyFree) (today : Int) (limit : Nat) (value : Value)
    (path : Path) :
    (limit = 0 → family.attempt today value path (.lazy target limit {}) =
      Checked.fail (depthIssue path 0 value)) ∧
    (1 ≤ limit →
      (∀ output,
        alternatives.findSome? (fun s => (family.attempt today value path s).output?) = some output →
        family.attempt today value path (.lazy target limit {}) = .ok output) ∧
      ((∀ s ∈ alternatives, ∃ found, family.attempt today value path s = .error found) →
        ∃ issue, family.attempt today value path (.lazy target limit {}) =
            .error (.single issue) ∧
          Issue.Layered value path
            (alternatives.flatMap fun s => (family.attempt today value path s).issues)
            (depthIssue path (min limit 128) value) (min limit 128) issue ∧
          issue.leaves = (List.replicate (min limit 128)
              (alternatives.flatMap fun s => (family.attempt today value path s).leaves)).flatten ++
            [depthIssue path (min limit 128) value])) := by
  have hlazy : family.attempt today value path (.lazy target limit {}) =
      family.resolve today .outside target limit value path := Schema.attempt_lazy ..
  rw [hlazy]
  refine ⟨fun hzero => ?_, fun hpos => ?_⟩
  · subst hzero
    rw [resolve_of_not_lt (Nat.lt_irrefl 0)]
    rfl
  · have hopen : Scope.outside.depth < Scope.outside.limitAt limit := by
      simp only [Scope.outside, Scope.limitAt]
      omega
    have hresolve : family.resolve today .outside target limit value path =
        (Schema.orTarget alternatives target).attempt
          (family.env today (Scope.outside.enter limit)) value path := by
      rw [resolve_of_lt hopen, hfamily]
      rfl
    rw [hresolve]
    refine ⟨fun output houtput => attempt_orTarget_of_accepts hfree houtput _, fun hfails => ?_⟩
    have hlimit : (Scope.outside.enter limit).limitAt defaultDepth = min limit 128 := by
      simp only [Scope.outside, Scope.enter, Scope.limitAt, defaultDepth]
      omega
    have hlevels : min limit 128 - (Scope.outside.enter limit).depth + 1 = min limit 128 := by
      simp only [Scope.outside, Scope.enter]
      omega
    obtain ⟨issue, hissue, hlayered⟩ := exists_layered_of_fails hfamily hfree hfails hlimit
    rw [hlevels] at hlayered
    refine ⟨issue, hissue, hlayered, ?_⟩
    have hleaves : Issue.leavesOf
          (alternatives.flatMap fun s => (family.attempt today value path s).issues) =
        alternatives.flatMap fun s => (family.attempt today value path s).leaves := by
      simp only [Issue.leavesOf_eq_flatMap, List.flatMap_assoc, Checked.leaves]
    rw [hlayered.leaves_eq, hleaves, Issue.leaves_of_sub_eq_nil rfl]

/-- The family in which everything is a text, a boolean, or the same again. -/
def signs : Family := .orTarget [.text {} {}, .boolean {} {}]

/-- A null is no sign, which is found out on as many levels as there are by default. -/
theorem null_is_no_sign :
    signs ⟨"sign", none⟩ = .orTarget [.text {} {}, .boolean {} {}] ⟨"sign", none⟩ ∧
      (∀ s ∈ [Schema.text {} {}, .boolean {} {}], s.IsLazyFree) ∧ 1 ≤ 200 ∧
      (∀ s ∈ [Schema.text {} {}, .boolean {} {}],
        ∃ found, signs.attempt 0 .null .root s = .error found) ∧
      ∃ issue, signs.attempt 0 .null .root (.lazy ⟨"sign", none⟩ 200 {}) = .error (.single issue) ∧
        issue.leaves.map Issue.code =
          (List.replicate 128 ["invalid_type", "invalid_type"]).flatten ++ ["max_depth_exceeded"] := by
  have hfree : ∀ s ∈ [Schema.text {} {}, .boolean {} {}], s.IsLazyFree := by
    simp only [List.forall_mem_cons]
    exact ⟨.text trivial, .boolean trivial, nofun⟩
  have hfails : ∀ s ∈ [Schema.text {} {}, .boolean {} {}],
      ∃ found, signs.attempt 0 .null .root s = .error found := by
    simp only [List.forall_mem_cons]
    exact ⟨⟨_, rfl⟩, ⟨_, rfl⟩, nofun⟩
  obtain ⟨issue, hissue, -, hleaves⟩ :=
    ((left_recursion_is_layered rfl hfree 0 200 .null .root).2 (by decide)).2 hfails
  refine ⟨rfl, hfree, by decide, hfails, issue, hissue, ?_⟩
  rw [hleaves, List.map_append, List.map_flatten, List.map_replicate]
  rfl

end Family

end Conform
