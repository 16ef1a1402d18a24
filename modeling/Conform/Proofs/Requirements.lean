import Conform.Proofs.Uniqueness
/-!
# Requirements — what is asked of an array, and what it reports

An array is described by calls: some state a constraint, some give a message,
and a message is meant for the constraint stated last. `ArrayCall.requirements` reads
off the calls which constraints there are and which message each of them ends up
with, and building one call after the other comes to the same.

The main result is what such an array makes of its input. It accepts where the
length is admitted, the elements pass and no key is repeated. What it reports
are the constraints that refuse the length, and behind them one issue about the elements
that fail, or one for every repetition if none does.
-/


namespace Conform

/-! ## Calls that state constraints -/

/-- What a call contributes to a list of constraints. -/
inductive Contribution (γ : Type) where
  | constraint (c : γ)
  | message (text : String)
  | other

namespace Contribution

variable {γ : Type}

def isConstraint : Contribution γ → Bool
  | constraint _ => true
  | _ => false

def message? : Contribution γ → Option String
  | message text => some text
  | _ => none

/-- The last message given before the next constraint is stated. -/
def lastMessage (calls : List (Contribution γ)) : Option String :=
  ((calls.takeWhile fun call => !call.isConstraint).filterMap message?).getLast?

/-- The constraints in the order in which they are stated, each with the last message
given between it and the next one. -/
def stated : List (Contribution γ) → List (γ × Option String)
  | [] => []
  | constraint c :: later => (c, lastMessage later) :: stated later
  | _ :: later => stated later

variable (later : List (Contribution γ))

@[simp] theorem lastMessage_nil : lastMessage ([] : List (Contribution γ)) = none := rfl

@[simp] theorem lastMessage_constraint (c : γ) : lastMessage (constraint c :: later) = none := rfl

/-- A message counts unless another one follows. -/
@[simp] theorem lastMessage_message (text : String) :
    lastMessage (message text :: later) = (lastMessage later).or (some text) := by
  have hcons : lastMessage (message text :: later) = (text ::
      (later.takeWhile fun call => !call.isConstraint).filterMap message?).getLast? := rfl
  rw [hcons, List.getLast?_cons, lastMessage]
  cases ((later.takeWhile fun call => !call.isConstraint).filterMap message?).getLast? <;> rfl

@[simp] theorem lastMessage_other : lastMessage (other :: later) = lastMessage later := rfl

@[simp] theorem stated_constraint (c : γ) :
    stated (constraint c :: later) = (c, lastMessage later) :: stated later := rfl

@[simp] theorem stated_message (text : String) : stated (message text :: later) = stated later := rfl

@[simp] theorem stated_other : stated (other :: later) = stated later := rfl

end Contribution

/-- A call that describes an array. -/
inductive ArrayCall where
  | minLength (bound : Nat)
  | maxLength (bound : Nat)
  | length (bound : Nat)
  | nonEmpty
  | unique
  | uniqueBy (key : Value → Value)
  | withoutDuplicates
  | message (text : String)

namespace ArrayRule

/-- The rule after one more call. -/
def call (r : ArrayRule) : ArrayCall → ArrayRule
  | .minLength bound => r.constrain (.minLength bound)
  | .maxLength bound => r.constrain (.maxLength bound)
  | .length bound => r.constrain (.length bound)
  | .nonEmpty => r.nonEmpty
  | .unique => r.constrain .unique
  | .uniqueBy key => r.constrain (.uniqueBy key)
  | .withoutDuplicates => r.withoutDuplicates
  | .message text => r.withMessage text

/-- The rule that a sequence of calls builds. -/
def ofCalls (calls : List ArrayCall) : ArrayRule := calls.foldl call {}

end ArrayRule

namespace ArrayCall

def contribution : ArrayCall → Contribution ArrayConstraint
  | minLength bound => .constraint (.minLength bound)
  | maxLength bound => .constraint (.maxLength bound)
  | length bound => .constraint (.length bound)
  | nonEmpty => .constraint (.minLength 1)
  | unique => .constraint .unique
  | uniqueBy key => .constraint (.uniqueBy key)
  | withoutDuplicates => .other
  | message text => .message text

/-- The constraints that calls state, each with its message. -/
def requirements (calls : List ArrayCall) : List (ArrayConstraint × Option String) :=
  Contribution.stated (calls.map contribution)

end ArrayCall

namespace ArrayRule

variable {r : ArrayRule} {c : ArrayConstraint} {call : ArrayCall} {calls : List ArrayCall}
  {before : List (ArrayConstraint × Option String)} {given : Option String} {text : String}

/-! ### One call -/

theorem constraints_call_constraint (h : call.contribution = .constraint c) :
    (r.call call).constraints = r.constraints ++ [(c, none)] := by
  cases call <;> cases h <;> rfl

theorem constraints_call_other (h : call.contribution = .other) :
    (r.call call).constraints = r.constraints := by
  cases call <;> cases h
  rfl

/-- A message is given to the constraint stated last, -/
theorem constraints_call_message (h : call.contribution = .message text)
    (hr : r.constraints = before ++ [(c, given)]) :
    (r.call call).constraints = before ++ [(c, some text)] := by
  cases call <;> cases h
  have hne : r.constraints ≠ [] := by simp [hr]
  have hlast : (r.withMessage text).constraints =
      r.constraints.modify (r.constraints.length - 1) fun entry => (entry.1, some text) := by
    unfold withMessage
    split
    · contradiction
    · rfl
  rw [ArrayRule.call, hlast, hr]
  simp [List.modify_eq_take_drop]

/-- and changes no constraints where there are none. -/
theorem constraints_call_message_of_nil (h : call.contribution = .message text)
    (hr : r.constraints = []) : (r.call call).constraints = [] := by
  cases call <;> cases h
  rw [ArrayRule.call, withMessage, hr]

theorem dedupe_call (h : call ≠ .withoutDuplicates) : (r.call call).dedupe = r.dedupe := by
  cases call with
  | withoutDuplicates => exact absurd rfl h
  | message text =>
    rw [ArrayRule.call, withMessage]
    split <;> rfl
  | minLength | maxLength | length | nonEmpty | unique | uniqueBy => rfl

/-! ### All calls -/

/-- Behind a constraint, the next message before another constraint is its own. -/
theorem constraints_foldl (hr : r.constraints = before ++ [(c, given)]) :
    (calls.foldl ArrayRule.call r).constraints =
      before ++ (c, (Contribution.lastMessage (calls.map ArrayCall.contribution)).or given) ::
        ArrayCall.requirements calls := by
  induction calls generalizing r before c given with
  | nil => simpa [ArrayCall.requirements, Contribution.stated] using hr
  | cons call later ih =>
    rw [List.foldl_cons]
    cases hcall : call.contribution with
    | constraint c' =>
      rw [ih ((constraints_call_constraint hcall).trans (by rw [hr]))]
      simp [ArrayCall.requirements, hcall]
    | message text =>
      rw [ih (constraints_call_message hcall hr)]
      simp [ArrayCall.requirements, hcall]
    | other =>
      rw [ih ((constraints_call_other hcall).trans hr)]
      simp [ArrayCall.requirements, hcall]

/-- Before the first constraint, messages are lost. -/
theorem constraints_foldl_of_nil (hr : r.constraints = []) :
    (calls.foldl ArrayRule.call r).constraints = ArrayCall.requirements calls := by
  induction calls generalizing r with
  | nil => exact hr
  | cons call later ih =>
    rw [List.foldl_cons]
    cases hcall : call.contribution with
    | constraint c =>
      have hone : (r.call call).constraints = [] ++ [(c, none)] := by
        rw [constraints_call_constraint hcall, hr]
      rw [constraints_foldl hone]
      simp [ArrayCall.requirements, hcall]
    | message text =>
      rw [ih (constraints_call_message_of_nil hcall hr)]
      simp [ArrayCall.requirements, hcall]
    | other =>
      rw [ih ((constraints_call_other hcall).trans hr)]
      simp [ArrayCall.requirements, hcall]

/-- **Calls build the constraints they state**, with their messages. -/
theorem constraints_ofCalls (calls : List ArrayCall) :
    (ofCalls calls).constraints = ArrayCall.requirements calls := constraints_foldl_of_nil rfl

/-- Duplicates are left out only on demand. -/
theorem dedupe_foldl (h : ArrayCall.withoutDuplicates ∉ calls) :
    (calls.foldl ArrayRule.call r).dedupe = r.dedupe := by
  induction calls generalizing r with
  | nil => rfl
  | cons call later ih =>
    obtain ⟨hcall, hlater⟩ := not_or.1 (List.mem_cons.not.1 h)
    rw [List.foldl_cons, ih hlater, dedupe_call fun heq => hcall heq.symm]

theorem dedupe_ofCalls (h : ArrayCall.withoutDuplicates ∉ calls) :
    (ofCalls calls).dedupe = false := dedupe_foldl h

end ArrayRule

/-! ## What a constraint asks for and reports -/

namespace ArrayConstraint

/-- The constraint admits arrays of a length. Those on uniqueness admit all. -/
def Admits (length : Nat) : ArrayConstraint → Prop
  | minLength bound => bound ≤ length
  | maxLength bound => length ≤ bound
  | ArrayConstraint.length bound => length = bound
  | unique => True
  | uniqueBy _ => True

instance (length : Nat) : DecidablePred (Admits length)
  | minLength bound => inferInstanceAs (Decidable (bound ≤ length))
  | maxLength bound => inferInstanceAs (Decidable (length ≤ bound))
  | ArrayConstraint.length bound => inferInstanceAs (Decidable (length = bound))
  | unique => inferInstanceAs (Decidable True)
  | uniqueBy _ => inferInstanceAs (Decidable True)

/-- The code of what the constraint reports. -/
def code : ArrayConstraint → String
  | minLength _ => "min_length"
  | maxLength _ => "max_length"
  | length _ => "length"
  | unique => "unique"
  | uniqueBy _ => "unique"

/-- The message about a length, if no other is given. -/
def lengthMessage (length : Nat) : ArrayConstraint → String
  | minLength bound => s!"array must have at least {bound} items, got {length}"
  | maxLength bound => s!"array must have at most {bound} items, got {length}"
  | ArrayConstraint.length bound => s!"array must have exactly {bound} items, got {length}"
  | unique => ""
  | uniqueBy _ => ""

/-- The number of items that is expected. -/
def expected? : ArrayConstraint → Option String
  | minLength bound => some s!"at least {bound} items"
  | maxLength bound => some s!"at most {bound} items"
  | length bound => some s!"{bound} items"
  | unique => none
  | uniqueBy _ => none

/-- The issue of an array whose length is refused. -/
def lengthIssue (c : ArrayConstraint) (message : Option String) (items : List Value) (path : Path) :
    Issue where
  path := path
  kind := .refinement
  code := c.code
  message := message.getD (c.lengthMessage items.length)
  value := some (.array items)
  expected := c.expected?

/-- What is compared, as it is called in a message. -/
def subject : ArrayConstraint → String
  | uniqueBy _ => "key"
  | _ => "value"

/-- The issue of elements at some positions that are not to be equal. -/
def repetitionIssue (c : ArrayConstraint) (message : Option String) (items : List Value)
    (path : Path) (indices : List Nat) : Issue where
  path := path
  kind := .refinement
  code := c.code
  message := message.getD s!"duplicate {c.subject} at indices {indicesText indices}"
  value := some (.array items)

/-- The texts that a constraint on uniqueness compares. -/
def texts? (outputs : List Value) (c : ArrayConstraint) : Option (List String) :=
  c.key?.map fun key => outputs.map fun output => (key output).text

variable {c : ArrayConstraint} {message : Option String} {items outputs : List Value} {path : Path}

theorem lengthIssues_eq :
    c.lengthIssues message items.length (.array items) path =
      if c.Admits items.length then [] else [c.lengthIssue message items path] := by
  cases c <;> rfl

theorem uniquenessIssues_eq :
    c.uniquenessIssues message outputs (.array items) path =
      (c.texts? outputs).elim [] fun texts =>
        (repetitions texts).map (c.repetitionIssue message items path) := by
  cases c with
  | unique =>
    unfold uniquenessIssues
    dsimp only [uniqueKeys?]
    rw [findDuplicates_eq]
    rfl
  | uniqueBy key =>
    unfold uniquenessIssues
    dsimp only [uniqueKeys?]
    rw [findDuplicates_eq]
    rfl
  | _ => rfl

end ArrayConstraint

namespace ArrayRule

variable {r : ArrayRule} {items outputs : List Value} {path : Path} {results : List (Checked Value)}

/-- What is reported about the length: an issue for each constraint that refuses it. -/
def lengthFindings (requirements : List (ArrayConstraint × Option String)) (items : List Value)
    (path : Path) : List Issue :=
  (requirements.filter fun (c, _) => ¬ c.Admits items.length).map fun (c, message) =>
    c.lengthIssue message items path

/-- What is reported about repetitions: an issue for each group of elements that a
constraint wants to be different. -/
def repetitionFindings (requirements : List (ArrayConstraint × Option String))
    (outputs items : List Value) (path : Path) : List Issue :=
  requirements.flatMap fun (c, message) => (c.texts? outputs).elim [] fun texts =>
    (repetitions texts).map (c.repetitionIssue message items path)

theorem lengthIssues_eq_findings :
    r.lengthIssues items.length (.array items) path = lengthFindings r.constraints items path := by
  unfold lengthIssues lengthFindings
  induction r.constraints with
  | nil => rfl
  | cons entry rest ih =>
    obtain ⟨c, message⟩ := entry
    rw [List.flatMap_cons, ih, List.filter_cons]
    dsimp only
    rw [ArrayConstraint.lengthIssues_eq]
    by_cases h : c.Admits items.length <;> simp [h]

theorem uniquenessIssues_eq_findings :
    r.uniquenessIssues outputs (.array items) path =
      repetitionFindings r.constraints outputs items path := by
  unfold uniquenessIssues repetitionFindings
  simp only [ArrayConstraint.uniquenessIssues_eq]

theorem lengthFindings_eq_nil_iff {requirements : List (ArrayConstraint × Option String)} :
    lengthFindings requirements items path = [] ↔
      ∀ c message, (c, message) ∈ requirements → c.Admits items.length := by
  simp [lengthFindings]

theorem repetitionFindings_eq_nil_iff {requirements : List (ArrayConstraint × Option String)} :
    repetitionFindings requirements outputs items path = [] ↔
      ∀ c message texts, (c, message) ∈ requirements → c.texts? outputs = some texts →
        texts.Nodup := by
  have hone (c : ArrayConstraint) (message : Option String) :
      ((c.texts? outputs).elim [] fun texts =>
          (repetitions texts).map (c.repetitionIssue message items path)) = [] ↔
        ∀ texts, c.texts? outputs = some texts → texts.Nodup := by
    cases c.texts? outputs with
    | none => simp
    | some texts =>
      rw [Option.elim_some, List.map_eq_nil_iff, ← findDuplicates_eq, findDuplicates_eq_nil_iff]
      simp
  unfold repetitionFindings
  rw [List.flatMap_eq_nil_iff]
  constructor
  · intro h c message texts hmem htexts
    exact (hone c message).1 (h (c, message) hmem) texts htexts
  · rintro h ⟨c, message⟩ hmem
    exact (hone c message).2 fun texts => h c message texts hmem

end ArrayRule

/-! ## Arrays of schemas -/

namespace Schema

variable {item : Schema} {calls : List ArrayCall} {m : Modifiers (List Value)} {env : Env}
  {items outputs : List Value} {path : Path}

/-- Without hooks, an array does what its rule concludes from its elements. -/
theorem attempt_array (hm : m.HookFree) (r : ArrayRule) :
    (array item r m).attempt env (.array items) path =
      (r.conclude items path ((item.validator env).onItems items path)).map .array := by
  rw [attempt, validator_array, Validator.array, hm.validator_present]
  rfl

/-- An array passes with what its rule makes of the outputs, if nothing is found. -/
theorem attempt_array_ofCalls_eq_ok_iff (hm : m.HookFree) {output : Value} :
    (array item (.ofCalls calls) m).attempt env (.array items) path = .ok output ↔
      ∃ outputs : List Value, (item.validator env).onItems items path = outputs.map .ok ∧
        ArrayRule.lengthFindings (ArrayCall.requirements calls) items path = [] ∧
        ArrayRule.repetitionFindings (ArrayCall.requirements calls) outputs items path = [] ∧
        output = .array ((ArrayRule.ofCalls calls).outputOf outputs) := by
  rw [attempt_array hm, Checked.map_eq_ok_iff]
  simp only [ArrayRule.conclude_eq_ok_iff, ArrayRule.lengthIssues_eq_findings,
    ArrayRule.uniquenessIssues_eq_findings, ArrayRule.constraints_ofCalls]
  constructor
  · rintro ⟨_, ⟨outputs, houtputs, hlength, hunique, rfl⟩, rfl⟩
    exact ⟨outputs, houtputs, hlength, hunique, rfl⟩
  · rintro ⟨outputs, houtputs, hlength, hunique, rfl⟩
    exact ⟨_, ⟨outputs, houtputs, hlength, hunique, rfl⟩, rfl⟩

theorem exists_attempt_array_ofCalls_eq_ok_iff (hm : m.HookFree) :
    (∃ output, (array item (.ofCalls calls) m).attempt env (.array items) path = .ok output) ↔
      (∀ c message, (c, message) ∈ ArrayCall.requirements calls → c.Admits items.length) ∧
      ∃ outputs, (item.validator env).onItems items path = outputs.map .ok ∧
        ∀ c message texts, (c, message) ∈ ArrayCall.requirements calls →
          c.texts? outputs = some texts → texts.Nodup := by
  simp only [attempt_array_ofCalls_eq_ok_iff hm, ArrayRule.lengthFindings_eq_nil_iff,
    ArrayRule.repetitionFindings_eq_nil_iff]
  constructor
  · rintro ⟨_, outputs, houtputs, hlength, hunique, -⟩
    exact ⟨hlength, outputs, houtputs, hunique⟩
  · rintro ⟨hlength, outputs, houtputs, hunique⟩
    exact ⟨_, outputs, houtputs, hlength, hunique, rfl⟩

/-- Where all elements pass, repetitions stand behind what is said about the length. -/
theorem issues_attempt_array_of_pass (hm : m.HookFree)
    (h : (item.validator env).onItems items path = outputs.map .ok) :
    ((array item (.ofCalls calls) m).attempt env (.array items) path).issues =
      ArrayRule.lengthFindings (ArrayCall.requirements calls) items path ++
        ArrayRule.repetitionFindings (ArrayCall.requirements calls) outputs items path := by
  rw [attempt_array hm, Checked.issues_map, ArrayRule.issues_conclude,
    Checked.collect_eq_ok_iff.2 h, ArrayRule.lengthIssues_eq_findings,
    ArrayRule.constraints_ofCalls]
  dsimp only
  rw [ArrayRule.uniquenessIssues_eq_findings, ArrayRule.constraints_ofCalls]

/-- Where an element fails, one issue about all elements stands there. -/
theorem issues_attempt_array_of_fail (hm : m.HookFree)
    (h : ∃ (i : Nat) (h : i < items.length) (found : Issues),
      item.attempt env items[i] (path.index i) = .error found) :
    ∃ sub : Issues, sub.toList =
        (items.zipIdx.flatMap fun (value, i) => (item.attempt env value (path.index i)).issues) ∧
      ((array item (.ofCalls calls) m).attempt env (.array items) path).issues =
        ArrayRule.lengthFindings (ArrayCall.requirements calls) items path ++
          [ArrayRule.failure path (.array items) sub] := by
  have hsub : ((item.validator env).onItems items path).flatMap Checked.issues =
      items.zipIdx.flatMap fun (value, i) => (item.attempt env value (path.index i)).issues := by
    rw [Validator.onItems, List.flatMap_map]
    rfl
  cases hcollect : Checked.collect ((item.validator env).onItems items path) with
  | ok outputs =>
    obtain ⟨i, hi, found, hfound⟩ := h
    obtain ⟨hlength, hpass⟩ :=
      Validator.onItems_eq_map_ok_iff.1 (Checked.collect_eq_ok_iff.1 hcollect)
    rw [attempt, hpass i hi (by omega)] at hfound
    cases hfound
  | error sub =>
    refine ⟨sub, (Checked.collect_eq_error_iff.1 hcollect).trans hsub, ?_⟩
    rw [attempt_array hm, Checked.issues_map, ArrayRule.issues_conclude, hcollect,
      ArrayRule.lengthIssues_eq_findings, ArrayRule.constraints_ofCalls]

/-- **What an array accepts and what it reports.** An array described by calls and
without hooks accepts where its constraints admit the length, the elements pass, and no
constraint on uniqueness sees a text twice. It reports the constraints that refuse
the length, in the order in which they are stated. Behind them comes one issue with
those of all elements, in their order, if one fails, and otherwise the repetitions,
constraint by constraint and in the order of first occurrences. Each
constraint has the last message given before the next one. Where duplicates are
not left out, the output has the outputs of the elements at their positions. -/
theorem array_meets_requirements (hm : m.HookFree) (item : Schema) (calls : List ArrayCall)
    (env : Env) (items : List Value) (path : Path) :
    ((∃ output, (array item (.ofCalls calls) m).attempt env (.array items) path = .ok output) ↔
      (∀ c message, (c, message) ∈ ArrayCall.requirements calls → c.Admits items.length) ∧
      ∃ outputs, (item.validator env).onItems items path = outputs.map .ok ∧
        ∀ c message texts, (c, message) ∈ ArrayCall.requirements calls →
          c.texts? outputs = some texts → texts.Nodup) ∧
    ((∃ (i : Nat) (h : i < items.length) (found : Issues),
        item.attempt env items[i] (path.index i) = .error found) →
      ∃ sub : Issues, sub.toList =
          (items.zipIdx.flatMap fun (value, i) => (item.attempt env value (path.index i)).issues) ∧
        ((array item (.ofCalls calls) m).attempt env (.array items) path).issues =
          ArrayRule.lengthFindings (ArrayCall.requirements calls) items path ++
            [ArrayRule.failure path (.array items) sub]) ∧
    (∀ outputs, (item.validator env).onItems items path = outputs.map .ok →
      ((array item (.ofCalls calls) m).attempt env (.array items) path).issues =
        ArrayRule.lengthFindings (ArrayCall.requirements calls) items path ++
          ArrayRule.repetitionFindings (ArrayCall.requirements calls) outputs items path) ∧
    (ArrayCall.withoutDuplicates ∉ calls → ∀ output,
      (array item (.ofCalls calls) m).attempt env (.array items) path = .ok output →
        ∃ outputs : List Value, output = .array outputs ∧ items.length = outputs.length ∧
          ∀ (i : Nat) (h : i < items.length) (h' : i < outputs.length),
            item.attempt env items[i] (path.index i) = .ok outputs[i]) := by
  refine ⟨exists_attempt_array_ofCalls_eq_ok_iff hm, issues_attempt_array_of_fail hm,
    fun outputs houtputs => issues_attempt_array_of_pass hm houtputs, fun hkeeps output houtput => ?_⟩
  obtain ⟨outputs, houtputs, -, -, rfl⟩ := (attempt_array_ofCalls_eq_ok_iff hm).1 houtput
  have houtput : (ArrayRule.ofCalls calls).outputOf outputs = outputs := by
    rw [ArrayRule.outputOf, ArrayRule.dedupe_ofCalls hkeeps]
    rfl
  rw [houtput]
  exact ⟨outputs, rfl, Validator.onItems_eq_map_ok_iff.1 houtputs⟩

/-- The calls for a list of three different names, with messages of its own. -/
def crewCalls : List ArrayCall :=
  [.message "not a list", .minLength 3, .message "three names", .withoutDuplicates,
    .message "too few names", .unique, .maxLength 1]

example : ArrayCall.requirements crewCalls =
    [(.minLength 3, some "too few names"), (.unique, none), (.maxLength 1, none)] := rfl

/-- A list with one name twice is too short, too long, and repeats itself. -/
theorem crew_meets_requirements :
    ({} : Modifiers (List Value)).HookFree ∧
      ((array (text {} {}) (.ofCalls crewCalls) {}).attempt inMachine
          (.array [.string "bolt", .string "bolt"]) .root).issues =
        ArrayRule.lengthFindings (ArrayCall.requirements crewCalls)
            [.string "bolt", .string "bolt"] .root ++
          ArrayRule.repetitionFindings (ArrayCall.requirements crewCalls)
            [.string "bolt", .string "bolt"] [.string "bolt", .string "bolt"] .root ∧
      (ArrayRule.lengthFindings (ArrayCall.requirements crewCalls)
          [.string "bolt", .string "bolt"] .root).map Issue.message =
        ["too few names", "array must have at most 1 items, got 2"] ∧
      (ArrayRule.repetitionFindings (ArrayCall.requirements crewCalls)
          [.string "bolt", .string "bolt"] [.string "bolt", .string "bolt"] .root).map
            Issue.message = ["duplicate value at indices [0, 1]"] := by
  have hm : ({} : Modifiers (List Value)).HookFree := ⟨rfl, rfl, rfl⟩
  have hpass : ((text {} {}).validator inMachine).onItems [.string "bolt", .string "bolt"] .root =
      [Value.string "bolt", .string "bolt"].map .ok := rfl
  obtain ⟨-, -, hissues, -⟩ := array_meets_requirements hm (text {} {}) crewCalls inMachine
    [.string "bolt", .string "bolt"] .root
  refine ⟨hm, hissues _ hpass, ?_, ?_⟩
  · rfl
  · rfl

end Schema

end Conform
