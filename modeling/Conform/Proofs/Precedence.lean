import Conform.Proofs.Ranking
/-!
# Precedence — rules whose constraints are checked in the order of their ranks

Strings and numbers are described by calls in any order. Some state a constraint, some
give a message, and the others say how the input is read and transformed, or what to do
about absence. `Builder` is what the two kinds have in common: which call does
what, and that the calls on constraints and all others do not see each other.

The main result is `Builder.Orderly`. It says which constraints a sequence of
calls leaves behind and which of them is reported, and that the order of calls on
constraints of different ranks makes no difference.
-/


namespace Conform

/-! ## Calls -/

/-- A call that every validator takes. -/
inductive ModifierCall (α : Type) where
  | strict
  | coerce
  | acceptAbsent
  | withDefault (output : α)
  | preTransform (f : Value → Value)
  | postTransform (f : α → α)
  | setCustom (check : α → Path → Checked α)
  | refine (accepts : α → Bool) (message : String)

/-- The modifiers after one more call. -/
def Modifiers.call {α : Type} (m : Modifiers α) : ModifierCall α → Modifiers α
  | .strict => m.beStrict
  | .coerce => m.coerce
  | .acceptAbsent => m.acceptAbsent
  | .withDefault output => m.withDefault output
  | .preTransform f => m.preTransform f
  | .postTransform f => m.postTransform f
  | .setCustom check => m.setCustom check
  | .refine accepts message => m.refine accepts message

/-- A call that describes a string. -/
inductive TextCall where
  | constrain (c : TextConstraint)
  | matching (pattern : String)
  | message (text : String)
  | trim
  | inCase (casing : Casing)
  | prepend (text : String)
  | append (text : String)
  | replace (source target : String)
  | replacePattern (pattern target : String)

/-- The rule after one more call. A pattern that cannot be read is refused. -/
def TextRule.call (r : TextRule) : TextCall → Except SchemaFault TextRule
  | .constrain c => .ok (r.constrain c)
  | .matching pattern => r.matching pattern
  | .message text => .ok (r.withMessage text)
  | .trim => .ok r.trim
  | .inCase casing => .ok (r.inCase casing)
  | .prepend text => .ok (r.prepend text)
  | .append text => .ok (r.append text)
  | .replace source target => .ok (r.replace source target)
  | .replacePattern pattern target => r.replacePattern pattern target

/-- The pattern of the call, if it has one, can be read. -/
def TextCall.IsReadable : TextCall → Prop
  | matching pattern => (Regex.ofText? pattern).isSome
  | replacePattern pattern _ => (Regex.ofText? pattern).isSome
  | _ => True

def TextCall.contribution : TextCall → Contribution TextConstraint
  | constrain c => .constraint c
  | matching pattern =>
    match Regex.ofText? pattern with
    | some regex => .constraint (.pattern regex pattern)
    | none => .other
  | message text => .message text
  | _ => .other

/-- A call that describes a number. -/
inductive NumberCall where
  | constrain (c : NumberConstraint)
  | message (text : String)
  | roundTo (rounding : Rounding)
  | clamp (a b : Binary64)

/-- The rule after one more call. -/
def NumberRule.call (r : NumberRule) : NumberCall → NumberRule
  | .constrain c => r.constrain c
  | .message text => r.withMessage text
  | .roundTo rounding => r.roundTo rounding
  | .clamp a b => r.clamp a b

def NumberCall.contribution : NumberCall → Contribution NumberConstraint
  | constrain c => .constraint c
  | message text => .message text
  | _ => .other

/-! ## Builders -/

/-- A kind of rule with constraints of the type `κ` on outputs of the type `α`. The calls on
it either change the constraints or leave them alone, and those that change them change
nothing else. -/
structure Builder (γ ρ κ α : Type) where
  initial : ρ
  call : ρ → γ → Except SchemaFault ρ
  /-- The call can be made. -/
  Accepts : γ → Prop
  contribution : γ → Contribution κ
  constraints : ρ → Ranked κ
  /-- The rule without its constraints. -/
  bare : ρ → ρ
  rank : κ → Nat
  holds : κ → α → Bool
  issue? : κ → Option String → α → Path → Option Issue
  read : ρ → Bool → Value → Path → Checked α
  transform : ρ → α → α
  check : ρ → Bool → Value → Path → Checked α
  toValue : α → Value
  schema : ρ → Modifiers α → Schema
  exists_call_iff {r : ρ} {c : γ} : (∃ r', call r c = .ok r') ↔ Accepts c
  constraints_initial : constraints initial = {}
  constraints_of_call {r r' : ρ} {c : γ} : call r c = .ok r' →
    constraints r' = (constraints r).contribute rank (contribution c)
  map_bare_call_of_isOther {r : ρ} {c : γ} : (contribution c).isOther →
    (call r c).map bare = call (bare r) c
  exists_call_of_not_isOther {r : ρ} {c : γ} : ¬ (contribution c).isOther →
    ∃ r', call r c = .ok r' ∧ bare r' = bare r
  issue?_eq_none_iff (a : α) (path : Path) (c : κ) (message : Option String) :
    issue? c message a path = none ↔ holds c a
  message_of_issue? {c : κ} {text : String} {a : α} {path : Path} {issue : Issue} :
    issue? c (some text) a path = some issue → issue.message = text
  read_congr {r r' : ρ} : bare r = bare r' →
    (constraints r).typeMessage = (constraints r').typeMessage → read r = read r'
  transform_congr {r r' : ρ} : bare r = bare r' → transform r = transform r'
  check_eq (r : ρ) (strict : Bool) (value : Value) (path : Path) :
    check r strict value path = read r strict value path >>= fun a =>
      (constraints r).verify (transform r a) fun c message => issue? c message (transform r a) path
  validator_schema (r : ρ) (m : Modifiers α) (env : Env) :
    (schema r m).validator env = m.validator (check r m.strict) toValue

namespace Builder

/-- Rules for strings. -/
def text : Builder TextCall TextRule TextConstraint String where
  initial := {}
  call := TextRule.call
  Accepts := TextCall.IsReadable
  contribution := TextCall.contribution
  constraints := TextRule.constraints
  bare r := { r with constraints := {} }
  rank := TextConstraint.rank
  holds := TextConstraint.holds
  issue? := TextConstraint.issue?
  read := TextRule.read
  transform := TextRule.transform
  check := TextRule.check
  toValue := .string
  schema := .text
  exists_call_iff {r c} := by
    cases c with
    | matching pattern =>
      simp only [TextRule.call, TextRule.matching, TextCall.IsReadable]
      cases Regex.ofText? pattern <;> simp
    | replacePattern pattern target =>
      simp only [TextRule.call, TextRule.replacePattern, TextCall.IsReadable]
      cases Regex.ofText? pattern <;> simp
    | _ => exact iff_of_true ⟨_, rfl⟩ trivial
  constraints_initial := rfl
  constraints_of_call {r r' c} h := by
    cases c with
    | matching pattern =>
      simp only [TextRule.call, TextRule.matching] at h
      cases hpattern : Regex.ofText? pattern with
      | some regex =>
        rw [hpattern] at h
        cases h
        simp only [TextCall.contribution, hpattern]
        rfl
      | none =>
        rw [hpattern] at h
        cases h
    | replacePattern pattern target =>
      simp only [TextRule.call, TextRule.replacePattern] at h
      split at h <;> cases h
      rfl
    | _ => cases h; rfl
  map_bare_call_of_isOther {r c} h := by
    cases c with
    | constrain c => cases h
    | message text => cases h
    | matching pattern =>
      cases hpattern : Regex.ofText? pattern with
      | some regex => simp [TextCall.contribution, hpattern, Contribution.isOther] at h
      | none => simp only [TextRule.call, TextRule.matching, hpattern]; rfl
    | replacePattern pattern target =>
      simp only [TextRule.call, TextRule.replacePattern]
      split <;> rfl
    | _ => rfl
  exists_call_of_not_isOther {r c} h := by
    cases c with
    | constrain c => exact ⟨_, rfl, rfl⟩
    | message text => exact ⟨_, rfl, rfl⟩
    | matching pattern =>
      cases hpattern : Regex.ofText? pattern with
      | some regex =>
        refine ⟨r.constrain (.pattern regex pattern), ?_, rfl⟩
        simp only [TextRule.call, TextRule.matching, hpattern]
      | none => simp [TextCall.contribution, hpattern, Contribution.isOther] at h
    | _ => exact absurd rfl h
  issue?_eq_none_iff _ _ _ _ := TextConstraint.issue?_eq_none_iff
  message_of_issue? h := by
    unfold TextConstraint.issue? at h
    split at h <;> cases h
    rfl
  read_congr _ hmessage := by
    funext strict value path
    simp only [TextRule.read, hmessage]
  transform_congr h := by
    simp only [TextRule.mk.injEq, and_true] at h
    funext s
    simp only [TextRule.transform, h]
  check_eq _ _ _ _ := rfl
  validator_schema _ _ _ := rfl

/-- Rules for numbers. -/
def number : Builder NumberCall NumberRule NumberConstraint Binary64 where
  initial := {}
  call r c := .ok (r.call c)
  Accepts _ := True
  contribution := NumberCall.contribution
  constraints := NumberRule.constraints
  bare r := { r with constraints := {} }
  rank := NumberConstraint.rank
  holds := NumberConstraint.holds
  issue? := NumberConstraint.issue?
  read := NumberRule.read
  transform := NumberRule.transform
  check := NumberRule.check
  toValue := Binary64.toValue
  schema := .number
  exists_call_iff := iff_of_true ⟨_, rfl⟩ trivial
  constraints_initial := rfl
  constraints_of_call {r r' c} h := by
    cases c <;> cases h <;> rfl
  map_bare_call_of_isOther {r c} h := by
    cases c with
    | constrain c => cases h
    | message text => cases h
    | _ => rfl
  exists_call_of_not_isOther {r c} h := by
    cases c with
    | constrain c => exact ⟨_, rfl, rfl⟩
    | message text => exact ⟨_, rfl, rfl⟩
    | _ => exact absurd rfl h
  issue?_eq_none_iff _ _ _ _ := NumberConstraint.issue?_eq_none_iff
  message_of_issue? h := by
    unfold NumberConstraint.issue? at h
    split at h
    · cases h
    · split at h <;> cases h <;> rfl
  read_congr _ hmessage := by
    funext strict value path
    simp only [NumberRule.read, NumberRule.read.mismatch, hmessage]
  transform_congr h := by
    simp only [NumberRule.mk.injEq, and_true] at h
    funext n
    simp only [NumberRule.transform, h]
  check_eq _ _ _ _ := rfl
  validator_schema _ _ _ := rfl

variable {γ ρ κ α : Type} {b : Builder γ ρ κ α} {calls calls' : List (γ ⊕ ModifierCall α)}
  {built built' : ρ × Modifiers α} {call : γ ⊕ ModifierCall α} {r r' : ρ} {m : Modifiers α}
  {value : Value} {path : Path} {a : α}

/-- The rule and its modifiers after one more call. -/
def step (b : Builder γ ρ κ α) (built : ρ × Modifiers α) :
    γ ⊕ ModifierCall α → Except SchemaFault (ρ × Modifiers α)
  | .inl call => (b.call built.1 call).map fun rule => (rule, built.2)
  | .inr call => .ok (built.1, built.2.call call)

/-- What a sequence of calls builds, if all of them are accepted. -/
def build (b : Builder γ ρ κ α) (calls : List (γ ⊕ ModifierCall α)) :
    Except SchemaFault (ρ × Modifiers α) :=
  calls.foldlM b.step (b.initial, {})

/-- What a call contributes to the constraints. Modifiers contribute nothing. -/
def contributionOf (b : Builder γ ρ κ α) : γ ⊕ ModifierCall α → Contribution κ
  | .inl call => b.contribution call
  | .inr _ => .other

/-- The constraints that calls state, each with its message. -/
def stated (b : Builder γ ρ κ α) (calls : List (γ ⊕ ModifierCall α)) : List (κ × Option String) :=
  Contribution.stated (calls.map b.contributionOf)

/-- The calls that state a constraint or give a message, as such. -/
def statements (b : Builder γ ρ κ α) (calls : List (γ ⊕ ModifierCall α)) : List (Contribution κ) :=
  (calls.map b.contributionOf).filter (!·.isOther)

/-- The calls that do neither. -/
def others (b : Builder γ ρ κ α) (calls : List (γ ⊕ ModifierCall α)) : List (γ ⊕ ModifierCall α) :=
  calls.filter fun call => (b.contributionOf call).isOther

/-- Possibly absent input at a path. -/
def parse (b : Builder γ ρ κ α) (built : ρ × Modifiers α) (input : Option Value) (path : Path) :
    Checked (Option α) :=
  match input with
  | some value => (built.2.present (b.check built.1 built.2.strict) value path).map some
  | none => built.2.absent path

/-! ### Building -/

theorem step_inl_eq_ok_iff {own : γ} : b.step built (.inl own) = .ok built' ↔
    ∃ rule, b.call built.1 own = .ok rule ∧ (rule, built.2) = built' := by
  rw [step]
  cases b.call built.1 own <;> simp [Except.map]

theorem exists_step_iff (built : ρ × Modifiers α) : (∃ next, b.step built call = .ok next) ↔
    ∀ own, .inl own = call → b.Accepts own := by
  cases call with
  | inl own =>
    constructor
    · rintro ⟨next, hnext⟩ other hother
      obtain ⟨rule, hrule, -⟩ := step_inl_eq_ok_iff.1 hnext
      obtain rfl := Sum.inl.inj hother
      exact b.exists_call_iff.1 ⟨rule, hrule⟩
    · intro haccepts
      obtain ⟨rule, hrule⟩ := b.exists_call_iff.2 (haccepts own rfl)
      exact ⟨_, step_inl_eq_ok_iff.2 ⟨rule, hrule, rfl⟩⟩
  | inr call => exact iff_of_true ⟨_, rfl⟩ nofun

/-- Calls build a rule as long as each of them can be made. -/
theorem exists_foldlM_iff : (∃ final, calls.foldlM b.step built = .ok final) ↔
    ∀ own, .inl own ∈ calls → b.Accepts own := by
  induction calls generalizing built with
  | nil => exact iff_of_true ⟨built, rfl⟩ nofun
  | cons call later ih =>
    rw [List.foldlM_cons]
    simp only [List.mem_cons, or_imp, forall_and]
    rw [← exists_step_iff built]
    cases hstep : b.step built call with
    | error fault => exact iff_of_false (fun ⟨_, h⟩ => by cases h) fun h => by cases h.1.choose_spec
    | ok next => exact ih.trans (and_iff_right ⟨next, rfl⟩).symm

theorem constraints_of_step (h : b.step built call = .ok built') :
    b.constraints built'.1 = (b.constraints built.1).contribute b.rank (b.contributionOf call) := by
  cases call with
  | inl call =>
    obtain ⟨rule, hrule, rfl⟩ := step_inl_eq_ok_iff.1 h
    exact b.constraints_of_call hrule
  | inr call =>
    cases h
    rfl

/-- The constraints see only what the calls contribute to them. -/
theorem constraints_of_foldlM (h : calls.foldlM b.step built = .ok built') :
    b.constraints built'.1 =
      (calls.map b.contributionOf).foldl (Ranked.contribute b.rank) (b.constraints built.1) := by
  induction calls generalizing built with
  | nil =>
    cases h
    rfl
  | cons call later ih =>
    rw [List.foldlM_cons] at h
    cases hstep : b.step built call with
    | error fault =>
      rw [hstep] at h
      cases h
    | ok next =>
      rw [hstep] at h
      rw [ih h, constraints_of_step hstep]
      rfl

/-- **Calls build the constraints they state**, in the order of their ranks. -/
theorem constraints_of_build (h : b.build calls = .ok (r, m)) :
    (b.constraints r).entries = byRank (b.rank ·.1) (b.stated calls) ∧
      (b.constraints r).typeMessage = Contribution.lastMessage (calls.map b.contributionOf) := by
  have hfold : b.constraints r =
      (calls.map b.contributionOf).foldl (Ranked.contribute b.rank) {} := by
    rw [← b.constraints_initial]
    exact constraints_of_foldlM h
  have hempty : (b.constraints r).entries = byRank (b.rank ·.1) (b.stated calls) ∧
      (b.constraints r).typeMessage =
        (Contribution.lastMessage (calls.map b.contributionOf)).or none := by
    rw [hfold]
    exact Ranked.foldl_contribute_of_empty rfl rfl
  rwa [Option.or_none] at hempty

example :
    (text.build [.inl (.message "not a text"), .inl (.constrain (.endsWith "!")),
      .inl (.message "too calm"), .inl .trim, .inl (.message "too quiet"), .inr .acceptAbsent,
      .inl (.constrain (.minLength 3))]).map
        (fun built => (built.1.constraints.entries, built.1.constraints.typeMessage)) =
      .ok ([(.minLength 3, none), (.endsWith "!", some "too quiet")], some "not a text") := rfl

/-! ### Parsing -/

/-- A schema of the rule parses as the rule does and writes the output as a value. -/
theorem parse_schema (built : ρ × Modifiers α) (env : Env) (input : Option Value) (path : Path) :
    ((b.schema built.1 built.2).validator env).parse input path =
      (b.parse built input path).map fun output => output.map b.toValue := by
  rw [b.validator_schema]
  cases input with
  | some value =>
    rw [Validator.parse_some, Modifiers.validator_present, parse]
    cases built.2.present (b.check built.1 built.2.strict) value path <;> rfl
  | none => exact Modifiers.validator_absent b.toValue

/-- Without hooks, input that can be read is transformed and checked. -/
theorem parse_of_read (hm : m.HookFree) (hread : b.read r m.strict value path = .ok a) :
    b.parse (r, m) (some value) path = ((b.constraints r).verify (b.transform r a)
      fun c message => b.issue? c message (b.transform r a) path).map some := by
  rw [parse, hm.present, b.check_eq, hread]
  rfl

theorem parse_eq_ok_iff (h : b.build calls = .ok (r, m)) (hm : m.HookFree)
    (hread : b.read r m.strict value path = .ok a) :
    b.parse (r, m) (some value) path = .ok (some (b.transform r a)) ↔
      ∀ c message, (c, message) ∈ b.stated calls → b.holds c (b.transform r a) := by
  rw [parse_of_read hm hread, Checked.map_eq_ok_iff]
  have hchecks := b.issue?_eq_none_iff (b.transform r a) path
  constructor
  · rintro ⟨output, hpass, -⟩
    exact ((Ranked.verify_eq_ok_iff_of_byRank (constraints_of_build h).1 hchecks).1 hpass).1
  · intro hholds
    exact ⟨_, (Ranked.verify_eq_ok_iff_of_byRank (constraints_of_build h).1 hchecks).2
      ⟨hholds, rfl⟩, rfl⟩

theorem exists_parse_eq_error (h : b.build calls = .ok (r, m)) (hm : m.HookFree)
    (hread : b.read r m.strict value path = .ok a)
    (hfail : ∃ c message, (c, message) ∈ b.stated calls ∧ ¬ b.holds c (b.transform r a)) :
    ∃ i c message issue,
      Ranked.Leads b.rank (fun c => ¬ b.holds c (b.transform r a)) (b.stated calls) i c message ∧
      b.issue? c message (b.transform r a) path = some issue ∧
      (∀ text, message = some text → issue.message = text) ∧
      b.parse (r, m) (some value) path = .error (.single issue) := by
  obtain ⟨i, c, message, issue, hleads, hissue, hverify⟩ :=
    Ranked.exists_leads_of_not_holds (constraints_of_build h).1
      (b.issue?_eq_none_iff (b.transform r a) path) hfail (b.transform r a)
  refine ⟨i, c, message, issue, hleads, hissue, ?_, ?_⟩
  · rintro text rfl
    exact b.message_of_issue? hissue
  · rw [parse_of_read hm hread, hverify]
    rfl

/-! ### Another order -/

theorem map_bare_step_of_isOther (h : (b.contributionOf call).isOther) :
    (b.step built call).map (Prod.map b.bare id) = b.step (Prod.map b.bare id built) call := by
  cases call with
  | inl call =>
    rw [step, step, Prod.map_fst, ← b.map_bare_call_of_isOther h]
    cases b.call built.1 call <;> rfl
  | inr call => rfl

theorem exists_step_of_not_isOther (built : ρ × Modifiers α)
    (h : ¬ (b.contributionOf call).isOther) :
    ∃ next, b.step built call = .ok next ∧ Prod.map b.bare id next = Prod.map b.bare id built := by
  cases call with
  | inl call =>
    obtain ⟨rule, hrule, hbare⟩ := b.exists_call_of_not_isOther (r := built.1) h
    refine ⟨(rule, built.2), step_inl_eq_ok_iff.2 ⟨rule, hrule, rfl⟩, ?_⟩
    rw [Prod.map_apply', hbare]
    rfl
  | inr call => exact absurd rfl h

/-- Apart from the constraints, only the other calls count. -/
theorem map_bare_foldlM (calls : List (γ ⊕ ModifierCall α)) (built : ρ × Modifiers α) :
    (calls.foldlM b.step built).map (Prod.map b.bare id) =
      (b.others calls).foldlM b.step (Prod.map b.bare id built) := by
  -- a refused call is one of the others, so both sides are refused for the same fault
  induction calls generalizing built with
  | nil => rfl
  | cons call later ih =>
    by_cases hother : (b.contributionOf call).isOther
    · have hothers : b.others (call :: later) = call :: b.others later :=
        List.filter_cons_of_pos hother
      rw [hothers, List.foldlM_cons, List.foldlM_cons, ← map_bare_step_of_isOther hother]
      cases b.step built call with
      | error fault => rfl
      | ok next => exact ih next
    · have hothers : b.others (call :: later) = b.others later := List.filter_cons_of_neg hother
      obtain ⟨next, hstep, hbare⟩ := exists_step_of_not_isOther built hother
      rw [hothers, List.foldlM_cons, hstep, ← hbare]
      exact ih next

/-- What is parsed depends on the constraints only through their order, and on the
message for input of the wrong type. -/
theorem parse_congr (hbare : b.bare r = b.bare r')
    (hentries : (b.constraints r).entries = (b.constraints r').entries)
    (hmessage : (b.constraints r).typeMessage = (b.constraints r').typeMessage) :
    b.parse (r, m) = b.parse (r', m) := by
  have hcheck (strict : Bool) : b.check r strict = b.check r' strict := by
    funext value path
    simp only [b.check_eq, b.read_congr hbare hmessage, b.transform_congr hbare, Ranked.verify,
      Ranked.firstIssue, hentries]
  funext input path
  cases input with
  | some value => simp only [parse, hcheck]
  | none => rfl

/-- Constraints of different ranks can be stated in either order. -/
theorem map_parse_build_of_exchanged (hothers : b.others calls = b.others calls')
    (h : Contribution.Exchanged b.rank (b.statements calls) (b.statements calls')) :
    (b.build calls).map b.parse = (b.build calls').map b.parse := by
  have hstated : byRank (b.rank ·.1) (b.stated calls) = byRank (b.rank ·.1) (b.stated calls') := by
    simpa only [stated, statements, Contribution.stated_filter] using h.byRank_stated
  have hlast : Contribution.lastMessage (calls.map b.contributionOf) =
      Contribution.lastMessage (calls'.map b.contributionOf) := by
    simpa only [statements, Contribution.lastMessage_filter] using h.lastMessage_eq
  have hbare : (b.build calls).map (Prod.map b.bare id) =
      (b.build calls').map (Prod.map b.bare id) := by
    rw [build, build, map_bare_foldlM, map_bare_foldlM, hothers]
  -- what is left of the two without constraints is the same, faults included
  cases hbuild : b.build calls with
  | error fault =>
    cases hbuild' : b.build calls' with
    | error fault' =>
      rw [hbuild, hbuild'] at hbare
      exact congrArg Except.error (Except.error.inj hbare)
    | ok built' =>
      rw [hbuild, hbuild'] at hbare
      cases hbare
  | ok built =>
    cases hbuild' : b.build calls' with
    | error fault' =>
      rw [hbuild, hbuild'] at hbare
      cases hbare
    | ok built' =>
      rw [hbuild, hbuild'] at hbare
      obtain ⟨r, m⟩ := built
      obtain ⟨r', m'⟩ := built'
      obtain ⟨hrule, rfl⟩ := Prod.mk.inj (Except.ok.inj hbare)
      obtain ⟨hentries, hmessage⟩ := constraints_of_build hbuild
      obtain ⟨hentries', hmessage'⟩ := constraints_of_build hbuild'
      exact congrArg Except.ok (parse_congr hrule (by rw [hentries, hentries', hstated])
        (by rw [hmessage, hmessage', hlast]))

example :
    Contribution.Exchanged NumberConstraint.rank
      (number.statements [.inl (.constrain .even), .inl (.roundTo .floor), .inl (.message "odd"),
        .inl (.constrain .positive), .inl (.constrain .integer)])
      (number.statements [.inl (.constrain .positive), .inl (.roundTo .floor),
        .inl (.constrain .even), .inl (.message "odd"), .inl (.constrain .integer)]) :=
  .swap [] NumberConstraint.even ["odd"] NumberConstraint.positive []
    [.constraint NumberConstraint.integer] (by decide) rfl

/-! ### The order of calls -/

/-- What is described is described whatever the order of the calls on constraints. -/
structure Orderly (b : Builder γ ρ κ α) : Prop where
  /-- Calls build a rule unless one of them is refused by itself. -/
  exists_build_iff {calls : List (γ ⊕ ModifierCall α)} :
    (∃ built, b.build calls = .ok built) ↔ ∀ own, .inl own ∈ calls → b.Accepts own
  /-- The constraints are in the stable order of their ranks, each with the last message
  given between it and the next one. -/
  entries_eq {calls : List (γ ⊕ ModifierCall α)} {r : ρ} {m : Modifiers α} :
    b.build calls = .ok (r, m) → (b.constraints r).entries = byRank (b.rank ·.1) (b.stated calls)
  /-- The last message before the first constraint is for input of the wrong type. -/
  typeMessage_eq {calls : List (γ ⊕ ModifierCall α)} {r : ρ} {m : Modifiers α} :
    b.build calls = .ok (r, m) →
      (b.constraints r).typeMessage = Contribution.lastMessage (calls.map b.contributionOf)
  /-- Without hooks, input that can be read is parsed as transformed iff no constraint
  fails. -/
  parse_eq_ok_iff {calls : List (γ ⊕ ModifierCall α)} {r : ρ} {m : Modifiers α} {value : Value}
      {path : Path} {a : α} :
    b.build calls = .ok (r, m) → m.HookFree → b.read r m.strict value path = .ok a →
      (b.parse (r, m) (some value) path = .ok (some (b.transform r a)) ↔
        ∀ c message, (c, message) ∈ b.stated calls → b.holds c (b.transform r a))
  /-- If one fails, the only issue is that of the failing constraint of the least rank, the
  earliest among those, and has its message. -/
  exists_parse_eq_error {calls : List (γ ⊕ ModifierCall α)} {r : ρ} {m : Modifiers α}
      {value : Value} {path : Path} {a : α} :
    b.build calls = .ok (r, m) → m.HookFree → b.read r m.strict value path = .ok a →
      (∃ c message, (c, message) ∈ b.stated calls ∧ ¬ b.holds c (b.transform r a)) →
      ∃ i c message issue,
        Ranked.Leads b.rank (fun c => ¬ b.holds c (b.transform r a)) (b.stated calls) i c message ∧
        b.issue? c message (b.transform r a) path = some issue ∧
        (∀ text, message = some text → issue.message = text) ∧
        b.parse (r, m) (some value) path = .error (.single issue)
  /-- Two neighbouring constraints of different ranks can change places, with their messages
  and whatever other calls there are between. -/
  map_parse_eq {calls calls' : List (γ ⊕ ModifierCall α)} : b.others calls = b.others calls' →
    Contribution.Exchanged b.rank (b.statements calls) (b.statements calls') →
      (b.build calls).map b.parse = (b.build calls').map b.parse
  /-- All of this is what schemas do, but for the form of the output. -/
  parse_schema (built : ρ × Modifiers α) (env : Env) (input : Option Value) (path : Path) :
    ((b.schema built.1 built.2).validator env).parse input path =
      (b.parse built input path).map fun output => output.map b.toValue

/-- Calls on constraints and all others not seeing each other is enough for that. -/
theorem orderly (b : Builder γ ρ κ α) : b.Orderly where
  exists_build_iff := exists_foldlM_iff
  entries_eq h := (constraints_of_build h).1
  typeMessage_eq h := (constraints_of_build h).2
  parse_eq_ok_iff := Builder.parse_eq_ok_iff
  exists_parse_eq_error := Builder.exists_parse_eq_error
  map_parse_eq := map_parse_build_of_exchanged
  parse_schema := Builder.parse_schema

/-- **The order of calls on constraints does not matter.** Strings and numbers keep the
constraints in the stable order of their ranks, with the messages meant for them. They
report the first that fails in this order, and the order in which two constraints of
different ranks are stated changes nothing. -/
theorem orderly_text_and_number : text.Orderly ∧ number.Orderly := ⟨orderly text, orderly number⟩

end Builder

end Conform
