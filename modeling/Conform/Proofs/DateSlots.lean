import Conform.Proofs.Offset
import Conform.Proofs.Precedence
/-!
# DateSlots — what calls make of a date

A date has one slot for each kind of requirement and one for the offset. A call fills its slot
or two, whatever stood there before, so only the last call for a slot counts, and calls for
different slots do not see each other. `DateRule.ofLast` reads the slots off the calls, and
building one call after the other comes to the same.

The main result is what such a date makes of its input. The slots say what is required, in the
order in which it is checked, and the first requirement that is not met is reported alone.
-/


namespace Conform

/-! ## The order of instants -/

namespace Instant

/-- Instants are ordered by their seconds first. -/
instance : LT Instant :=
  ⟨fun a b => a.seconds < b.seconds ∨ a.seconds = b.seconds ∧ a.nanos < b.nanos⟩

/-- The earlier of two instants. -/
instance : Min Instant := ⟨fun a b => if a.before b then a else b⟩

/-- The later of two instants. -/
instance : Max Instant := ⟨fun a b => if a.before b then b else a⟩

variable {a b : Instant}

theorem before_iff_lt : a.before b = true ↔ a < b := before_iff

theorem lt_asymm (h : a < b) : ¬ b < a := by
  intro h'
  rcases h with h | ⟨heq, h⟩ <;> rcases h' with h' | ⟨heq', h'⟩ <;> omega

/-- Instants of which none is earlier are the same. -/
theorem eq_of_not_lt (h : ¬ a < b) (h' : ¬ b < a) : a = b := by
  obtain ⟨seconds, nanos⟩ := a
  obtain ⟨seconds', nanos'⟩ := b
  have hle := not_or.1 h
  have hle' := not_or.1 h'
  have hseconds : seconds = seconds' := Int.le_antisymm (Int.not_lt.1 hle'.1) (Int.not_lt.1 hle.1)
  have hnanos : nanos = nanos' :=
    Nat.le_antisymm (Nat.not_lt.1 fun hlt => hle'.2 ⟨hseconds.symm, hlt⟩)
      (Nat.not_lt.1 fun hlt => hle.2 ⟨hseconds, hlt⟩)
  rw [hseconds, hnanos]

theorem min_comm_and_max_comm (a b : Instant) : min a b = min b a ∧ max a b = max b a := by
  show (if a.before b then a else b) = (if b.before a then b else a) ∧
    (if a.before b then b else a) = (if b.before a then a else b)
  by_cases h : a.before b = true
  · have h' : ¬ b.before a = true := fun h' => lt_asymm (before_iff_lt.1 h) (before_iff_lt.1 h')
    rw [if_pos h, if_pos h, if_neg h', if_neg h']
    exact ⟨rfl, rfl⟩
  · by_cases h' : b.before a = true
    · rw [if_neg h, if_neg h, if_pos h', if_pos h']
      exact ⟨rfl, rfl⟩
    · rw [eq_of_not_lt (mt before_iff_lt.2 h) (mt before_iff_lt.2 h')]
      exact ⟨rfl, rfl⟩

end Instant

/-! ## Calls -/

/-- A call that describes a date. -/
inductive DateCall where
  | add (offset : DateOffset)
  | before (bound : Instant)
  | after (bound : Instant)
  | between (a b : Instant)
  | fromToday (days : Int)
  | ahead (days : Int)
  | ago (days : Int)
  | today
  | weekday (day : Weekday)
  | dayOfMonth (day : Nat)
  | month (number : Nat)
  | year (number : Int)

namespace DateRule

/-- The rule after one more call. -/
def call (r : DateRule) : DateCall → DateRule
  | .add offset => r.add offset
  | .before bound => r.before bound
  | .after bound => r.after bound
  | .between a b => r.between a b
  | .fromToday days => r.onDayFromToday days
  | .ahead days => r.daysAhead days
  | .ago days => r.daysAgo days
  | .today => r.onToday
  | .weekday day => r.onWeekday day
  | .dayOfMonth day => r.onDayOfMonth day
  | .month number => r.inMonth number
  | .year number => r.inYear number

/-- The rule and its modifiers after one more call. -/
def step (built : DateRule × Modifiers Instant) :
    DateCall ⊕ ModifierCall Instant → DateRule × Modifiers Instant
  | .inl call => (built.1.call call, built.2)
  | .inr call => (built.1, built.2.call call)

/-- What a sequence of calls builds. -/
def build (calls : List (DateCall ⊕ ModifierCall Instant)) : DateRule × Modifiers Instant :=
  calls.foldl step ({}, {})

end DateRule

namespace DateCall

/-! ### The slots that a call fills -/

def offset? : DateCall → Option DateOffset
  | add offset => some offset
  | _ => none

def upper? : DateCall → Option Instant
  | before bound => some bound
  | between a b => some (max a b)
  | _ => none

def lower? : DateCall → Option Instant
  | after bound => some bound
  | between a b => some (min a b)
  | _ => none

def distance? : DateCall → Option Int
  | fromToday days => some days
  | ahead days => some days
  | ago days => some (clampInt64 (-days))
  | today => some 0
  | _ => none

def weekday? : DateCall → Option Weekday
  | weekday day => some day
  | _ => none

def dayOfMonth? : DateCall → Option Nat
  | dayOfMonth day => some day
  | _ => none

def month? : DateCall → Option Nat
  | month number => some number
  | _ => none

def year? : DateCall → Option Int
  | year number => some number
  | _ => none

/-- The calls that describe the date itself. -/
def own (calls : List (DateCall ⊕ ModifierCall Instant)) : List DateCall :=
  calls.filterMap Sum.getLeft?

/-- The calls on its modifiers. -/
def onModifiers (calls : List (DateCall ⊕ ModifierCall Instant)) : List (ModifierCall Instant) :=
  calls.filterMap Sum.getRight?

variable {β : Type} {states : DateCall → Option β} {calls : List DateCall} {call : DateCall}

/-- What the last of the calls for a slot states. -/
def last? (states : DateCall → Option β) (calls : List DateCall) : Option β :=
  (calls.filterMap states).getLast?

/-- What is required after a sequence of calls, in the order of checking. -/
def requirements (calls : List DateCall) : List DateConstraint :=
  [(last? upper? calls).map .before, (last? lower? calls).map .after,
    (last? distance? calls).map .distance, (last? weekday? calls).map .weekday,
    (last? dayOfMonth? calls).map .dayOfMonth, (last? month? calls).map .month,
    (last? year? calls).map .year].filterMap id

theorem last?_concat : last? states (calls ++ [call]) = (states call).or (last? states calls) := by
  rw [last?, List.filterMap_append, List.getLast?_append]
  cases h : states call <;> simp [h, last?]

end DateCall

namespace DateRule

open DateCall

/-- The rule with what the last call for every slot states. -/
def ofLast (calls : List DateCall) : DateRule where
  offset := last? offset? calls
  earlierThan := last? upper? calls
  laterThan := last? lower? calls
  daysFromToday := last? distance? calls
  weekday := last? weekday? calls
  dayOfMonth := last? dayOfMonth? calls
  month := last? month? calls
  year := last? year? calls

variable {r : DateRule} {calls : List DateCall} {today : Int} {strict : Bool} {value : Value}
  {path : Path} {s : Instant} {found : Issues}

/-- Two bounds in either order are the earlier one below and the later one above. -/
theorem between_eq (r : DateRule) (a b : Instant) :
    r.between a b = (r.after (min a b)).before (max a b) := by
  show r.between a b =
    (r.after (if a.before b then a else b)).before (if a.before b then b else a)
  unfold between
  split <;> rfl

theorem between_comm (r : DateRule) (a b : Instant) : r.between a b = r.between b a := by
  obtain ⟨hmin, hmax⟩ := Instant.min_comm_and_max_comm a b
  rw [between_eq, between_eq, hmin, hmax]

/-! ### Building -/

/-- **One call** fills its slots and leaves the others. -/
theorem ofLast_concat (calls : List DateCall) (call : DateCall) :
    ofLast (calls ++ [call]) = (ofLast calls).call call := by
  simp only [ofLast, last?_concat]
  cases call with
  | between a b =>
    rw [DateRule.call, between_eq]
    rfl
  | _ => rfl

/-- **All calls.** -/
theorem foldl_call (calls : List DateCall) : calls.foldl call {} = ofLast calls := by
  induction calls using List.reverseRecOn with
  | nil => rfl
  | append_singleton calls call ih => rw [List.foldl_concat, ih, ofLast_concat]

/-- Calls on the rule and calls on its modifiers do not see each other. -/
theorem foldl_step (calls : List (DateCall ⊕ ModifierCall Instant))
    (built : DateRule × Modifiers Instant) : calls.foldl step built =
      ((own calls).foldl call built.1, (onModifiers calls).foldl Modifiers.call built.2) := by
  induction calls generalizing built with
  | nil => rfl
  | cons call later ih => cases call <;> exact ih _

theorem build_eq (calls : List (DateCall ⊕ ModifierCall Instant)) :
    build calls = (ofLast (own calls), (onModifiers calls).foldl Modifiers.call {}) := by
  rw [build, foldl_step, foldl_call]

end DateRule

/-! ## Requirements -/

namespace DateConstraint

variable {c : DateConstraint} {today : Int} {t : Instant} {path : Path}

/-- The date is as required, where `today` is the current day. -/
def IsMet (today : Int) (t : Instant) : DateConstraint → Prop
  | before bound => t < bound
  | after bound => bound < t
  | distance days => Instant.isSupported (today + days) = true ∧ t.day = today + days
  | weekday wanted => t.weekday = wanted
  | dayOfMonth wanted => t.date.day = wanted
  | month wanted => t.date.month = wanted
  | year wanted => t.date.year = wanted

/-- What is reported of a date that is not as required. -/
def refusal (c : DateConstraint) (today : Int) (t : Instant) (path : Path) : Issue :=
  (Issue.refinement path c.code (c.message today t) (Schema.dateValue t)).expecting
    (c.expected today)

theorem holds_iff : c.holds today t = true ↔ c.IsMet today t := by
  cases c with
  | before bound => exact Instant.before_iff_lt
  | after bound => exact Instant.before_iff_lt
  | distance days => simp only [holds, IsMet, Bool.and_eq_true, decide_eq_true_eq]
  | _ => exact decide_eq_true_iff

theorem issue?_eq_none_iff : c.issue? today t path = none ↔ c.IsMet today t := by
  unfold issue?
  rw [← holds_iff]
  split <;> simp [*]

theorem issue?_eq_some_iff {issue : Issue} :
    c.issue? today t path = some issue ↔ ¬ c.IsMet today t ∧ issue = c.refusal today t path := by
  unfold issue?
  rw [← holds_iff]
  split
  · simp [*]
  · simp only [*, Bool.false_eq_true, not_false_eq_true, true_and, Option.some.injEq, eq_comm]
    rfl

end DateConstraint

namespace DateRule

variable {r : DateRule} {today : Int} {strict : Bool} {value : Value} {path : Path} {t s : Instant}
  {found : Issues}

/-- What is reported of a date is the first requirement that it does not meet. -/
theorem firstIssue_eq_some_iff {issue : Issue} : r.firstIssue today t path = some issue ↔
    ∃ before c after, r.constraints = before ++ c :: after ∧ (∀ e ∈ before, e.IsMet today t) ∧
      ¬ c.IsMet today t ∧ issue = c.refusal today t path := by
  unfold firstIssue
  simp only [List.findSome?_eq_some_iff, DateConstraint.issue?_eq_none_iff,
    DateConstraint.issue?_eq_some_iff]
  constructor
  · rintro ⟨before, c, after, heq, hc, hbefore⟩
    exact ⟨before, c, after, heq, hbefore, hc⟩
  · rintro ⟨before, c, after, heq, hbefore, hc⟩
    exact ⟨before, c, after, heq, hc, hbefore⟩

theorem judge_eq_error_iff : r.judge today t path = .error found ↔
    ∃ before c after, r.constraints = before ++ c :: after ∧ (∀ e ∈ before, e.IsMet today t) ∧
      ¬ c.IsMet today t ∧ found = .single (c.refusal today t path) := by
  have hissue : r.judge today t path = .error found ↔
      ∃ issue, r.firstIssue today t path = some issue ∧ found = .single issue := by
    unfold judge
    cases r.firstIssue today t path <;> simp
  rw [hissue]
  simp only [firstIssue_eq_some_iff]
  constructor
  · rintro ⟨_, ⟨before, c, after, heq, hbefore, hc, rfl⟩, rfl⟩
    exact ⟨before, c, after, heq, hbefore, hc, rfl⟩
  · rintro ⟨before, c, after, heq, hbefore, hc, rfl⟩
    exact ⟨_, ⟨before, c, after, heq, hbefore, hc, rfl⟩, rfl⟩

/-- A date is read, shifted and judged. -/
theorem check_eq (r : DateRule) (today : Int) (strict : Bool) (value : Value) (path : Path) :
    r.check today strict value path =
      (read? strict value).elim (Checked.fail (.typeMismatch path "date" value)) fun t =>
        (r.shifted? t).elim (Checked.fail (outOfRange path value)) (r.judge today · path) := by
  unfold check
  cases read? strict value with
  | none => rfl
  | some t =>
    dsimp only [Option.elim_some]
    cases r.shifted? t <;> rfl

theorem check_eq_ok_iff_isMet : r.check today strict value path = .ok s ↔
    ∃ t, read? strict value = some t ∧ r.shifted? t = some s ∧
      ∀ c ∈ r.constraints, c.IsMet today s := by
  simp only [← DateConstraint.holds_iff]
  exact check_eq_ok_iff_shifted

theorem check_eq_error_iff : r.check today strict value path = .error found ↔
    read? strict value = none ∧ found = .single (.typeMismatch path "date" value) ∨
      ∃ t, read? strict value = some t ∧
        (r.shifted? t = none ∧ found = .single (outOfRange path value) ∨
          ∃ s, r.shifted? t = some s ∧ ∃ before c after, r.constraints = before ++ c :: after ∧
            (∀ e ∈ before, e.IsMet today s) ∧ ¬ c.IsMet today s ∧
            found = .single (c.refusal today s path)) := by
  rw [check_eq]
  cases read? strict value with
  | none => simp
  | some t =>
    cases hshift : r.shifted? t with
    | none => simp [hshift]
    | some s => simp [hshift, judge_eq_error_iff]

end DateRule

/-! ## Modifiers without hooks -/

/-- The call is about a hook. -/
def ModifierCall.IsHook {α : Type} : ModifierCall α → Prop
  | preTransform _ | postTransform _ | setCustom _ | refine _ _ => True
  | _ => False

theorem Modifiers.HookFree.foldl_call {α : Type} {m : Modifiers α} (hm : m.HookFree)
    {calls : List (ModifierCall α)} (h : ∀ call ∈ calls, ¬ call.IsHook) :
    (calls.foldl Modifiers.call m).HookFree := by
  induction calls generalizing m with
  | nil => exact hm
  | cons call later ih =>
    obtain ⟨hcall, hlater⟩ := List.forall_mem_cons.1 h
    refine ih ?_ hlater
    cases call with
    | strict | coerce | acceptAbsent | withDefault => exact ⟨hm.prepare, hm.custom, hm.finish⟩
    | _ => exact absurd trivial hcall

/-! ## The schema -/

namespace Schema

open DateRule DateCall

theorem parse_date_eq_error_iff {r : DateRule} {m : Modifiers Instant} {env : Env} (hm : m.HookFree)
    {value : Value} {path : Path} {found : Issues} :
    ((date r m).validator env).parse (some value) path = .error found ↔
      r.check env.today m.strict value path = .error found := by
  have hpresent : ((date r m).validator env).present value path =
      (r.check env.today m.strict value path).map dateValue := hm.validator_present dateValue
  rw [Validator.parse_some, hpresent, Checked.map_eq_error_iff, Checked.map_eq_error_iff]

/-- **Only the last call for every slot counts, and the first requirement that is not met is
reported.** Calls build the rule that the last call for every slot states, with the modifiers
that they call for. Two bounds in either order are the earlier one below and the later one above.
Without hooks, such a date accepts exactly what can be read as a date, stays in range when it is
shifted, and then meets all requirements. Anything else is reported by one issue at the path: the
type, the range, or the first requirement that is not met, in the order of `requirements`. -/
theorem date_of_calls {calls : List (DateCall ⊕ ModifierCall Instant)} {r : DateRule}
    {m : Modifiers Instant} (hbuild : build calls = (r, m))
    (h : ∀ call ∈ onModifiers calls, ¬ call.IsHook) :
    r = ofLast (own calls) ∧ m = (onModifiers calls).foldl Modifiers.call {} ∧
      (∀ (r : DateRule) (a b : Instant),
        r.between a b = (r.after (min a b)).before (max a b) ∧ r.between a b = r.between b a) ∧
      ∀ (env : Env) (value : Value) (path : Path),
        (∀ output, ((date r m).validator env).parse (some value) path = .ok output ↔
          ∃ t s, read? m.strict value = some t ∧ r.shifted? t = some s ∧
            (∀ c ∈ requirements (own calls), c.IsMet env.today s) ∧
            output = some (dateValue s)) ∧
        ∀ found, ((date r m).validator env).parse (some value) path = .error found ↔
          read? m.strict value = none ∧ found = .single (.typeMismatch path "date" value) ∨
            ∃ t, read? m.strict value = some t ∧
              (r.shifted? t = none ∧ found = .single (outOfRange path value) ∨
                ∃ s, r.shifted? t = some s ∧
                  ∃ before c after, requirements (own calls) = before ++ c :: after ∧
                    (∀ e ∈ before, e.IsMet env.today s) ∧ ¬ c.IsMet env.today s ∧
                    found = .single (c.refusal env.today s path)) := by
  rw [build_eq, Prod.mk.injEq] at hbuild
  obtain ⟨rfl, hm⟩ := hbuild
  have hfree : m.HookFree := hm ▸ Modifiers.HookFree.foldl_call ⟨rfl, rfl, rfl⟩ h
  refine ⟨rfl, hm.symm, fun r a b => ⟨between_eq r a b, between_comm r a b⟩, ?_⟩
  intro env value path
  refine ⟨fun output => ?_, fun found => ?_⟩
  · rw [parse_date_eq_ok_iff hfree]
    simp only [check_eq_ok_iff_isMet]
    constructor
    · rintro ⟨s, ⟨t, hread, hshift, hmet⟩, rfl⟩
      exact ⟨t, s, hread, hshift, hmet, rfl⟩
    · rintro ⟨t, s, hread, hshift, hmet, rfl⟩
      exact ⟨s, ⟨t, hread, hshift, hmet⟩, rfl⟩
  · rw [parse_date_eq_error_iff hfree]
    exact check_eq_error_iff

/-- A day of February 2024, at one o'clock: the bounds are given in reverse, and the month is
corrected. -/
def inFebruary : List (DateCall ⊕ ModifierCall Instant) :=
  [.inl (.month 3), .inr .coerce, .inl (.between ⟨1709251200, 0⟩ ⟨1706745600, 0⟩), .inl (.month 2),
    .inl (.add { hours := 1 })]

/-- What these calls come to. -/
def hourInFebruary : DateRule where
  offset := some { hours := 1 }
  laterThan := some ⟨1706745600, 0⟩
  earlierThan := some ⟨1709251200, 0⟩
  month := some 2

/-- The leap day is accepted. The day after it is too late, which is reported before the
month. -/
theorem date_inFebruary :
    build inFebruary = (hourInFebruary, { strict := false }) ∧
      (∀ call ∈ onModifiers inFebruary, ¬ call.IsHook) ∧
      ((date hourInFebruary { strict := false }).validator inMachine).parse
        (some (.string "2024-02-29")) .root = .ok (some (.string "2024-02-29T01:00:00.000Z")) ∧
      ((date hourInFebruary { strict := false }).validator inMachine).parse
        (some (.string "2024-03-01")) .root =
          .error (.single ((DateConstraint.before ⟨1709251200, 0⟩).refusal 0 ⟨1709254800, 0⟩
            .root)) := by
  have hbuild : build inFebruary = (hourInFebruary, { strict := false }) := rfl
  have hhooks : ∀ call ∈ onModifiers inFebruary, ¬ call.IsHook :=
    List.forall_mem_singleton.2 id
  obtain ⟨-, -, -, hdate⟩ := date_of_calls hbuild hhooks
  refine ⟨hbuild, hhooks, ?_, ?_⟩
  · have htext : (Instant.mk 1709168400 0).text = "2024-02-29T01:00:00.000Z" := by decide +kernel
    rw [← htext]
    refine ((hdate inMachine _ .root).1 _).2
      ⟨⟨1709164800, 0⟩, ⟨1709168400, 0⟩, by decide +kernel, by decide +kernel, ?_, rfl⟩
    simp only [← DateConstraint.holds_iff]
    decide +kernel
  · refine ((hdate inMachine _ .root).2 _).2 (.inr ⟨⟨1709251200, 0⟩, by decide +kernel, .inr
      ⟨⟨1709254800, 0⟩, by decide +kernel, [], _, _, rfl, List.forall_mem_nil _, ?_, rfl⟩⟩)
    rw [← DateConstraint.holds_iff]
    decide +kernel

end Schema

end Conform
