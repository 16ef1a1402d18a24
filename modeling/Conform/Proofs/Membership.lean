import Conform.Proofs.Coercion
import Mathlib.Algebra.Group.Int.Defs
/-!
# Membership — when a number is one of the options

An enumeration compares numbers as doubles. A double or an integer of up to
53 bits is its own closest double, and among such numbers options are told
apart by their values. A longer integer is rounded before it is compared, so
it is taken for its neighbours too. Rounding only adds to what is accepted:
an option of exactly the value of the input is never missed, but an option
in front of it may be handed out in its place.
-/


namespace Conform

namespace Binary64

/-- Numbers are equal if they have the same place in the order. -/
theorem same_iff {a b : Binary64} : a.same b = true ↔ ∃ x, a.order = some x ∧ b.order = some x := by
  unfold same
  cases a.order <;> cases b.order <;> simp [eq_comm]

theorem same_self {a : Binary64} (h : a.isFinite = true) : a.same a = true := by
  cases a with
  | finite negative units => exact same_iff.2 ⟨_, rfl, rfl⟩
  | infinite => cases h
  | nan => cases h

theorem order_finite (negative : Bool) (units : Nat) :
    (finite negative units).order = some (if negative then -(units : Int) else units) := rfl

end Binary64

/-! ## Exact values -/

namespace Number

/-- The exact value, counted in units of the least positive double. -/
def units? : Number → Option Int
  | integer n => some (n * Binary64.one)
  | double x => x.order

/-- Rounding the number to a double does not change its value. -/
def IsExact (n : Number) : Prop := n.toBinary64.order = n.units?

/-- A number as values have it: an integer of at most 64 bits, or a finite double
with a magnitude that doubles have. -/
inductive WellFormed : Number → Prop
  | integer {n : Int} : leastInteger ≤ n → n ≤ greatestInteger → WellFormed (.integer n)
  | double (negative : Bool) {units : Nat} : Binary64.Representable units →
      WellFormed (.double (.finite negative units))

theorem isExact_double (x : Binary64) : (double x).IsExact := rfl

/-- An integer is exact if its magnitude is that of a double. -/
theorem isExact_integer {n : Int} (h : Binary64.Representable (n.natAbs * Binary64.one)) :
    (integer n).IsExact := by
  show (Binary64.ofInt n).order = some (n * Binary64.one)
  rw [Binary64.ofInt, Binary64.ofUnits_of_representable h, Binary64.order_finite]
  congr 1
  generalize Binary64.one = units
  by_cases hn : n < 0
  · have habs : (n.natAbs : Int) = -n := by omega
    simp [hn, habs, Int.neg_mul]
  · have habs : (n.natAbs : Int) = n := by omega
    simp [hn, habs]

/-- **Integers of up to 53 bits are exact.** -/
theorem isExact_of_natAbs_le {n : Int} (h : n.natAbs ≤ 2 ^ 53) : (integer n).IsExact := by
  refine isExact_integer ?_
  rcases Nat.lt_or_eq_of_le h with hlt | heq
  · exact Binary64.representable_of_safe (Nat.le_of_lt_succ hlt)
  · rw [heq]
    decide +kernel

theorem WellFormed.proper {n : Number} (h : n.WellFormed) : n.Proper := by
  cases h with
  | integer hleast hgreatest => exact ⟨hleast, hgreatest⟩
  | double => rfl

/-- A number of a value is finite, so it has a value. -/
theorem WellFormed.exists_units {n : Number} (h : n.WellFormed) : ∃ k, n.units? = some k := by
  cases h <;> exact ⟨_, rfl⟩

/-- Numbers that are doubles are equal as doubles exactly if they have one value. -/
theorem same_toBinary64_iff {a b : Number} (ha : a.IsExact) (hb : b.IsExact)
    (hform : b.WellFormed) : a.toBinary64.same b.toBinary64 = true ↔ a.units? = b.units? := by
  obtain ⟨k, hk⟩ := hform.exists_units
  rw [Binary64.same_iff, ha, hb, hk]
  constructor
  · rintro ⟨x, hx, hx'⟩
    rw [hx, hx']
  · intro h
    exact ⟨k, h, rfl⟩

/-- A number that has the value of a double is exact. -/
theorem isExact_of_units?_eq {n : Number} {negative : Bool} {units : Nat}
    (hunits : Binary64.Representable units)
    (h : n.units? = (double (.finite negative units)).units?) : n.IsExact := by
  cases n with
  | double x => exact isExact_double x
  | integer n =>
    have hvalue : n * (Binary64.one : Int) = if negative then -(units : Int) else units :=
      Option.some.inj h
    have habs : n.natAbs * Binary64.one = units := by
      have hnatAbs := congrArg Int.natAbs hvalue
      rw [Int.natAbs_mul, Int.natAbs_natCast] at hnatAbs
      rw [hnatAbs]
      cases negative <;> simp
    exact isExact_integer (habs ▸ hunits)

/-- **Rounding keeps equal values equal.** An integer that has the value of a double
is that double, and integers of one value are the same integer. -/
theorem same_of_units?_eq {a b : Number} (ha : a.WellFormed) (hb : b.WellFormed)
    (h : a.units? = b.units?) : a.toBinary64.same b.toBinary64 = true := by
  cases ha with
  | double negative hunits =>
    exact (same_toBinary64_iff (isExact_double _) (isExact_of_units?_eq hunits h.symm) hb).2 h
  | @integer n hleast hgreatest =>
    cases hb with
    | double negative hunits =>
      exact (same_toBinary64_iff (isExact_of_units?_eq hunits h) (isExact_double _)
        (.double negative hunits)).2 h
    | @integer m _ _ =>
      have hone : (Binary64.one : Int) ≠ 0 := by
        have := Binary64.one_pos
        omega
      obtain rfl : n = m := Int.eq_of_mul_eq_mul_right hone (Option.some.inj h)
      exact Binary64.same_self (WellFormed.integer hleast hgreatest).proper.isFinite

end Number

/-! ## The first option -/

/-- The first of the options that has a property. -/
def EnumerationRule.IsFirst (options : List Value) (p : Value → Prop) (option : Value) : Prop :=
  ∃ before after, options = before ++ option :: after ∧ p option ∧ ∀ other ∈ before, ¬ p other

/-- The option is a number of exactly this value. -/
def Value.Denotes (n : Number) (option : Value) : Prop :=
  ∃ k, option = .number k ∧ k.units? = n.units?

/-- The option is a number with the same closest double. -/
def Value.RoundsLike (n : Number) (option : Value) : Prop :=
  ∃ k, option = .number k ∧ k.toBinary64.same n.toBinary64 = true

namespace EnumerationRule

variable {r : EnumerationRule} {options : List Value} {p q : Value → Prop} {n : Number}

theorem IsFirst.congr (h : ∀ option ∈ options, p option ↔ q option) (option : Value) :
    IsFirst options p option ↔ IsFirst options q option := by
  refine exists_congr fun before => exists_congr fun after => and_congr_right fun heq => ?_
  subst heq
  rw [h option (by simp)]
  refine and_congr_right fun _ => forall₂_congr fun other hother => not_congr (h other ?_)
  exact List.mem_append_left _ hother

theorem find?_eq_some_iff_isFirst {test : Value → Bool} {option : Value} :
    options.find? test = some option ↔ IsFirst options (fun other => test other = true) option := by
  rw [List.find?_eq_some_iff_append, IsFirst]
  simp [and_left_comm]

/-- There is a first option with a property if there is any. -/
theorem exists_isFirst_iff : (∃ option, IsFirst options p option) ↔ ∃ option ∈ options, p option := by
  classical
  have hfind (option : Value) :
      options.find? (fun other => decide (p other)) = some option ↔ IsFirst options p option := by
    rw [find?_eq_some_iff_isFirst]
    exact IsFirst.congr (fun other _ => decide_eq_true_iff) option
  simp only [← hfind, ← Option.isSome_iff_exists, List.find?_isSome, decide_eq_true_eq]

theorem sameMember_number_iff {option : Value} :
    sameMember option (.number n) = true ↔ option.RoundsLike n := by
  cases option <;> simp [sameMember, Value.same, Value.RoundsLike]

/-- A number is looked up among the closest doubles of the options. -/
theorem find?_number_eq_some_iff {option : Value} :
    r.find? (.number n) = some option ↔ IsFirst r.options (Value.RoundsLike n) option := by
  rw [find?, find?_eq_some_iff_isFirst]
  exact IsFirst.congr (fun other _ => sameMember_number_iff) option

theorem eq_of_ofList {rule : EnumerationRule} (h : ofList options = .ok rule) :
    rule = ⟨options⟩ := by
  unfold ofList at h
  split at h
  · cases h
  · split at h
    · cases h
    · exact (Except.ok.inj h).symm

/-- An option of the same value has the same closest double. -/
theorem roundsLike_of_denotes {option : Value} (hn : n.WellFormed)
    (hoption : ∀ k, option = .number k → k.WellFormed) (h : option.Denotes n) :
    option.RoundsLike n := by
  obtain ⟨k, rfl, hk⟩ := h
  exact ⟨k, rfl, Number.same_of_units?_eq (hoption k rfl) hn hk⟩

/-- Among numbers that are doubles, the closest double tells the values apart. -/
theorem roundsLike_iff_denotes {option : Value} (hn : n.WellFormed) (hexact : n.IsExact)
    (hoption : ∀ k, option = .number k → k.IsExact) : option.RoundsLike n ↔ option.Denotes n := by
  exact exists_congr fun k => and_congr_right fun hk =>
    Number.same_toBinary64_iff (hoption k hk) hexact hn

end EnumerationRule

namespace Schema

variable {options : List Value} {rule : EnumerationRule} {m : Modifiers Value} {n : Number}

theorem attempt_enumeration_eq_ok_iff (hbuilt : EnumerationRule.ofList options = .ok rule)
    (hm : m.HookFree) (hstrict : m.strict = true) {env : Env} {path : Path} {option : Value} :
    (enumeration rule m).attempt env (.number n) path = .ok option ↔
      EnumerationRule.IsFirst options (Value.RoundsLike n) option := by
  have hattempt : (enumeration rule m).attempt env (.number n) path =
      (rule.check m.strict (.number n) path).map id := hm.validator_present id
  rw [hattempt, hstrict, EnumerationRule.eq_of_ofList hbuilt, Checked.map_eq_ok_iff]
  simp only [EnumerationRule.check_eq_ok_iff, EnumerationRule.candidate_strict,
    EnumerationRule.find?_number_eq_some_iff, id, exists_eq_right]

/-- **Numbers are options by their closest doubles.** A strict enumeration accepts a
number if some option is a number with the same closest double, and hands out
the first such option. So it never refuses a number of which an option has
exactly the value. Where the input and the options are doubles, such as
integers of up to 53 bits, it accepts just the numbers of which an option has
the value, and hands out the first of those. -/
theorem enumeration_finds_number (hbuilt : EnumerationRule.ofList options = .ok rule)
    (hm : m.HookFree) (hstrict : m.strict = true)
    (hoptions : ∀ k, .number k ∈ options → k.WellFormed) (hn : n.WellFormed) (env : Env)
    (path : Path) :
    (∀ option, (enumeration rule m).attempt env (.number n) path = .ok option ↔
      EnumerationRule.IsFirst options (Value.RoundsLike n) option) ∧
    ((∃ option ∈ options, option.Denotes n) →
      ∃ option, (enumeration rule m).attempt env (.number n) path = .ok option) ∧
    (n.IsExact → (∀ k, .number k ∈ options → k.IsExact) →
      ((∃ option, (enumeration rule m).attempt env (.number n) path = .ok option) ↔
        ∃ option ∈ options, option.Denotes n) ∧
      ∀ option, (enumeration rule m).attempt env (.number n) path = .ok option ↔
        EnumerationRule.IsFirst options (Value.Denotes n) option) := by
  refine ⟨fun _ => attempt_enumeration_eq_ok_iff hbuilt hm hstrict, ?_⟩
  simp only [attempt_enumeration_eq_ok_iff hbuilt hm hstrict, EnumerationRule.exists_isFirst_iff]
  refine ⟨?_, fun hexact hexacts => ?_⟩
  · rintro ⟨option, hoption, hdenotes⟩
    refine ⟨option, hoption, EnumerationRule.roundsLike_of_denotes hn ?_ hdenotes⟩
    rintro k rfl
    exact hoptions k hoption
  · have hiff : ∀ option ∈ options, option.RoundsLike n ↔ option.Denotes n := by
      intro option hoption
      refine EnumerationRule.roundsLike_iff_denotes hn hexact ?_
      rintro k rfl
      exact hexacts k hoption
    exact ⟨exists_congr fun option => and_congr_right (hiff option), EnumerationRule.IsFirst.congr hiff⟩

/-- An integer looked for among a word, a fraction and itself. -/
theorem choice_finds_number :
    EnumerationRule.ofList [.string "one", .number (.double (.finite false 1)), .number (.integer 1)] =
        .ok ⟨[.string "one", .number (.double (.finite false 1)), .number (.integer 1)]⟩ ∧
      (choice [.string "one", .number (.double (.finite false 1)), .number (.integer 1)]).attempt
        inMachine (.number (.integer 1)) .root = .ok (.number (.integer 1)) := by
  have hone : (Number.integer 1).WellFormed := .integer (by decide) (by decide)
  have hoptions (k : Number) (hk : Value.number k ∈
      [.string "one", .number (.double (.finite false 1)), .number (.integer 1)]) :
      k.WellFormed ∧ k.IsExact := by
    simp only [List.mem_cons, reduceCtorEq, Value.number.injEq, List.not_mem_nil, or_false,
      false_or] at hk
    rcases hk with rfl | rfl
    · exact ⟨.double false (by decide +kernel), Number.isExact_double _⟩
    · exact ⟨hone, Number.isExact_of_natAbs_le (by decide)⟩
  have hbuilt : EnumerationRule.ofList
      [.string "one", .number (.double (.finite false 1)), .number (.integer 1)] =
        .ok ⟨[.string "one", .number (.double (.finite false 1)), .number (.integer 1)]⟩ := rfl
  obtain ⟨-, -, hexact⟩ := enumeration_finds_number hbuilt (m := {}) ⟨rfl, rfl, rfl⟩ rfl
    (fun k hk => (hoptions k hk).1) hone inMachine .root
  obtain ⟨-, hfirst⟩ := hexact (Number.isExact_of_natAbs_le (by decide)) fun k hk => (hoptions k hk).2
  refine ⟨hbuilt, (hfirst _).2 ⟨[.string "one", .number (.double (.finite false 1))], [], rfl,
    ⟨_, rfl, rfl⟩, ?_⟩⟩
  have hfraction : (Number.double (.finite false 1)).units? ≠ (Number.integer 1).units? := by
    decide +kernel
  rintro other hother ⟨k, rfl, hk⟩
  simp only [List.mem_cons, reduceCtorEq, Value.number.injEq, List.not_mem_nil, or_false,
    false_or] at hother
  exact hfraction (hother ▸ hk)

/-- Past 53 bits an integer is taken for its neighbour, and hides it behind it. -/
theorem choice_confuses_neighbours :
    EnumerationRule.ofList [.number (.integer (2 ^ 53 + 1)), .number (.integer (2 ^ 53))] =
        .ok ⟨[.number (.integer (2 ^ 53 + 1)), .number (.integer (2 ^ 53))]⟩ ∧
      (Number.integer (2 ^ 53 + 1)).units? ≠ (Number.integer (2 ^ 53)).units? ∧
      (choice [.number (.integer (2 ^ 53 + 1))]).attempt inMachine
        (.number (.integer (2 ^ 53))) .root = .ok (.number (.integer (2 ^ 53 + 1))) ∧
      (choice [.number (.integer (2 ^ 53 + 1)), .number (.integer (2 ^ 53))]).attempt inMachine
        (.number (.integer (2 ^ 53))) .root = .ok (.number (.integer (2 ^ 53 + 1))) := by
  have hround : (Binary64.ofInt (2 ^ 53 + 1)).same (.ofInt (2 ^ 53)) = true := by decide +kernel
  have hlike : (Value.number (.integer (2 ^ 53 + 1))).RoundsLike (.integer (2 ^ 53)) :=
    ⟨_, rfl, hround⟩
  have hfinds (later : List Value) (hbuilt : EnumerationRule.ofList
      (.number (.integer (2 ^ 53 + 1)) :: later) =
        .ok ⟨.number (.integer (2 ^ 53 + 1)) :: later⟩) :
      (choice (.number (.integer (2 ^ 53 + 1)) :: later)).attempt inMachine
        (.number (.integer (2 ^ 53))) .root = .ok (.number (.integer (2 ^ 53 + 1))) :=
    (attempt_enumeration_eq_ok_iff hbuilt ⟨rfl, rfl, rfl⟩ rfl).2
      ⟨[], later, rfl, hlike, fun _ h => nomatch h⟩
  exact ⟨rfl, by decide +kernel, hfinds [] rfl, hfinds _ rfl⟩

end Schema

end Conform
