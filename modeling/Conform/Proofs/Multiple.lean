import Conform.Proofs.Parity
import Conform.Proofs.Rounding
/-!
# Multiple — which integers are multiples of a step

A number passes as a multiple of a step if the remainder is as close to zero, or to the
step, as the tolerance allows. Remainders of doubles are exact, and those of integers are
integers again. The tolerance is ten times the step times the distance from one to the
next double. Up to a step of `4 * 10 ^ 14` it is computed without rounding and is less
than one, so among integers nothing but a remainder of zero is close enough: the multiples
pass, and no other integer does.
-/


namespace Conform

namespace Binary64

/-! ## Integers as doubles -/

/-- A quotient that is a double is its own closest double. -/
theorem ofUnits_mul_of_representable {units den : Nat} (h : Representable units) (hden : 0 < den)
    (negative : Bool) : ofUnits negative (units * den) den = finite negative units := by
  have hnearest : nearest (units * den) den = units := by
    have hscale : nearest (den * units) (den * 1) = nearest units 1 := nearest_scale hden units 1
    rw [Nat.mul_one, Nat.mul_comm den units] at hscale
    rw [hscale, nearest_of_representable h]
  unfold ofUnits
  dsimp only
  rw [hnearest, if_pos h.1]

/-- A double that is an integer has a magnitude of whole ones, and the sign of the integer
unless it is a zero. -/
theorem exists_eq_finite_of_toRat? {n : Binary64} {a : ℤ} (h : n.toRat? = some (a : ℚ)) :
    ∃ negative, n = finite negative (a.natAbs * one) ∧ signed negative a.natAbs = a := by
  cases n with
  | finite negative units =>
    have hsigned : signed negative units = a * one := toRat?_finite_eq_iff.1 h
    have hunits : a.natAbs * one = units := by
      have hnatAbs := congrArg Int.natAbs hsigned
      rw [Int.natAbs_mul, Int.natAbs_natCast] at hnatAbs
      rw [← hnatAbs]
      cases negative <;> simp [signed]
    refine ⟨negative, by rw [hunits], ?_⟩
    have hone : (one : ℤ) ≠ 0 := by
      have := one_pos
      omega
    refine Int.eq_of_mul_eq_mul_right hone ?_
    rw [← hsigned, ← hunits]
    unfold signed
    rw [Int.natCast_mul]
    split
    · exact Int.neg_mul _ _
    · rfl
  | infinite => cases h
  | nan => cases h

theorem toRat?_ofInt_of_safe {a : ℤ} (h : a.natAbs ≤ greatestSafe) :
    (ofInt a).toRat? = some (a : ℚ) := by
  have hexact : (Number.integer a).IsExact :=
    Number.isExact_of_natAbs_le (Nat.le_trans h (by decide))
  rw [ofInt_of_safe h, toRat?_finite_eq_iff]
  have horder : (ofInt a).order = some (a * one) := hexact
  rw [ofInt_of_safe h, order_finite] at horder
  exact Option.some.inj horder

/-- A safe integer is written as an integer, whatever the sign of a zero. -/
theorem toValue_of_toRat? {n : Binary64} {a : ℤ} (h : n.toRat? = some (a : ℚ))
    (ha : a.natAbs ≤ greatestSafe) : n.toValue = .number (.integer a) := by
  obtain ⟨negative, rfl, hsigned⟩ := exists_eq_finite_of_toRat? h
  have hintegral : (finite negative (a.natAbs * one)).isIntegral = true :=
    isIntegral_iff.2 ⟨a, h⟩
  have hle : a.natAbs * one ≤ greatestSafe * one := Nat.mul_le_mul_right one ha
  have hquotient : ((a.natAbs * one : Nat) : ℤ) / one = a.natAbs := by
    have hone : (one : ℤ) ≠ 0 := by
      have := one_pos
      omega
    rw [Int.natCast_mul, Int.mul_ediv_cancel _ hone]
  have htruncate : (finite negative (a.natAbs * one)).truncate = a := by
    unfold truncate
    dsimp only
    rw [hquotient]
    exact hsigned
  simp only [toValue, hintegral, htruncate, hle, decide_true, Bool.and_self, if_pos]

/-! ## The tolerance -/

theorem le_finite_iff {m n : Nat} : (finite false m).le (finite false n) = true ↔ m ≤ n := by
  unfold le
  rw [order_finite, order_finite]
  simp

theorem mul_finite (m n : Nat) :
    (finite false m).mul (finite false n) = ofUnits false (m * n) one := rfl

/-- The distance from one to the next double, in units. -/
def unitsOfEpsilon : Nat := Nat.pow 2 1022

theorem unitsOfEpsilon_eq : unitsOfEpsilon = 2 ^ 1022 := by decide +kernel

theorem epsilon_eq : epsilon = finite false unitsOfEpsilon := by
  unfold epsilon unitsOfEpsilon
  rfl

/-- The tolerance of an integral step is computed without rounding, if ten times the step
has no more than 53 bits. -/
theorem tolerance_finite {k : Nat} (hk : 10 * k < 2 ^ 53) (negative : Bool) :
    tolerance (finite negative (k * one)) = finite false (10 * k * unitsOfEpsilon) := by
  have hrepresentable {n : Nat} (hn : n < 2 ^ 53) : Representable (n * unitsOfEpsilon) :=
    ⟨mul_lt_of_bits unitsOfEpsilon_eq beyond_eq hn (by decide), spacing_dvd_mul unitsOfEpsilon_eq hn⟩
  have hproduct : (finite false (k * one)).mul epsilon = finite false (k * unitsOfEpsilon) := by
    rw [epsilon_eq, mul_finite, Nat.mul_right_comm]
    exact ofUnits_mul_of_representable (hrepresentable (by omega)) one_pos false
  have hten : ofInt 10 = finite false (10 * one) := by
    rw [ofInt_of_safe (by decide)]
    congr
  have habs : (finite negative (k * one)).abs = finite false (k * one) := rfl
  rw [tolerance, habs, hproduct, hten, mul_finite, ← Nat.mul_assoc,
    Nat.mul_comm (k * unitsOfEpsilon) 10, ← Nat.mul_assoc]
  exact ofUnits_mul_of_representable (hrepresentable hk) one_pos false

/-- It is less than one, if ten times the step has no more than 52 bits. -/
theorem tolerance_lt_one {k : Nat} (hk : 10 * k < 2 ^ 52) : 10 * k * unitsOfEpsilon < one :=
  mul_lt_of_bits unitsOfEpsilon_eq one_eq hk (by decide)

/-! ## Multiples -/

/-- The remainder of integers is that of their magnitudes, with the sign of the first. -/
theorem rem_finite {a k : Nat} (hk : 0 < k) (negative sign : Bool) :
    (finite negative (a * one)).rem (finite sign (k * one)) = finite negative (a % k * one) := by
  have hpos : ¬ k * one = 0 := Nat.ne_of_gt (Nat.mul_pos hk one_pos)
  rw [rem, if_neg hpos, Nat.mul_mod_mul_right]

/-- A remainder lies below the step by a whole number of ones. -/
theorem abs_sub_finite {rest k : Nat} (hrest : rest < k) (hk : k ≤ greatestSafe) :
    ((finite false (rest * one)).sub (finite false (k * one))).abs =
      finite false ((k - rest) * one) := by
  have hlt : rest * one < k * one := Nat.mul_lt_mul_of_pos_right hrest one_pos
  have hdifference : (finite false (rest * one)).sub (finite false (k * one)) =
      finite true ((k - rest) * one) := by
    have hneg : (finite false (k * one)).neg = finite true (k * one) := rfl
    rw [sub, hneg, add, if_neg Bool.false_ne_true, if_neg (Nat.ne_of_lt hlt),
      if_neg (Nat.lt_asymm hlt), ← Nat.sub_mul]
    exact ofUnits_of_representable (representable_of_safe (by omega)) true
  rw [hdifference, abs]

/-- **The tolerance tells integers apart.** With an integral step that is not too long, the
multiples among the integers are those that the step divides. -/
theorem isMultipleOf_finite_iff {a k : Nat} (hpos : 0 < k) (hk : 10 * k < 2 ^ 52)
    (negative sign : Bool) :
    (finite negative (a * one)).isMultipleOf (finite sign (k * one)) = true ↔ k ∣ a := by
  have hrest : a % k < k := Nat.mod_lt a hpos
  have hsafe : k ≤ greatestSafe := Nat.le_trans (show k ≤ 2 ^ 52 by omega) (by decide)
  have hone := tolerance_lt_one hk
  have hstep : (finite sign (k * one)).abs = finite false (k * one) := rfl
  have hmagnitude : (finite negative (a % k * one)).abs = finite false (a % k * one) := rfl
  unfold isMultipleOf
  dsimp only
  rw [tolerance_finite (by omega), rem_finite hpos, hmagnitude, hstep, abs_sub_finite hrest hsafe,
    Bool.or_eq_true, le_finite_iff, le_finite_iff, Nat.dvd_iff_mod_eq_zero]
  -- a whole number of ones is within the tolerance only if it is zero
  have hzero {n : Nat} (h : n * one ≤ 10 * k * unitsOfEpsilon) : n = 0 := by
    by_contra hne
    have hle : one ≤ n * one := Nat.le_mul_of_pos_left one (Nat.pos_of_ne_zero hne)
    omega
  constructor
  · rintro (hnear | hnear)
    · exact hzero hnear
    · have := hzero hnear
      omega
  · intro hdivides
    left
    rw [hdivides, Nat.zero_mul]
    exact Nat.zero_le _

/-- Doubles that are integers are multiples as integers are. -/
theorem isMultipleOf_iff_dvd {n step : Binary64} {a k : ℤ} (hn : n.toRat? = some (a : ℚ))
    (hstep : step.toRat? = some (k : ℚ)) (hpos : 0 < k.natAbs) (hk : 10 * k.natAbs < 2 ^ 52) :
    n.isMultipleOf step = true ↔ k ∣ a := by
  obtain ⟨negative, rfl, -⟩ := exists_eq_finite_of_toRat? hn
  obtain ⟨sign, rfl, -⟩ := exists_eq_finite_of_toRat? hstep
  rw [isMultipleOf_finite_iff hpos hk, Int.natAbs_dvd_natAbs]

/-- A longer step admits the integer next to a multiple. -/
example : (ofInt 1).isMultipleOf (ofInt 450359962737050) = true := by decide +kernel

end Binary64

/-! ## What passes -/

/-- The rational number that a number is, if it is finite. -/
def Number.toRat? : Number → Option ℚ
  | integer n => some n
  | double x => x.toRat?

/-- A safe integer has its value as a double too, in whichever form it is given. -/
theorem Number.toRat?_toBinary64 {n : Number} {a : ℤ} (h : n.toRat? = some (a : ℚ))
    (ha : a.natAbs ≤ Binary64.greatestSafe) : n.toBinary64.toRat? = some (a : ℚ) := by
  cases n with
  | integer b =>
    have heq : b = a := by exact_mod_cast Option.some.inj h
    subst heq
    exact Binary64.toRat?_ofInt_of_safe ha
  | double x => exact h

theorem NumberConstraint.holds_multipleOf_iff {n step : Binary64} {a k : ℤ}
    (hn : n.toRat? = some (a : ℚ)) (hstep : step.toRat? = some (k : ℚ)) (hpos : 0 < k.natAbs)
    (hk : 10 * k.natAbs < 2 ^ 52) : (multipleOf step).holds n = true ↔ k ∣ a := by
  have hzero : step.same .zero = false := by
    obtain ⟨sign, rfl, -⟩ := Binary64.exists_eq_finite_of_toRat? hstep
    have hunits : 0 < k.natAbs * Binary64.one := Nat.mul_pos hpos Binary64.one_pos
    generalize k.natAbs * Binary64.one = units at hunits
    rw [Bool.eq_false_iff, ne_eq, Binary64.same_iff]
    rintro ⟨x, hx, hzero⟩
    rw [Binary64.order_finite] at hx
    rw [Binary64.zero, Binary64.order_zero] at hzero
    obtain rfl := Option.some.inj hzero
    have hx := Option.some.inj hx
    split at hx
    · omega
    · omega
  rw [← Binary64.isMultipleOf_iff_dvd hn hstep hpos hk]
  simp [holds, hzero]

theorem NumberConstraint.code_of_issue? {c : NumberConstraint} {message : Option String}
    {n : Binary64} {path : Path} {issue : Issue} (h : c.issue? message n path = some issue) :
    issue.code = c.code := by
  unfold issue? at h
  split at h
  · cases h
  · split at h
    · rename_i htype
      obtain rfl := Option.some.inj h
      cases c with
      | integer => rfl
      | fractional => rfl
      | _ => cases htype
    · obtain rfl := Option.some.inj h
      rfl

namespace NumberRule

variable {n : Number} {c : NumberConstraint} {path : Path}

/-- A rule with one constraint checks the number as it is. -/
theorem check_constrain (h : n.toBinary64.isNaN = false) (strict : Bool) :
    (({} : NumberRule).constrain c).check strict (.number n) path =
      (({} : NumberRule).constrain c).constraints.verify n.toBinary64
        fun c message => c.issue? message n.toBinary64 path := by
  have hread : (({} : NumberRule).constrain c).read strict (.number n) path = .ok n.toBinary64 :=
    read_number_eq_ok_iff.2 ⟨h, rfl⟩
  unfold check
  rw [hread]
  rfl

/-- A number that meets the constraint passes, -/
theorem check_constrain_of_holds (h : n.toBinary64.isNaN = false) (strict : Bool)
    (hholds : c.holds n.toBinary64 = true) :
    (({} : NumberRule).constrain c).check strict (.number n) path = .ok n.toBinary64 := by
  rw [check_constrain h, Ranked.verify_eq_ok_iff]
  refine ⟨?_, rfl⟩
  intro entry hentry
  obtain rfl : entry = (c, none) := List.mem_singleton.1 hentry
  exact NumberConstraint.issue?_eq_none_iff.2 hholds

/-- and one that does not is reported with the code of the constraint. -/
theorem check_constrain_of_not_holds (h : n.toBinary64.isNaN = false) (strict : Bool)
    (path : Path) (hholds : ¬ c.holds n.toBinary64 = true) :
    ∃ issue : Issue, issue.DirectAt path ∧ issue.code = c.code ∧
      (({} : NumberRule).constrain c).check strict (.number n) path = .error (.single issue) := by
  rw [check_constrain h]
  cases hverify : (({} : NumberRule).constrain c).constraints.verify n.toBinary64
      fun c message => c.issue? message n.toBinary64 path with
  | ok output =>
    have hnone := (Ranked.verify_eq_ok_iff.1 hverify).1 (c, none) (List.mem_singleton.2 rfl)
    exact absurd (NumberConstraint.issue?_eq_none_iff.1 hnone) hholds
  | error found =>
    obtain ⟨entry, hentry, issue, hissue, rfl⟩ := Ranked.exists_of_verify_eq_error hverify
    obtain rfl : entry = (c, none) := List.mem_singleton.1 hentry
    exact ⟨issue, NumberConstraint.directAt_of_issue? hissue,
      NumberConstraint.code_of_issue? hissue, rfl⟩

end NumberRule

namespace Schema

/-- A number that has to be a multiple of a step. -/
def multipleOf (step : Binary64) (m : Modifiers Binary64) : Schema :=
  number (({} : NumberRule).constrain (.multipleOf step)) m

/-- **Among integers a step admits its multiples.** For an integral step of at most
`4 * 10 ^ 14` and integers of at most 53 bits, of either sign and in either form, the
tolerance makes no difference: a number passes exactly if the step divides it. It is then
handed out as an integer, and otherwise reported with one finding. -/
theorem multiples_pass {n : Number} {step : Binary64} {a k : ℤ} (hn : n.toRat? = some (a : ℚ))
    (ha : a.natAbs ≤ 2 ^ 53 - 1) (hstep : step.toRat? = some (k : ℚ)) (hpos : 0 < k.natAbs)
    (hk : k.natAbs ≤ 4 * 10 ^ 14) {m : Modifiers Binary64} (hm : m.HookFree) (env : Env)
    (path : Path) :
    ((∃ output, (multipleOf step m).attempt env (.number n) path = .ok output) ↔ k ∣ a) ∧
    (k ∣ a → (multipleOf step m).attempt env (.number n) path = .ok (.number (.integer a))) ∧
    (¬ k ∣ a → ∃ issue : Issue, issue.DirectAt path ∧ issue.code = "multiple_of" ∧
      (multipleOf step m).attempt env (.number n) path = .error (.single issue)) := by
  have hsafe : a.natAbs ≤ Binary64.greatestSafe := ha
  have hvalue := Number.toRat?_toBinary64 hn hsafe
  have hnan : n.toBinary64.isNaN = false :=
    Binary64.isNaN_of_isFinite (Binary64.isFinite_of_toRat? hvalue)
  have hholds : (NumberConstraint.multipleOf step).holds n.toBinary64 = true ↔ k ∣ a :=
    NumberConstraint.holds_multipleOf_iff hvalue hstep hpos (by omega)
  have hattempt : (multipleOf step m).attempt env (.number n) path =
      ((({} : NumberRule).constrain (.multipleOf step)).check m.strict (.number n) path).map
        Binary64.toValue := hm.validator_present _
  have hpass (hdivides : k ∣ a) :
      (multipleOf step m).attempt env (.number n) path = .ok (.number (.integer a)) := by
    rw [hattempt, NumberRule.check_constrain_of_holds hnan _ (hholds.2 hdivides), Except.map,
      Binary64.toValue_of_toRat? hvalue hsafe]
  have hfail (hdivides : ¬ k ∣ a) : ∃ issue : Issue, issue.DirectAt path ∧
      issue.code = "multiple_of" ∧
      (multipleOf step m).attempt env (.number n) path = .error (.single issue) := by
    obtain ⟨issue, hdirect, hcode, herror⟩ := NumberRule.check_constrain_of_not_holds hnan m.strict
      path fun h => hdivides (hholds.1 h)
    refine ⟨issue, hdirect, hcode, ?_⟩
    rw [hattempt, herror, Except.map]
  refine ⟨⟨?_, fun h => ⟨_, hpass h⟩⟩, hpass, hfail⟩
  rintro ⟨output, houtput⟩
  by_contra hdivides
  obtain ⟨issue, -, -, herror⟩ := hfail hdivides
  rw [houtput] at herror
  cases herror

/-- The longest step admits a negative multiple and refuses the integer above it. -/
theorem multiples_of_longest_step :
    (Binary64.ofInt (4 * 10 ^ 14)).toRat? = some ((4 * 10 ^ 14 : ℤ) : ℚ) ∧
      (multipleOf (.ofInt (4 * 10 ^ 14)) {}).attempt inMachine
        (.number (.integer (-88 * 10 ^ 14))) .root =
          .ok (.number (.integer (-88 * 10 ^ 14))) ∧
      ∃ issue : Issue, issue.code = "multiple_of" ∧
        (multipleOf (.ofInt (4 * 10 ^ 14)) {}).attempt inMachine
          (.number (.integer (-88 * 10 ^ 14 + 1))) .root = .error (.single issue) := by
  have hstep : (Binary64.ofInt (4 * 10 ^ 14)).toRat? = some ((4 * 10 ^ 14 : ℤ) : ℚ) :=
    Binary64.toRat?_ofInt_of_safe (by decide)
  obtain ⟨-, hpass, -⟩ := multiples_pass (n := .integer (-88 * 10 ^ 14)) rfl (by decide) hstep
    (by decide) (by decide) (m := {}) ⟨rfl, rfl, rfl⟩ inMachine .root
  obtain ⟨-, -, hfail⟩ := multiples_pass (n := .integer (-88 * 10 ^ 14 + 1)) rfl (by decide) hstep
    (by decide) (by decide) (m := {}) ⟨rfl, rfl, rfl⟩ inMachine .root
  obtain ⟨issue, -, hcode, hissue⟩ := hfail (by decide)
  exact ⟨hstep, hpass (by decide), issue, hcode, hissue⟩

end Schema

end Conform
