import Conform.Rule.Number
import Mathlib.Algebra.Group.Nat.Defs
/-!
# Binary64 — which integers are doubles, and what zero's sign is worth

A magnitude with at most 53 significant bits is its own closest double, so
the safe integers survive being read as doubles. All integers that have the
integer form are at least finite. A number that is written as a value and
read back is the same number, except that the negative zero comes back as
the positive one, and no constraint tells the two apart.
-/


namespace Conform

namespace Binary64

theorem isNaN_of_isFinite {n : Binary64} (h : n.isFinite = true) : n.isNaN = false := by
  cases n with
  | finite => rfl
  | infinite => rfl
  | nan => cases h

/-- Equal numbers are equal to the same numbers. -/
theorem same_congr {a b : Binary64} (h : a.same b = true) (c : Binary64) : c.same a = c.same b := by
  unfold same at *
  cases ha : a.order with
  | none => simp [ha] at h
  | some x =>
    cases hb : b.order with
    | none => simp [ha, hb] at h
    | some y =>
      obtain rfl : x = y := by simpa [ha, hb] using h
      rfl

/-! ## Rounding what needs none -/

theorem one_eq : one = 2 ^ 1074 := by decide +kernel

theorem beyond_eq : beyond = 2 ^ 2098 := by decide +kernel

theorem one_pos : 0 < one := by decide +kernel

theorem beyond_pos : 0 < beyond := by decide +kernel

theorem spacing_pos (units : Nat) : 0 < spacing units := Nat.two_pow_pos _

theorem spacing_le_self {units : Nat} (h : units ≠ 0) : spacing units ≤ units := by
  have hpow : spacing units ≤ 2 ^ units.log2 :=
    Nat.pow_le_pow_right (by decide) (Nat.sub_le units.log2 52)
  exact Nat.le_trans hpow (Nat.log2_self_le h)

/-- A multiple of the step is its own closest multiple. -/
theorem closestMultiple_of_dvd {num step : Nat} (hstep : 0 < step) (h : step ∣ num) :
    closestMultiple num 1 step = num := by
  obtain ⟨q, rfl⟩ := h
  have hmod : step * q % (step * 1) = 0 := by rw [Nat.mul_one, Nat.mul_mod_right]
  have hdiv : step * q / (step * 1) = q := by rw [Nat.mul_one, Nat.mul_div_cancel_left q hstep]
  unfold closestMultiple
  simp only [hmod, hdiv]
  rw [if_pos (by omega), Nat.mul_comm]

theorem closestMultiple_le (num step : Nat) : closestMultiple num 1 step ≤ num + step := by
  have hdiv : num / (step * 1) * step ≤ num := by
    rw [Nat.mul_one]
    exact Nat.div_mul_le_self num step
  have hnext : (num / (step * 1) + 1) * step ≤ num + step := by
    rw [Nat.add_mul, Nat.one_mul]
    omega
  unfold closestMultiple
  dsimp only
  split
  · omega
  · split
    · exact hnext
    · split
      · omega
      · exact hnext

/-- A representable magnitude is its own closest double. -/
theorem ofUnits_of_representable {units : Nat} (h : Representable units) (negative : Bool) :
    ofUnits negative units 1 = finite negative units := by
  have hnearest : nearest units 1 = units := by
    unfold nearest
    rw [Nat.div_one]
    exact closestMultiple_of_dvd (spacing_pos units) h.2
  unfold ofUnits
  dsimp only
  rw [hnearest, if_pos h.1]

theorem nearest_le {units : Nat} (h : units ≠ 0) : nearest units 1 ≤ 2 * units := by
  unfold nearest
  rw [Nat.div_one]
  have := closestMultiple_le units (spacing units)
  have := spacing_le_self h
  omega

/-! ## Integers -/

/-- Bits of a factor and bits of a scale add up. -/
theorem mul_lt_of_bits {n scale bound a b c : Nat} (hscale : scale = 2 ^ b) (hbound : bound = 2 ^ c)
    (h : n < 2 ^ a) (habc : a + b ≤ c) : n * scale < bound := by
  subst hscale hbound
  calc n * 2 ^ b < 2 ^ a * 2 ^ b := Nat.mul_lt_mul_of_pos_right h (Nat.two_pow_pos b)
    _ = 2 ^ (a + b) := (Nat.pow_add 2 a b).symm
    _ ≤ 2 ^ c := Nat.pow_le_pow_right (by decide) habc

/-- A number of 53 bits stays a multiple of the spacing when it is scaled. -/
theorem spacing_dvd_mul {n scale b : Nat} (hscale : scale = 2 ^ b) (h : n < 2 ^ 53) :
    spacing (n * scale) ∣ n * scale := by
  subst hscale
  rcases Nat.eq_zero_or_pos n with rfl | hpos
  · rw [Nat.zero_mul]
    exact Nat.dvd_zero _
  · have hne : n * 2 ^ b ≠ 0 := by
      have := Nat.mul_pos hpos (Nat.two_pow_pos b)
      omega
    have hlog : (n * 2 ^ b).log2 < 53 + b :=
      (Nat.log2_lt hne).2 (mul_lt_of_bits rfl rfl h (Nat.le_refl _))
    have hpow : spacing (n * 2 ^ b) ∣ 2 ^ b := Nat.pow_dvd_pow 2 (by omega)
    exact Nat.dvd_trans hpow (Nat.dvd_mul_left (2 ^ b) n)

/-- Safe integers are doubles. -/
theorem representable_of_safe {n : Nat} (h : n ≤ greatestSafe) : Representable (n * one) := by
  have hlt : n < 2 ^ 53 := Nat.lt_of_le_of_lt h (by decide)
  exact ⟨mul_lt_of_bits one_eq beyond_eq hlt (by decide), spacing_dvd_mul one_eq hlt⟩

theorem ofInt_of_safe {n : Int} (h : n.natAbs ≤ greatestSafe) :
    ofInt n = finite (n < 0) (n.natAbs * one) :=
  ofUnits_of_representable (representable_of_safe h) _

/-- Integers of 64 bits are finite as doubles. -/
theorem isFinite_ofInt {n : Int} (h : n.natAbs < 2 ^ 64) : (ofInt n).isFinite := by
  have hnearest : nearest (n.natAbs * one) 1 < beyond := by
    rcases Nat.eq_zero_or_pos n.natAbs with hzero | hpos
    · rw [hzero, Nat.zero_mul]
      exact beyond_pos
    · have hle := nearest_le (Nat.ne_of_gt (Nat.mul_pos hpos one_pos))
      rw [← Nat.mul_assoc] at hle
      have htwice : 2 * n.natAbs < 2 ^ 65 := by omega
      exact Nat.lt_of_le_of_lt hle (mul_lt_of_bits one_eq beyond_eq htwice (by decide))
  unfold ofInt ofUnits
  dsimp only
  rw [if_pos hnearest]
  rfl

/-! ## The sign of zero -/

/-- The same double, or both are zeros. -/
def Alike (a b : Binary64) : Prop := a = b ∨ ∃ s t, a = finite s 0 ∧ b = finite t 0

theorem order_zero (negative : Bool) : (finite negative 0).order = some 0 := by
  cases negative <;> rfl

theorem toValue_zero (negative : Bool) : (finite negative 0).toValue = .number (.integer 0) := by
  have hintegral : (finite negative 0).isIntegral = true := by
    show decide (0 % one = 0) = true
    rw [Nat.zero_mod]
    rfl
  have htruncate : (finite negative 0).truncate = 0 := by
    show (if negative then -((0 / one : Nat) : Int) else (0 / one : Nat)) = 0
    rw [Nat.zero_div]
    cases negative <;> rfl
  simp only [toValue, hintegral, htruncate, Nat.zero_le, decide_true, Bool.and_self, if_pos]

theorem Alike.order_eq {a b : Binary64} (h : a.Alike b) : a.order = b.order := by
  rcases h with rfl | ⟨s, t, rfl, rfl⟩
  · rfl
  · rw [order_zero, order_zero]

theorem Alike.isFinite_eq {a b : Binary64} (h : a.Alike b) : a.isFinite = b.isFinite := by
  rcases h with rfl | ⟨s, t, rfl, rfl⟩ <;> rfl

theorem Alike.toValue_eq {a b : Binary64} (h : a.Alike b) : a.toValue = b.toValue := by
  rcases h with rfl | ⟨s, t, rfl, rfl⟩
  · rfl
  · rw [toValue_zero, toValue_zero]

/-- The remainders of two zeros have equal magnitudes. -/
theorem Alike.abs_rem_eq {a b : Binary64} (h : a.Alike b) (step : Binary64) :
    (a.rem step).abs = (b.rem step).abs ∧ (a.rem step).order = (b.rem step).order := by
  rcases h with rfl | ⟨s, t, rfl, rfl⟩
  · exact ⟨rfl, rfl⟩
  · cases step with
    | finite negative units =>
      simp only [rem, Nat.zero_mod]
      split
      · exact ⟨rfl, rfl⟩
      · exact ⟨rfl, by rw [order_zero, order_zero]⟩
    | infinite negative => exact ⟨rfl, by rw [rem, rem, order_zero, order_zero]⟩
    | nan => exact ⟨rfl, rfl⟩

/-- No constraint sees the sign of a zero. -/
theorem Alike.holds_eq {a b : Binary64} (h : a.Alike b) (c : NumberConstraint) :
    c.holds a = c.holds b := by
  have horder := h.order_eq
  have hintegral : a.isIntegral = b.isIntegral := by
    rcases h with rfl | ⟨s, t, rfl, rfl⟩ <;> rfl
  have heven : NumberConstraint.isEven a = NumberConstraint.isEven b := by
    unfold NumberConstraint.isEven same
    rw [(h.abs_rem_eq _).2]
  cases c with
  | multipleOf step =>
    simp only [NumberConstraint.holds, isMultipleOf, (h.abs_rem_eq step).1]
  | _ => simp only [NumberConstraint.holds, hintegral, h.isFinite_eq, heven, le, lt, horder]

/-- A safe integral number is the integer it truncates to, up to the sign of zero. -/
theorem alike_truncate {negative : Bool} {units : Nat} (hintegral : units % one = 0)
    (hsafe : units ≤ greatestSafe * one) :
    (ofInt (finite negative units).truncate).Alike (finite negative units) := by
  obtain ⟨n, hn⟩ : ∃ n, n = units / one := ⟨_, rfl⟩
  have hunits : n * one = units := by
    rw [hn]
    exact Nat.div_mul_cancel (Nat.dvd_of_mod_eq_zero hintegral)
  have hle : n ≤ greatestSafe := by
    rw [hn]
    exact Nat.div_le_of_le_mul (by rwa [Nat.mul_comm])
  have htruncate : (finite negative units).truncate = if negative then -(n : Int) else n := by
    rw [hn]
    rfl
  have habs : (if negative then -(n : Int) else n).natAbs = n := by
    cases negative <;> simp
  rw [htruncate, ofInt_of_safe (by rwa [habs]), habs, hunits]
  -- only the sign is left, and an integer has none at zero
  cases negative with
  | false =>
    left
    simp
  | true =>
    rcases Nat.eq_zero_or_pos n with hzero | hpos
    · right
      exact ⟨false, true, by simp [hzero, ← hunits], by simp [hzero, ← hunits]⟩
    · left
      simp [hpos]

/-- A finite number written as a value is a number that reads back alike. -/
theorem exists_number_of_isFinite {n : Binary64} (h : n.isFinite = true) :
    ∃ m : Number, n.toValue = .number m ∧ m.toBinary64.Alike n := by
  cases n with
  | infinite => cases h
  | nan => cases h
  | finite negative units =>
    unfold toValue
    dsimp only
    split
    · rename_i hsafe
      refine ⟨.integer _, rfl, ?_⟩
      obtain ⟨hintegral, hle⟩ := Bool.and_eq_true_iff.1 hsafe
      exact alike_truncate (of_decide_eq_true hintegral) (of_decide_eq_true hle)
    · exact ⟨.double _, rfl, .inl rfl⟩

end Binary64

/-- A number in a form that values have: an integer of at most 64 bits, or a
finite double. -/
def Number.Proper : Number → Prop
  | .integer n => leastInteger ≤ n ∧ n ≤ greatestInteger
  | .double x => x.isFinite = true

theorem Number.Proper.isFinite {n : Number} (h : n.Proper) : n.toBinary64.isFinite = true := by
  cases n with
  | integer n =>
    obtain ⟨hleast, hgreatest⟩ := h
    refine Binary64.isFinite_ofInt ?_
    unfold leastInteger at hleast
    unfold greatestInteger at hgreatest
    omega
  | double x => exact h

end Conform
