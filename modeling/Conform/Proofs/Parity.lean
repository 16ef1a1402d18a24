import Conform.Proofs.Membership
import Mathlib.Algebra.Field.Rat
import Mathlib.Algebra.Ring.Int.Parity
/-!
# Parity — which numbers are integers, fractions, even and odd

A finite double is a rational number, and what is asked of it is a matter of that
number. An integer and an even number are recognized as such. The constraint on
fractions refuses the integers and nothing else, so the infinities pass; the
one on odd numbers refuses the even ones and the infinities, so fractions pass.
-/


namespace Conform

namespace Binary64

/-! ## The value of a double -/

/-- The units of a finite double, with its sign. -/
def signed (negative : Bool) (units : Nat) : Int := if negative then -units else units

/-- The rational number that a finite double is. -/
def toRat? : Binary64 → Option ℚ
  | finite negative units => some (signed negative units / one)
  | _ => none

/-- The double is an integer. -/
def IsInteger (n : Binary64) : Prop := ∃ k : ℤ, n.toRat? = some (k : ℚ)

def IsEven (n : Binary64) : Prop := ∃ k : ℤ, Even k ∧ n.toRat? = some (k : ℚ)

def IsOdd (n : Binary64) : Prop := ∃ k : ℤ, Odd k ∧ n.toRat? = some (k : ℚ)

/-- The double is finite and lies between two integers. -/
def IsFraction (n : Binary64) : Prop := ∃ q, n.toRat? = some q ∧ ∀ k : ℤ, q ≠ k

variable {n : Binary64} {negative : Bool} {units : Nat}

theorem toRat?_finite_eq_iff {k : ℤ} :
    (finite negative units).toRat? = some (k : ℚ) ↔ signed negative units = k * one := by
  have hone : (one : ℚ) ≠ 0 := by
    have hpos := one_pos
    exact_mod_cast hpos.ne'
  rw [toRat?, Option.some_inj, div_eq_iff hone]
  exact_mod_cast Iff.rfl

/-- The multiples of an integer are the doubles with a multiple of its units. -/
theorem exists_toRat?_eq_mul_iff (m : Nat) :
    (∃ k : ℤ, (finite negative units).toRat? = some ((m * k : ℤ) : ℚ)) ↔ m * one ∣ units := by
  have habs : (m * one : ℤ) ∣ signed negative units ↔ m * one ∣ units := by
    unfold signed
    cases negative with
    | false =>
      rw [if_neg Bool.false_ne_true]
      exact_mod_cast Iff.rfl
    | true =>
      rw [if_pos rfl, Int.dvd_neg]
      exact_mod_cast Iff.rfl
  rw [← habs]
  constructor
  · rintro ⟨k, hk⟩
    exact ⟨k, by rw [toRat?_finite_eq_iff.1 hk, mul_right_comm]⟩
  · rintro ⟨k, hk⟩
    exact ⟨k, toRat?_finite_eq_iff.2 (by rw [hk, mul_right_comm])⟩

theorem isInteger_finite_iff : (finite negative units).IsInteger ↔ one ∣ units := by
  have hmul : (∃ k : ℤ, (finite negative units).toRat? = some (((1 : ℕ) * k : ℤ) : ℚ)) ↔
      1 * one ∣ units := exists_toRat?_eq_mul_iff 1
  simpa [IsInteger] using hmul

theorem isEven_finite_iff : (finite negative units).IsEven ↔ 2 * one ∣ units := by
  have hmul : (∃ k : ℤ, (finite negative units).toRat? = some (((2 : ℕ) * k : ℤ) : ℚ)) ↔
      2 * one ∣ units := exists_toRat?_eq_mul_iff 2
  rw [← hmul]
  constructor
  · rintro ⟨k, hk, hvalue⟩
    obtain ⟨half, rfl⟩ := hk.two_dvd
    exact ⟨half, hvalue⟩
  · rintro ⟨half, hvalue⟩
    exact ⟨_, even_two_mul half, hvalue⟩

theorem isInteger_iff : n.IsInteger ↔ n.IsEven ∨ n.IsOdd := by
  constructor
  · rintro ⟨k, hk⟩
    rcases Int.even_or_odd k with heven | hodd
    · exact .inl ⟨k, heven, hk⟩
    · exact .inr ⟨k, hodd, hk⟩
  · rintro (⟨k, -, hk⟩ | ⟨k, -, hk⟩)
    · exact ⟨k, hk⟩
    · exact ⟨k, hk⟩

theorem IsEven.isInteger (h : n.IsEven) : n.IsInteger := isInteger_iff.2 (.inl h)

theorem IsOdd.isInteger (h : n.IsOdd) : n.IsInteger := isInteger_iff.2 (.inr h)

theorem IsOdd.not_isEven (h : n.IsOdd) : ¬ n.IsEven := by
  obtain ⟨k, hodd, hk⟩ := h
  rintro ⟨k', heven, hk'⟩
  obtain rfl : k = k' := by exact_mod_cast Option.some.inj (hk.symm.trans hk')
  exact Int.not_even_iff_odd.2 hodd heven

/-- What has a value is finite. -/
theorem isFinite_of_toRat? {q : ℚ} (h : n.toRat? = some q) : n.isFinite = true := by
  cases n with
  | finite => rfl
  | infinite => cases h
  | nan => cases h

theorem IsInteger.isFinite (h : n.IsInteger) : n.isFinite = true := by
  obtain ⟨k, hk⟩ := h
  exact isFinite_of_toRat? hk

theorem IsFraction.isFinite (h : n.IsFraction) : n.isFinite = true := by
  obtain ⟨q, hq, -⟩ := h
  exact isFinite_of_toRat? hq

/-- Every finite double is an integer or a fraction, and no double is both. -/
theorem isFraction_iff : n.IsFraction ↔ n.isFinite = true ∧ ¬ n.IsInteger := by
  constructor
  · intro hfraction
    refine ⟨hfraction.isFinite, ?_⟩
    rintro ⟨k, hk⟩
    obtain ⟨q, hq, hbetween⟩ := hfraction
    exact hbetween k (Option.some.inj (hq.symm.trans hk))
  · rintro ⟨hfinite, hinteger⟩
    cases n with
    | finite =>
      refine ⟨_, rfl, ?_⟩
      rintro k hk
      exact hinteger ⟨k, congrArg some hk⟩
    | infinite => cases hfinite
    | nan => cases hfinite

/-! ## What the constraints compute -/

theorem isIntegral_iff : n.isIntegral = true ↔ n.IsInteger := by
  cases n with
  | finite negative units =>
    rw [isInteger_finite_iff, Nat.dvd_iff_mod_eq_zero]
    exact decide_eq_true_iff
  | infinite => exact iff_of_false Bool.false_ne_true fun h => Bool.false_ne_true h.isFinite
  | nan => exact iff_of_false Bool.false_ne_true fun h => Bool.false_ne_true h.isFinite

/-- The remainder of a division by two is exact, so it is zero for the even numbers only. -/
theorem same_rem_two_iff : (n.rem (ofInt 2)).same zero = true ↔ n.IsEven := by
  have htwo : ofInt 2 = finite false (2 * one) := by
    rw [ofInt_of_safe (by decide)]
    congr
  rw [htwo]
  cases n with
  | finite negative units =>
    have hpos : ¬ 2 * one = 0 := by
      have := one_pos
      omega
    rw [rem, if_neg hpos, isEven_finite_iff, Nat.dvd_iff_mod_eq_zero, same_iff]
    -- the remainder has the sign of the number, which does not matter for zero
    generalize units % (2 * one) = rest
    simp only [order_finite, zero, Option.some_inj, exists_eq_left']
    split
    · omega
    · omega
  | infinite =>
    exact iff_of_false Bool.false_ne_true fun h => Bool.false_ne_true h.isInteger.isFinite
  | nan =>
    exact iff_of_false Bool.false_ne_true fun h => Bool.false_ne_true h.isInteger.isFinite

end Binary64

/-! ## What passes -/

namespace NumberConstraint

/-- **What passes as integer, fraction, even and odd.** Exactly the integers pass as
integers, and the even integers as even. With the fractions pass those that are not
finite, and with the odd integers all fractions. -/
theorem issues_of_parity (n : Binary64) (message : Option String) (path : Path) :
    (integer.issue? message n path = none ↔ n.IsInteger) ∧
    (fractional.issue? message n path = none ↔ n.IsFraction ∨ n.isFinite = false) ∧
    (even.issue? message n path = none ↔ n.IsEven) ∧
    (odd.issue? message n path = none ↔ n.IsOdd ∨ n.IsFraction) := by
  have hinteger : n.isIntegral = true ↔ n.IsInteger := Binary64.isIntegral_iff
  have heven : isEven n = true ↔ n.IsEven := Binary64.same_rem_two_iff
  have hfraction : n.IsFraction ↔ n.isFinite = true ∧ ¬ n.IsInteger := Binary64.isFraction_iff
  simp only [issue?_eq_none_iff, holds, Bool.and_eq_true, Bool.not_eq_true']
  simp only [← Bool.not_eq_true, hinteger, heven, hfraction]
  refine ⟨trivial, ?_, trivial, ?_⟩
  · have hfinite : n.IsInteger → n.isFinite = true := Binary64.IsInteger.isFinite
    tauto
  · have hodd : n.IsOdd → ¬ n.IsEven ∧ n.isFinite = true := fun h =>
      ⟨h.not_isEven, h.isInteger.isFinite⟩
    have hparity : n.IsInteger ↔ n.IsEven ∨ n.IsOdd := Binary64.isInteger_iff
    tauto

/-- The double between one and two. -/
def oneAndAHalf : Binary64 := .finite false (3 * Nat.pow 2 1073)

/-- One and a half is accepted as an odd number, and an infinity as a fraction. -/
theorem odd_accepts_fraction :
    oneAndAHalf.IsFraction ∧
      ((NumberRule.constrain {} odd).check true (.number (.double oneAndAHalf)) .root).output? =
        some oneAndAHalf ∧
      ((NumberRule.constrain {} fractional).check false (.string "inf") .root).output? =
        some (.infinite false) := by
  have hinteger : ¬ oneAndAHalf.IsInteger := by
    rw [← Binary64.isIntegral_iff]
    decide +kernel
  refine ⟨Binary64.isFraction_iff.2 ⟨rfl, hinteger⟩, ?_, ?_⟩
  · decide +kernel
  · decide +kernel

end NumberConstraint

end Conform
