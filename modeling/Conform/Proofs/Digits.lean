import Conform.Decimal.Reader
import Conform.Calendar
import Mathlib.Algebra.Group.Nat.Defs
import Mathlib.Data.List.Induction
/-!
# Digits — what is written in digits reads back

`naturalOf` reads what `Nat.toDigits` writes, whether zeros are put in front of
it or not.
-/


namespace Conform

theorem naturalOf_eq (digits : List Char) : naturalOf digits = Nat.ofDigitChars 10 digits 0 := by
  simp only [naturalOf, Nat.ofDigitChars_eq_foldl, Nat.mul_comm, digitValue]

/-- A number reads back from its digits. -/
@[simp] theorem naturalOf_toDigits (n : Nat) : naturalOf (Nat.toDigits 10 n) = n := by
  rw [naturalOf_eq, Nat.ofDigitChars_toDigits (by decide) (by decide)]

theorem naturalOf_append (digits more : List Char) :
    naturalOf (digits ++ more) = Nat.ofDigitChars 10 more (naturalOf digits) := by
  rw [naturalOf_eq, naturalOf_eq, Nat.ofDigitChars_append]

theorem naturalOf_replicate (count : Nat) : naturalOf (List.replicate count '0') = 0 := by
  induction count with
  | zero => rfl
  | succ count ih => rw [List.replicate_succ', naturalOf_append, ih]; rfl

/-- Zeros in front change nothing. -/
theorem naturalOf_zeros_append (count : Nat) (digits : List Char) :
    naturalOf (List.replicate count '0' ++ digits) = naturalOf digits := by
  rw [naturalOf_append, naturalOf_replicate, naturalOf_eq]

theorem digitValue_le {c : Char} (h : isAsciiDigit c = true) : digitValue c ≤ 9 := by
  simp only [isAsciiDigit, Bool.and_eq_true, decide_eq_true_eq, Char.le_def] at h
  have hlast : c.toNat ≤ 57 := h.2
  unfold digitValue
  show c.toNat - 48 ≤ 9
  omega

/-- So many digits stay below that power of ten. -/
theorem naturalOf_lt {digits : List Char} (h : ∀ c ∈ digits, isAsciiDigit c = true) :
    naturalOf digits < 10 ^ digits.length := by
  induction digits using List.reverseRecOn with
  | nil => decide
  | append_singleton digits c ih =>
    have hbefore := ih fun d hd => h d (List.mem_append_left [c] hd)
    have hlast := digitValue_le (h c (by simp))
    have hstep : naturalOf (digits ++ [c]) = naturalOf digits * 10 + digitValue c := by
      simp [naturalOf]
    rw [hstep, List.length_append, List.length_singleton, Nat.pow_succ]
    omega

theorem isAsciiDigit_of_mem_toDigits {n : Nat} {c : Char} (h : c ∈ Nat.toDigits 10 n) :
    isAsciiDigit c = true :=
  Nat.isDigit_of_mem_toDigits (by decide) (by decide) h

/-- The digits in front of a text that does not begin with one. -/
theorem spanDigits_append {digits rest : List Char} (h : ∀ c ∈ digits, isAsciiDigit c = true)
    (hrest : ∀ c, rest.head? = some c → isAsciiDigit c = false) :
    spanDigits (digits ++ rest) = (digits, rest) := by
  have hstop : rest.takeWhile isAsciiDigit = [] ∧ rest.dropWhile isAsciiDigit = rest := by
    cases rest with
    | nil => exact ⟨rfl, rfl⟩
    | cons c rest => simp [hrest c rfl]
  unfold spanDigits
  rw [List.takeWhile_append_of_pos h, List.dropWhile_append_of_pos h, hstop.1, hstop.2,
    List.append_nil]

namespace CalendarDate

end CalendarDate

end Conform
