import Conform.Decimal.Shortest
import Conform.Proofs.Binary64
import Conform.Proofs.Digits
import Mathlib.Tactic.Ring
/-!
# Rounding — the shortest digits denote their double

The closest double depends on a quotient and not on how it is written, so
zeros at the end of a decimal change nothing. The digits that `shortest` finds
have been tried, and the exact expansion behind them is the double itself: in
either case they round to the double they were made for.
-/


namespace Conform

namespace Binary64

/-! ## Quotients -/

theorem closestMultiple_scale {k : Nat} (hk : 0 < k) (num den step : Nat) :
    closestMultiple (k * num) (k * den) step = closestMultiple num den step := by
  have hwhole : step * (k * den) = k * (step * den) := Nat.mul_left_comm step k den
  have hless (a b : Nat) : 2 * (k * a) < k * b ↔ 2 * a < b := by
    rw [Nat.mul_left_comm]
    exact Nat.mul_lt_mul_left hk
  have hmore (a b : Nat) : k * a < 2 * (k * b) ↔ a < 2 * b := by
    rw [Nat.mul_left_comm]
    exact Nat.mul_lt_mul_left hk
  unfold closestMultiple
  simp only [hwhole, Nat.mul_div_mul_left _ _ hk, Nat.mul_mod_mul_left, hless, hmore]

theorem nearest_scale {k : Nat} (hk : 0 < k) (num den : Nat) :
    nearest (k * num) (k * den) = nearest num den := by
  unfold nearest
  rw [Nat.mul_div_mul_left _ _ hk, closestMultiple_scale hk]

/-- Equal quotients have the same closest double. -/
theorem nearest_congr {num den num' den' : Nat} (hden : 0 < den) (hden' : 0 < den')
    (h : num * den' = num' * den) : nearest num den = nearest num' den' :=
  calc nearest num den
      = nearest (den' * num) (den' * den) := (nearest_scale hden' num den).symm
    _ = nearest (den * num') (den * den') := by
      rw [Nat.mul_comm den' num, h, Nat.mul_comm num' den, Nat.mul_comm den' den]
    _ = nearest num' den' := nearest_scale hden num' den'

theorem nearest_of_representable {units : Nat} (h : Representable units) :
    nearest units 1 = units := by
  unfold nearest
  rw [Nat.div_one]
  exact closestMultiple_of_dvd (spacing_pos units) h.2

/-- Below half a unit everything is rounded to zero. -/
theorem nearest_eq_zero {num den : Nat} (h : 2 * num < den) : nearest num den = 0 := by
  have hdiv : num / den = 0 := Nat.div_eq_of_lt (by omega)
  have hspacing : spacing 0 = 1 := rfl
  unfold nearest closestMultiple
  simp only [hdiv, hspacing, Nat.one_mul, Nat.mod_eq_of_lt (show num < den by omega)]
  rw [if_pos h, Nat.zero_mul]

theorem le_closestMultiple (num den step : Nat) :
    num / den / step * step ≤ closestMultiple num den step := by
  have hquotient : num / (step * den) = num / den / step := by
    rw [Nat.mul_comm, Nat.div_div_eq_div_mul]
  have hnext : num / den / step * step ≤ (num / den / step + 1) * step :=
    Nat.mul_le_mul_right step (Nat.le_succ _)
  unfold closestMultiple
  simp only [hquotient]
  split
  · exact Nat.le_refl _
  · split
    · exact hnext
    · split
      · exact Nat.le_refl _
      · exact hnext

theorem le_two_pow_log2 {n bound b : Nat} (hbound : bound = 2 ^ b) (hn : n ≠ 0) (h : bound ≤ n) :
    bound ≤ 2 ^ n.log2 := by
  subst hbound
  exact Nat.pow_le_pow_right (by decide) ((Nat.le_log2 hn).2 h)

/-- What is past the finite doubles is not rounded to one. -/
theorem beyond_le_nearest {num den : Nat} (hden : 0 < den) (h : beyond * den ≤ num) :
    beyond ≤ nearest num den := by
  have hle : beyond ≤ num / den := (Nat.le_div_iff_mul_le hden).2 h
  have hne : num / den ≠ 0 := Nat.ne_of_gt (Nat.lt_of_lt_of_le beyond_pos hle)
  -- the step divides the greatest power of two below, which is then a multiple below
  obtain ⟨q, hq⟩ : spacing (num / den) ∣ 2 ^ (num / den).log2 :=
    Nat.pow_dvd_pow 2 (Nat.sub_le _ 52)
  have hmultiple : q ≤ num / den / spacing (num / den) := by
    rw [Nat.le_div_iff_mul_le (spacing_pos _), Nat.mul_comm, ← hq]
    exact Nat.log2_self_le hne
  calc beyond ≤ 2 ^ (num / den).log2 := le_two_pow_log2 beyond_eq hne hle
    _ = q * spacing (num / den) := by rw [hq, Nat.mul_comm]
    _ ≤ num / den / spacing (num / den) * spacing (num / den) := Nat.mul_le_mul_right _ hmultiple
    _ ≤ nearest num den := le_closestMultiple _ _ _

end Binary64

namespace Decimal

/-! ## Zeros at the end -/

/-- The same decimal with `count` more zero digits. -/
def extended (d : Decimal) (count : Nat) : Decimal :=
  ⟨d.digits * 10 ^ count, d.exponent - count⟩

theorem extended_zero (d : Decimal) : d.extended 0 = d := by
  simp [extended]

theorem extended_extended (d : Decimal) (m n : Nat) :
    (d.extended m).extended n = d.extended (m + n) := by
  simp only [extended, Nat.pow_add, Nat.mul_assoc, Decimal.mk.injEq, true_and]
  omega

theorem ratio_den_pos (d : Decimal) : 0 < d.ratio.2 := Nat.pow_pos (by decide)

theorem nearest_ratio_extended (d : Decimal) (count : Nat) :
    Binary64.nearest (d.extended count).ratio.1 (d.extended count).ratio.2 =
      Binary64.nearest d.ratio.1 d.ratio.2 := by
  refine Binary64.nearest_congr (ratio_den_pos _) (ratio_den_pos _) ?_
  have hpower : 10 ^ count * 10 ^ (d.exponent - count).toNat * 10 ^ (-d.exponent).toNat =
      10 ^ d.exponent.toNat * 10 ^ (-(d.exponent - count)).toNat := by
    rw [← Nat.pow_add, ← Nat.pow_add, ← Nat.pow_add]
    congr 1
    omega
  show d.digits * 10 ^ count * 10 ^ (d.exponent - count).toNat * Binary64.one *
      10 ^ (-d.exponent).toNat =
    d.digits * 10 ^ d.exponent.toNat * Binary64.one * 10 ^ (-(d.exponent - count)).toNat
  calc d.digits * 10 ^ count * 10 ^ (d.exponent - count).toNat * Binary64.one *
        10 ^ (-d.exponent).toNat
      = d.digits * Binary64.one *
          (10 ^ count * 10 ^ (d.exponent - count).toNat * 10 ^ (-d.exponent).toNat) := by ring
    _ = d.digits * 10 ^ d.exponent.toNat * Binary64.one *
          10 ^ (-(d.exponent - count)).toNat := by rw [hpower]; ring

/-- Dropping zeros is the opposite of putting them at the end. -/
theorem exists_extended_dropZeros (count : Nat) (d : Decimal) :
    ∃ k, (dropZeros count d).extended k = d := by
  induction count generalizing d with
  | zero => exact ⟨0, extended_zero d⟩
  | succ count ih =>
    rw [dropZeros]
    split
    · rename_i hzero
      obtain ⟨k, hk⟩ := ih ⟨d.digits / 10, d.exponent + 1⟩
      refine ⟨k + 1, ?_⟩
      rw [← extended_extended, hk]
      obtain ⟨digits, exponent⟩ := d
      simp only [extended, Decimal.mk.injEq]
      change digits % 10 = 0 at hzero
      omega
    · exact ⟨0, extended_zero d⟩

/-! ## The double of a decimal -/

/-- The decimal rounds to the double with this magnitude. -/
def Denotes (d : Decimal) (units : Nat) : Prop :=
  Binary64.nearest d.ratio.1 d.ratio.2 = units

theorem denotes_extended {d : Decimal} {units count : Nat} :
    (d.extended count).Denotes units ↔ d.Denotes units := by
  unfold Denotes
  rw [nearest_ratio_extended]

theorem readsBack_iff {units : Nat} {d : Decimal} : readsBack units d = true ↔ d.Denotes units := by
  unfold readsBack Denotes
  exact decide_eq_true_iff

/-- What is found on a grid has been tried, whichever of the neighbours it is. -/
theorem denotes_of_onGrid {tie : Tie} {units : Nat} {exponent : Int} {d : Decimal}
    (h : onGrid tie units exponent = some d) : d.Denotes units := by
  have htried {below above : Decimal} {takeBelow : Bool}
      (hfound : (if readsBack units below && (takeBelow || !readsBack units above) then some below
        else if readsBack units above then some above else none) = some d) :
      d.Denotes units := by
    split at hfound
    · rename_i hbelow
      obtain rfl := Option.some.inj hfound
      exact readsBack_iff.1 (Bool.and_eq_true_iff.1 hbelow).1
    · split at hfound
      · rename_i habove
        obtain rfl := Option.some.inj hfound
        exact readsBack_iff.1 habove
      · cases hfound
  unfold onGrid at h
  exact htried h

/-- A decimal that is a double denotes it. -/
theorem denotes_of_ratio {d : Decimal} {units : Nat} (h : Binary64.Representable units)
    (hratio : d.ratio.1 = units * d.ratio.2) : d.Denotes units := by
  refine (Binary64.nearest_congr (ratio_den_pos d) Nat.one_pos ?_).trans
    (Binary64.nearest_of_representable h)
  rw [Nat.mul_one, hratio]

/-- The exact expansion of a double, whose unit is a power of one half. -/
theorem denotes_expansion {units : Nat} {places : Nat} {exponent : Int}
    (h : Binary64.Representable units) (hexponent : exponent = -places) (hone : Binary64.one = Nat.pow 2 places) :
    Denotes ⟨units * Nat.pow 5 places, exponent⟩ units := by
  subst hexponent
  have htens : (2 * 5) ^ places = 2 ^ places * 5 ^ places := Nat.mul_pow 2 5 places
  have hwhole : (-(places : Int)).toNat = 0 := by omega
  have hplaces : (- -(places : Int)).toNat = places := by omega
  refine denotes_of_ratio h ?_
  unfold ratio
  dsimp only
  rw [hwhole, hplaces, hone]
  show units * 5 ^ places * 10 ^ 0 * 2 ^ places = units * (2 * 5) ^ places
  rw [htens]
  ring

/-- **The shortest digits round to the double they were made for.** -/
theorem denotes_shortest (tie : Tie) {units : Nat} (h : Binary64.Representable units) :
    (shortest tie units).Denotes units := by
  have htried {tried : Option Decimal} (hfound : ∀ d ∈ tried, d.Denotes units) :
      ((tried.map (dropZeros 17)).getD ⟨units * Nat.pow 5 1074, -1074⟩).Denotes units := by
    cases tried with
    | none =>
      refine denotes_expansion h rfl ?_
      decide +kernel
    | some d =>
      obtain ⟨k, hk⟩ := exists_extended_dropZeros 17 d
      exact denotes_extended.1 (hk ▸ hfound d rfl)
  unfold shortest
  refine htried fun d hd => ?_
  obtain ⟨n, -, hgrid⟩ := List.exists_of_findSome?_eq_some hd
  exact denotes_of_onGrid hgrid

end Decimal

end Conform
