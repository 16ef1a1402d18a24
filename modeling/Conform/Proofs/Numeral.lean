import Conform.Decimal.Layout
import Conform.Proofs.Rounding
import Conform.Value.Reader
/-!
# Numeral — the text of a number is read as the number

Both layouts of a decimal are numerals. What they are read as is the decimal,
with more zeros perhaps, and a double is laid out from digits that round to
it. So the text of a double is read as the double.
-/


namespace Conform

namespace Numeral

/-! ## Reading parts -/

/-- The text does not begin with a digit. -/
def Stops (text : List Char) : Prop := ∀ c, text.head? = some c → isAsciiDigit c = false

theorem stops_nil : Stops [] := fun _ h => nomatch h

theorem stops_cons {c : Char} (h : isAsciiDigit c = false) (rest : List Char) : Stops (c :: rest) := by
  rintro d ⟨⟩
  exact h

/-- Digits with a fraction, and an exponent perhaps. -/
theorem read_fraction {whole fraction tail : List Char} (hne : whole ≠ [])
    (hwhole : ∀ c ∈ whole, isAsciiDigit c = true) (hfraction : ∀ c ∈ fraction, isAsciiDigit c = true)
    (htail : Stops tail) :
    read (whole ++ '.' :: (fraction ++ tail)) =
      (exponent? tail).map fun e => ⟨naturalOf (whole ++ fraction), e - fraction.length⟩ := by
  have hpoint := spanDigits_append hwhole (stops_cons (show isAsciiDigit '.' = false by decide) (fraction ++ tail))
  have hempty : whole.isEmpty = false := by simpa using hne
  unfold read
  simp only [hpoint, spanDigits_append hfraction htail, hempty, Bool.false_and, Bool.false_eq_true,
    if_false]

/-- Digits, and an exponent perhaps. -/
theorem read_whole {whole tail : List Char} (hne : whole ≠ [])
    (hwhole : ∀ c ∈ whole, isAsciiDigit c = true) (htail : Stops tail)
    (hpoint : tail.head? ≠ some '.') :
    read (whole ++ tail) = (exponent? tail).map fun e => ⟨naturalOf whole, e⟩ := by
  have hempty : whole.isEmpty = false := by simpa using hne
  unfold read
  simp only [spanDigits_append hwhole htail]
  split
  · simp at hpoint
  · simp [hempty]

/-- A signed exponent. -/
theorem exponent?_signed (negative : Bool) (n : Nat) :
    exponent? ('e' :: (if negative then '-' else '+') :: Nat.toDigits 10 n) =
      some (if negative then -(n : Int) else n) := by
  have hspan : spanDigits (Nat.toDigits 10 n) = (Nat.toDigits 10 n, []) := by
    have happend := spanDigits_append (fun _ => isAsciiDigit_of_mem_toDigits (n := n)) stops_nil
    rwa [List.append_nil] at happend
  have hempty : (Nat.toDigits 10 n).isEmpty = false := by simp
  cases negative <;> simp [exponent?, spanSign, hspan, hempty]

/-! ## Texts of decimals -/

/-- Digits on both sides of a point, which are those of the decimal. -/
inductive Shows (d : Decimal) : List Char → Prop
  | point {whole fraction : List Char} : whole ≠ [] →
      (∀ c ∈ whole ++ fraction, isAsciiDigit c = true) → naturalOf (whole ++ fraction) = d.digits →
      -(fraction.length : Int) = d.exponent → Shows d (whole ++ '.' :: fraction)

theorem Shows.read {d : Decimal} {text : List Char} (h : Shows d text) :
    Numeral.read text = some d := by
  obtain ⟨hne, hdigits, hvalue, hexponent⟩ := h
  rename_i whole fraction
  have hread := read_fraction hne (fun c hc => hdigits c (List.mem_append_left fraction hc))
    (fun c hc => hdigits c (List.mem_append_right whole hc)) stops_nil
  rw [List.append_nil] at hread
  rw [hread]
  simp [exponent?, hvalue, hexponent]

/-- A text of a number without a sign that is no integer. -/
structure IsFractional (text : List Char) : Prop where
  chars : ∀ c ∈ text, Value.isNumeralChar c = true
  first : ∃ c rest, text = c :: rest ∧ isAsciiDigit c = true
  inexact : text.all isAsciiDigit = false

theorem isNumeralChar_of_isAsciiDigit {c : Char} (h : isAsciiDigit c = true) :
    Value.isNumeralChar c = true := by
  simp [Value.isNumeralChar, h]

/-- Digits, and behind them something that is in numerals but no digit. -/
theorem IsFractional.of_append {digits tail : List Char} {mark : Char} (hne : digits ≠ [])
    (hdigits : ∀ c ∈ digits, isAsciiDigit c = true) (hmark : isAsciiDigit mark = false)
    (htail : ∀ c ∈ mark :: tail, Value.isNumeralChar c = true) :
    IsFractional (digits ++ mark :: tail) := by
  obtain ⟨first, rest, rfl⟩ := List.exists_cons_of_ne_nil hne
  refine ⟨fun c hc => ?_, ⟨first, rest ++ mark :: tail, rfl, hdigits first List.mem_cons_self⟩, ?_⟩
  · rcases List.mem_append.1 hc with hdigit | htail'
    · exact isNumeralChar_of_isAsciiDigit (hdigits c hdigit)
    · exact htail c htail'
  · simp [hmark]

theorem Shows.isFractional {d : Decimal} {text : List Char} (h : Shows d text) :
    IsFractional text := by
  obtain ⟨hne, hdigits, -, -⟩ := h
  rename_i whole fraction
  refine .of_append hne (fun c hc => hdigits c (List.mem_append_left fraction hc)) (by decide) ?_
  rintro c (_ | ⟨_, hc⟩)
  · decide
  · exact isNumeralChar_of_isAsciiDigit (hdigits c (List.mem_append_right whole hc))

end Numeral

namespace Decimal

/-! ## Layouts -/

variable (d : Decimal)

theorem isAsciiDigit_of_mem_figures {c : Char} (h : c ∈ d.figures) : isAsciiDigit c = true :=
  isAsciiDigit_of_mem_toDigits h

theorem figures_ne_nil : d.figures ≠ [] := Nat.toDigits_ne_nil

theorem naturalOf_figures : naturalOf d.figures = d.digits := naturalOf_toDigits d.digits

theorem top_eq : d.top = d.figures.length + d.exponent := rfl

theorem isAsciiDigit_of_mem_zeros {count : Nat} {c : Char} (h : c ∈ List.replicate count '0') :
    isAsciiDigit c = true := by
  rw [List.eq_of_mem_replicate h]
  rfl

theorem naturalOf_append_zeros (digits : List Char) (count : Nat) :
    naturalOf (digits ++ List.replicate count '0') = naturalOf digits * 10 ^ count := by
  induction count with
  | zero => simp
  | succ count ih =>
    have hstep (text : List Char) : naturalOf (text ++ ['0']) = naturalOf text * 10 := by
      simp [naturalOf, digitValue]
    rw [List.replicate_succ', ← List.append_assoc, hstep, ih, Nat.pow_succ, Nat.mul_assoc]

theorem shows_with_zero (hexponent : 0 ≤ d.exponent) :
    Numeral.Shows (d.extended (d.exponent.toNat + 1))
      (d.figures ++ List.replicate d.exponent.toNat '0' ++ '.' :: ['0']) := by
  have hzeros : d.figures ++ List.replicate d.exponent.toNat '0' ++ ['0'] =
      d.figures ++ List.replicate (d.exponent.toNat + 1) '0' := by
    rw [List.append_assoc, ← List.replicate_succ']
  refine .point (by simp [figures_ne_nil]) ?_ ?_ ?_
  · rw [hzeros]
    intro c hc
    rcases List.mem_append.1 hc with hfigure | hzero
    · exact d.isAsciiDigit_of_mem_figures hfigure
    · exact isAsciiDigit_of_mem_zeros hzero
  · rw [hzeros, naturalOf_append_zeros, naturalOf_figures]
    rfl
  · show -((1 : Nat) : Int) = d.exponent - (d.exponent.toNat + 1 : Nat)
    omega

theorem shows_with_point {places : Nat} (hexponent : -(places : Int) = d.exponent)
    (hplaces : places < d.figures.length) :
    Numeral.Shows d (d.figures.take (d.figures.length - places) ++
      '.' :: d.figures.drop (d.figures.length - places)) := by
  refine .point ?_ ?_ ?_ ?_
  · rw [← List.length_pos_iff, List.length_take]
    omega
  · rw [List.take_append_drop]
    exact fun c => d.isAsciiDigit_of_mem_figures
  · rw [List.take_append_drop, naturalOf_figures]
  · rw [List.length_drop]
    omega

theorem shows_below_one {places : Nat} (hexponent : -(places : Int) = d.exponent)
    (hplaces : d.figures.length ≤ places) :
    Numeral.Shows d (['0'] ++
      '.' :: (List.replicate (places - d.figures.length) '0' ++ d.figures)) := by
  have hzeros : ['0'] ++ (List.replicate (places - d.figures.length) '0' ++ d.figures) =
      List.replicate (places - d.figures.length + 1) '0' ++ d.figures := rfl
  refine .point (List.cons_ne_nil _ _) ?_ ?_ ?_
  · rw [hzeros]
    intro c hc
    rcases List.mem_append.1 hc with hzero | hfigure
    · exact isAsciiDigit_of_mem_zeros hzero
    · exact d.isAsciiDigit_of_mem_figures hfigure
  · rw [hzeros, naturalOf_zeros_append, naturalOf_figures]
  · rw [List.length_append, List.length_replicate]
    omega

/-- **Positional text shows the decimal, with more zeros perhaps.** -/
theorem shows_positional :
    ∃ count, Numeral.Shows (d.extended count) (d.positional ".0").toList := by
  unfold positional
  dsimp only
  split
  · rename_i hexponent
    exact ⟨d.exponent.toNat + 1, by simpa using d.shows_with_zero hexponent⟩
  · rename_i hexponent
    have hplaces : -((-d.exponent).toNat : Int) = d.exponent := by omega
    refine ⟨0, ?_⟩
    rw [extended_zero]
    split
    · rename_i hlength
      simpa using d.shows_with_point hplaces hlength
    · rename_i hlength
      simpa using d.shows_below_one hplaces (Nat.le_of_not_lt hlength)

/-- The characters of scientific text. -/
theorem toList_scientific {first : Char} {rest : List Char} (h : d.figures = first :: rest) :
    d.scientific.toList = first :: ((if rest = [] then [] else '.' :: rest) ++
      'e' :: (if decide (d.top - 1 < 0) then '-' else '+') :: Nat.toDigits 10 (d.top - 1).natAbs) := by
  unfold scientific
  rw [h]
  by_cases hsign : d.top - 1 < 0 <;> cases rest <;> simp [hsign]

/-- **Scientific text is read as the decimal.** -/
theorem read_scientific : Numeral.read d.scientific.toList = some d := by
  obtain ⟨first, rest, hfigures⟩ := List.exists_cons_of_ne_nil d.figures_ne_nil
  have hdigits : ∀ c ∈ first :: rest, isAsciiDigit c = true := by
    rw [← hfigures]
    exact fun c => d.isAsciiDigit_of_mem_figures
  have hvalue : naturalOf (first :: rest) = d.digits := hfigures ▸ d.naturalOf_figures
  have hexponent : (if decide (d.top - 1 < 0) then -((d.top - 1).natAbs : Int) else (d.top - 1).natAbs) =
      rest.length + d.exponent := by
    have htop := d.top_eq
    rw [hfigures, List.length_cons] at htop
    split <;> rename_i hsign <;> simp only [decide_eq_true_eq] at hsign <;> omega
  have hstops (tail : List Char) : Numeral.Stops ('e' :: tail) := Numeral.stops_cons (by decide) tail
  rw [d.toList_scientific hfigures]
  split
  · rename_i hrest
    subst hrest
    refine (Numeral.read_whole (List.cons_ne_nil first []) hdigits (hstops _) (by simp)).trans ?_
    rw [Numeral.exponent?_signed, hexponent, hvalue]
    simp
  · refine (Numeral.read_fraction (List.cons_ne_nil first [])
      (fun c hc => hdigits c (List.mem_cons.2 (.inl (List.mem_singleton.1 hc))))
      (fun c hc => hdigits c (List.mem_cons_of_mem first hc)) (hstops _)).trans ?_
    rw [Numeral.exponent?_signed, hexponent]
    simp [hvalue]

theorem isFractional_scientific : Numeral.IsFractional d.scientific.toList := by
  obtain ⟨first, rest, hfigures⟩ := List.exists_cons_of_ne_nil d.figures_ne_nil
  have hdigits : ∀ c ∈ first :: rest, isAsciiDigit c = true := by
    rw [← hfigures]
    exact fun c => d.isAsciiDigit_of_mem_figures
  have hfirst : ∀ c ∈ [first], isAsciiDigit c = true :=
    fun c hc => hdigits c (List.mem_cons.2 (.inl (List.mem_singleton.1 hc)))
  have hpower : ∀ c ∈ 'e' :: (if decide (d.top - 1 < 0) then '-' else '+') ::
      Nat.toDigits 10 (d.top - 1).natAbs, Value.isNumeralChar c = true := by
    rintro c (_ | ⟨_, _ | ⟨_, hc⟩⟩)
    · decide
    · split <;> decide
    · exact Numeral.isNumeralChar_of_isAsciiDigit (isAsciiDigit_of_mem_toDigits hc)
  rw [d.toList_scientific hfigures]
  split
  · exact .of_append (List.cons_ne_nil first []) hfirst (by decide) hpower
  · refine .of_append (List.cons_ne_nil first []) hfirst (show isAsciiDigit '.' = false by decide) ?_
    rintro c (_ | ⟨_, hc⟩)
    · decide
    · rcases List.mem_append.1 hc with hdigit | hexponent
      · exact Numeral.isNumeralChar_of_isAsciiDigit (hdigits c (List.mem_cons_of_mem first hdigit))
      · exact hpower c hexponent

/-! ## The double of a decimal -/

theorem digits_lt : d.digits < 10 ^ d.figures.length := by
  have hpos := List.length_pos_iff.2 d.figures_ne_nil
  exact (Nat.length_toDigits_le_iff (by decide) hpos).1 (Nat.le_refl _)

theorem le_digits (h : d.digits ≠ 0) : 10 ^ (d.figures.length - 1) ≤ d.digits := by
  rcases Nat.eq_zero_or_pos (d.figures.length - 1) with hone | hmore
  · rw [hone]
    exact Nat.pos_of_ne_zero h
  · refine Nat.le_of_not_lt fun hlt => ?_
    have hshort : d.figures.length ≤ d.figures.length - 1 :=
      (Nat.length_toDigits_le_iff (by decide) hmore).2 hlt
    omega

theorem digits_ne_zero_of_denotes {units : Nat} (h : d.Denotes units) (hunits : units ≠ 0) :
    d.digits ≠ 0 := by
  intro hzero
  have hnum : d.ratio.1 = 0 := by
    unfold ratio
    simp [hzero]
  refine hunits (h.symm.trans ?_)
  rw [hnum]
  exact Binary64.nearest_eq_zero (ratio_den_pos d)

/-- A decimal that denotes a positive double is not too small to be looked at. -/
theorem top_ge_of_denotes {units : Nat} (h : d.Denotes units) (hunits : units ≠ 0) :
    -400 ≤ d.top := by
  refine Int.not_lt.1 fun htop => hunits (h.symm.trans (Binary64.nearest_eq_zero ?_))
  obtain ⟨places, hplaces, hone⟩ : ∃ k, k = 401 ∧ 2 * Binary64.one ≤ 10 ^ k :=
    ⟨401, rfl, by decide +kernel⟩
  rw [top_eq] at htop
  have hwhole : d.exponent.toNat = 0 := by omega
  show 2 * (d.digits * 10 ^ d.exponent.toNat * Binary64.one) < 10 ^ (-d.exponent).toNat
  calc 2 * (d.digits * 10 ^ d.exponent.toNat * Binary64.one)
      = d.digits * (2 * Binary64.one) := by rw [hwhole]; ring
    _ ≤ d.digits * 10 ^ places := Nat.mul_le_mul_left _ hone
    _ < 10 ^ d.figures.length * 10 ^ places :=
      Nat.mul_lt_mul_of_pos_right d.digits_lt (Nat.pow_pos (by decide))
    _ = 10 ^ (d.figures.length + places) := (Nat.pow_add 10 _ _).symm
    _ ≤ 10 ^ (-d.exponent).toNat := Nat.pow_le_pow_right (by decide) (by omega)

/-- A decimal that denotes a finite double is not too great to be looked at. -/
theorem top_le_of_denotes {units : Nat} (h : d.Denotes units) (hunits : units ≠ 0)
    (hfinite : units < Binary64.beyond) : d.top ≤ 401 := by
  refine Int.not_lt.1 fun htop => ?_
  have hdigits := d.le_digits (d.digits_ne_zero_of_denotes h hunits)
  obtain ⟨places, hplaces, hbeyond⟩ : ∃ k, k = 401 ∧ Binary64.beyond ≤ 10 ^ k * Binary64.one :=
    ⟨401, rfl, by decide +kernel⟩
  rw [top_eq] at htop
  have hgreat : Binary64.beyond * d.ratio.2 ≤ d.ratio.1 := by
    show Binary64.beyond * 10 ^ (-d.exponent).toNat ≤
      d.digits * 10 ^ d.exponent.toNat * Binary64.one
    calc Binary64.beyond * 10 ^ (-d.exponent).toNat
        ≤ 10 ^ places * Binary64.one * 10 ^ (-d.exponent).toNat := Nat.mul_le_mul_right _ hbeyond
      _ = 10 ^ (places + (-d.exponent).toNat) * Binary64.one := by rw [Nat.pow_add]; ring
      _ ≤ 10 ^ (d.figures.length - 1 + d.exponent.toNat) * Binary64.one :=
        Nat.mul_le_mul_right _ (Nat.pow_le_pow_right (by decide) (by omega))
      _ = 10 ^ (d.figures.length - 1) * 10 ^ d.exponent.toNat * Binary64.one := by rw [Nat.pow_add]
      _ ≤ d.digits * 10 ^ d.exponent.toNat * Binary64.one :=
        Nat.mul_le_mul_right _ (Nat.mul_le_mul_right _ hdigits)
  have hlarge := Binary64.beyond_le_nearest (ratio_den_pos d) hgreat
  rw [h] at hlarge
  omega

/-- **A decimal is read as the double that it denotes.** -/
theorem toBinary64_of_denotes {units : Nat} (h : d.Denotes units) (hunits : units ≠ 0)
    (hfinite : units < Binary64.beyond) (negative : Bool) :
    d.toBinary64 negative = .finite negative units := by
  have hleast := d.top_ge_of_denotes h hunits
  have hgreatest := d.top_le_of_denotes h hunits hfinite
  have hdigits := d.digits_ne_zero_of_denotes h hunits
  unfold toBinary64
  rw [if_neg (by omega), if_neg (by omega)]
  unfold Binary64.ofUnits
  dsimp only
  rw [h, if_pos hfinite]

end Decimal

namespace Binary64

/-! ## The text of a double -/

/-- The text of a magnitude. -/
def unsignedText (units : Nat) : String :=
  if units = 0 then "0.0" else
    let d := Decimal.shortest .even units
    if -5 ≤ d.top - 1 ∧ d.top - 1 ≤ 15 then d.positional ".0" else d.scientific

theorem compact_finite (negative : Bool) (units : Nat) :
    compact (finite negative units) = signText negative ++ unsignedText units := rfl

/-- **The text of a magnitude is read as the double with that magnitude.** -/
theorem read_unsignedText {units : Nat} (h : Representable units) (negative : Bool) :
    (Numeral.read (unsignedText units).toList).map (·.toBinary64 negative) =
      some (finite negative units) := by
  unfold unsignedText
  split
  · rename_i hzero
    subst hzero
    have hread : Numeral.read "0.0".toList = some ⟨0, -1⟩ := by decide +kernel
    rw [hread]
    rfl
  · rename_i hunits
    have hdenotes := Decimal.denotes_shortest .even h
    generalize Decimal.shortest .even units = d at hdenotes
    dsimp only
    split
    · obtain ⟨count, hshows⟩ := d.shows_positional
      rw [hshows.read, Option.map_some,
        (d.extended count).toBinary64_of_denotes (Decimal.denotes_extended.2 hdenotes) hunits h.1]
    · rw [d.read_scientific, Option.map_some, d.toBinary64_of_denotes hdenotes hunits h.1]

theorem isFractional_unsignedText (units : Nat) :
    Numeral.IsFractional (unsignedText units).toList := by
  unfold unsignedText
  split
  · have hzero : Numeral.Shows ⟨0, -1⟩ (['0'] ++ '.' :: ['0']) :=
      .point (by decide) (List.all_eq_true.1 rfl) (by decide) (by decide)
    exact hzero.isFractional
  · dsimp only
    split
    · obtain ⟨count, hshows⟩ := (Decimal.shortest .even units).shows_positional
      exact hshows.isFractional
    · exact (Decimal.shortest .even units).isFractional_scientific

end Binary64

end Conform
