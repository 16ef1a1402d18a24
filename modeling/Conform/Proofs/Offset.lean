import Conform.Proofs.Date
import Conform.Proofs.Shift
import Mathlib.Algebra.Ring.Int.Defs
/-!
# Offset — when a date is shifted by its whole offset

The total of an offset is clamped after every product and every sum. A sum that
was clamped may be led back into the range by an amount of the other sign, and
then the total is not that of the amounts. An offset whose amounts never do so
is `Steady`: its total is the exact one clamped once, and a date that has it is
shifted by exactly that, or is out of range.
-/


namespace Conform

/-- The number is a signed integer of 64 bits. -/
def IsInt64 (n : Int) : Prop := leastInt64 ≤ n ∧ n ≤ greatestInt64

instance (n : Int) : Decidable (IsInt64 n) := inferInstanceAs (Decidable (_ ∧ _))

theorem clampInt64_of_isInt64 {n : Int} (h : IsInt64 n) : clampInt64 n = n := by
  unfold IsInt64 at h
  unfold clampInt64
  omega

theorem isInt64_clampInt64 (n : Int) : IsInt64 (clampInt64 n) := by
  unfold IsInt64 clampInt64 leastInt64 greatestInt64
  omega

/-! ## Sums that are clamped at every step -/

/-- The step of a clamped sum. -/
def addClamped (sum amount : Int) : Int := clampInt64 (sum + clampInt64 amount)

/-- The sum and the amount both fit 64 bits, or they have one sign. -/
def Agreeing (sum amount : Int) : Prop :=
  IsInt64 sum ∧ IsInt64 amount ∨ 0 ≤ sum ∧ 0 ≤ amount ∨ sum ≤ 0 ∧ amount ≤ 0

instance (sum amount : Int) : Decidable (Agreeing sum amount) :=
  inferInstanceAs (Decidable (_ ∨ _))

/-- From the sum on, no amount leads back a sum that was clamped. -/
def Steady : Int → List Int → Prop
  | _, [] => True
  | sum, amount :: rest => Agreeing sum amount ∧ Steady (sum + amount) rest

instance decidableSteady : (sum : Int) → (amounts : List Int) → Decidable (Steady sum amounts)
  | _, [] => inferInstanceAs (Decidable True)
  | sum, amount :: rest =>
    have := decidableSteady (sum + amount) rest
    inferInstanceAs (Decidable (_ ∧ _))

section

variable {sum amount : Int} {amounts : List Int}

/-- A step from a clamped sum loses nothing if the amount does not lead back. -/
theorem addClamped_clampInt64 (h : Agreeing sum amount) :
    addClamped (clampInt64 sum) amount = clampInt64 (sum + amount) := by
  unfold Agreeing IsInt64 leastInt64 greatestInt64 at h
  unfold addClamped clampInt64 leastInt64 greatestInt64
  omega

/-- Clamping at every step is clamping once, at the end. -/
theorem foldl_addClamped (h : Steady sum amounts) :
    amounts.foldl addClamped (clampInt64 sum) = clampInt64 (sum + amounts.sum) := by
  induction amounts generalizing sum with
  | nil => rw [List.foldl_nil, List.sum_nil, Int.add_zero]
  | cons amount rest ih =>
    obtain ⟨hstep, hrest⟩ := h
    rw [List.foldl_cons, List.sum_cons, addClamped_clampInt64 hstep, ih hrest, Int.add_assoc]

theorem Steady.of_nonneg (hsum : 0 ≤ sum) (h : ∀ amount ∈ amounts, 0 ≤ amount) :
    Steady sum amounts := by
  induction amounts generalizing sum with
  | nil => trivial
  | cons amount rest ih =>
    have hamount : 0 ≤ amount := h amount List.mem_cons_self
    refine ⟨.inr (.inl ⟨hsum, hamount⟩), ih (by omega) ?_⟩
    exact fun a ha => h a (List.mem_cons_of_mem _ ha)

theorem Steady.of_nonpos (hsum : sum ≤ 0) (h : ∀ amount ∈ amounts, amount ≤ 0) :
    Steady sum amounts := by
  induction amounts generalizing sum with
  | nil => trivial
  | cons amount rest ih =>
    have hamount : amount ≤ 0 := h amount List.mem_cons_self
    refine ⟨.inr (.inr ⟨hsum, hamount⟩), ih (by omega) ?_⟩
    exact fun a ha => h a (List.mem_cons_of_mem _ ha)

theorem Steady.of_natAbs_le (h : sum.natAbs + (amounts.map Int.natAbs).sum ≤ greatestInt64) :
    Steady sum amounts := by
  induction amounts generalizing sum with
  | nil => trivial
  | cons amount rest ih =>
    rw [List.map_cons, List.sum_cons] at h
    refine ⟨.inl ?_, ih ?_⟩
    · unfold IsInt64 leastInt64 greatestInt64 at *
      omega
    · omega

end

/-! ## The total of an offset -/

namespace DateOffset

variable {o : DateOffset}

/-- The offset has a signed integer of 64 bits of every unit. -/
def IsInt64 (o : DateOffset) : Prop := ∀ unit, Conform.IsInt64 (o.get unit)

/-- The whole offset in milliseconds. -/
def exact (o : DateOffset) : Int :=
  o.days * 86400000 + o.hours * 3600000 + o.minutes * 60000 + o.seconds * 1000 + o.milliseconds

/-- The amount of every unit in milliseconds, in the order of adding. -/
def amounts (o : DateOffset) : List Int :=
  [.days, .hours, .minutes, .seconds, .milliseconds].map fun unit => o.get unit * unit.millis

/-- No amount leads a sum that was clamped back into the range. -/
def Steady (o : DateOffset) : Prop := Conform.Steady 0 o.amounts

instance (o : DateOffset) : Decidable o.Steady := inferInstanceAs (Decidable (Conform.Steady _ _))

theorem sum_amounts (o : DateOffset) : o.amounts.sum = o.exact := by
  unfold amounts exact
  simp only [List.map_cons, List.map_nil, List.sum_cons, List.sum_nil, get, TimeUnit.millis]
  omega

theorem total_eq_foldl (ho : o.IsInt64) : o.total = o.amounts.foldl addClamped 0 := by
  have hfirst : addClamped 0 (o.get .days * TimeUnit.millis .days) = o.part .days := by
    rw [addClamped, Int.zero_add]
    exact clampInt64_of_isInt64 (isInt64_clampInt64 _)
  have hlast : clampInt64 (o.get .milliseconds * TimeUnit.millis .milliseconds) =
      o.milliseconds := by
    have hfits : Conform.IsInt64 o.milliseconds := ho .milliseconds
    have hunit : o.get .milliseconds * TimeUnit.millis .milliseconds = o.milliseconds := by
      simp only [get, TimeUnit.millis, Int.mul_one]
    rw [hunit, clampInt64_of_isInt64 hfits]
  simp only [amounts, List.map_cons, List.map_nil, List.foldl_cons, List.foldl_nil]
  -- the days are added to nothing and the milliseconds are not multiplied
  rw [hfirst, addClamped, hlast]
  rfl

/-- Amounts of one sign are steady, however large they are. -/
theorem steady_of_oneSign (h : (∀ unit, 0 ≤ o.get unit) ∨ ∀ unit, o.get unit ≤ 0) :
    o.Steady := by
  have hmillis (unit : TimeUnit) : 0 ≤ unit.millis := by
    cases unit <;> decide
  rcases h with hpos | hneg
  · refine Steady.of_nonneg (Int.le_refl 0) ?_
    intro amount hamount
    obtain ⟨unit, -, rfl⟩ := List.mem_map.1 hamount
    exact Int.mul_nonneg (hpos unit) (hmillis unit)
  · refine Steady.of_nonpos (Int.le_refl 0) ?_
    intro amount hamount
    obtain ⟨unit, -, rfl⟩ := List.mem_map.1 hamount
    exact Int.mul_nonpos_of_nonpos_of_nonneg (hneg unit) (hmillis unit)

/-- Amounts that fit 64 bits even together with one sign are steady. -/
theorem steady_of_natAbs_le (h : (o.amounts.map Int.natAbs).sum ≤ greatestInt64) : o.Steady :=
  Steady.of_natAbs_le (by rwa [Int.natAbs_zero, Nat.cast_zero, Int.zero_add])

/-- The total of a steady offset is the exact one, clamped once. -/
theorem total_of_steady (ho : o.IsInt64) (h : o.Steady) : o.total = clampInt64 o.exact := by
  rw [total_eq_foldl ho, ← sum_amounts, ← Int.zero_add o.amounts.sum]
  exact foldl_addClamped h

end DateOffset

/-! ## Dates that are shifted -/

/-- Clamping a shift changes nothing for an instant near the supported range: what is lost
would have led out of it. -/
theorem Instant.shift?_clamped {t s : Instant} {millis : Int} (hnear : t.Near)
    (hnanos : t.nanos < 2 * nanosPerSecond) (h : t.LiesAfter millis s) :
    t.shift? (max (clampInt64 millis) (-greatestInt64)) =
      if isSupported s.day then some s else none := by
  by_cases hsame : max (clampInt64 millis) (-greatestInt64) = millis
  · rw [hsame, shift?_of_liesAfter hnanos h]
  -- a shift that is clamped leads out of the range, and so does what is left of it
  · have hmillis : 9223372036854775807 ≤ millis.natAbs := by
      unfold clampInt64 leastInt64 greatestInt64 at hsame
      omega
    have hs : ¬ isSupported s.day = true := by
      intro hsupported
      have hlt := h.natAbs_lt hnear (near_of_isSupported hsupported) hnanos
      omega
    rw [if_neg hs, shift?_eq t hnanos, if_neg]
    intro hsupported
    have hlt := (liesAfter_moved t hnanos _).natAbs_lt hnear (near_of_isSupported hsupported) hnanos
    unfold clampInt64 leastInt64 greatestInt64 at hlt
    omega

namespace DateRule

variable {o : DateOffset}

/-- What becomes of a date that was read and shifted. -/
def judge (r : DateRule) (today : Int) (t : Instant) (path : Path) : Checked Instant :=
  match r.firstIssue today t path with
  | some issue => Checked.fail issue
  | none => .ok t

/-- The issue of a date that an offset moves out of range. -/
def outOfRange (path : Path) (value : Value) : Issue :=
  .refinement path "date_out_of_range" "date offset moves the value out of range" value

theorem check_of_read? {r : DateRule} {strict : Bool} {value : Value} {t : Instant}
    (hoffset : r.offset = some o) (hread : read? strict value = some t) (today : Int)
    (path : Path) :
    r.check today strict value path =
      (t.shift? o.shift).elim (Checked.fail (outOfRange path value)) (r.judge today · path) := by
  unfold check shifted?
  rw [hread, hoffset]
  dsimp only
  cases t.shift? o.shift with
  | none => rfl
  | some s => rfl

/-- **A steady offset shifts by exactly its amounts.** Its total is the exact number of
milliseconds, clamped once to 64 bits. Every date that is read is shifted to the only
instant that lies so many milliseconds after it, and judged there; it is out of range
exactly if that instant is not supported. -/
theorem check_of_steady (ho : o.IsInt64) (hsteady : o.Steady) :
    o.total = clampInt64 o.exact ∧
      ∀ (r : DateRule) (today : Int) (strict : Bool) (value : Value) (path : Path) (t : Instant),
        r.offset = some o → read? strict value = some t →
          ∃ s, (∀ s', t.LiesAfter o.exact s' ↔ s' = s) ∧
            r.check today strict value path =
              if Instant.isSupported s.day then r.judge today s path
              else Checked.fail (outOfRange path value) := by
  have htotal : o.total = clampInt64 o.exact := DateOffset.total_of_steady ho hsteady
  refine ⟨htotal, ?_⟩
  intro r today strict value path t hoffset hread
  have hnanos : t.nanos < 2 * Instant.nanosPerSecond := (regular_of_read? hread).nanos_lt
  obtain ⟨s, hs⟩ : ∃ s, t.LiesAfter o.exact s := ⟨_, Instant.liesAfter_moved t hnanos o.exact⟩
  have hshift : t.shift? o.shift = if Instant.isSupported s.day then some s else none := by
    unfold DateOffset.shift
    rw [htotal]
    exact Instant.shift?_clamped (near_of_read? hread) hnanos hs
  refine ⟨s, fun s' => ⟨fun hs' => hs'.unique hs, fun heq => heq ▸ hs⟩, ?_⟩
  rw [check_of_read? hoffset hread, hshift]
  by_cases hsupported : Instant.isSupported s.day = true
  · rw [if_pos hsupported, if_pos hsupported]
    rfl
  · rw [if_neg hsupported, if_neg hsupported]
    rfl

/-- A day less two hours. -/
def dayLessTwoHours : DateOffset := { days := 1, hours := -2 }

theorem check_dayLessTwoHours :
    dayLessTwoHours.IsInt64 ∧ dayLessTwoHours.Steady ∧ dayLessTwoHours.total = 79200000 ∧
      read? true (.string "2024-01-01T00:00:00Z") = some ⟨1704067200, 0⟩ ∧
      (DateRule.add {} dayLessTwoHours).check 0 true (.string "2024-01-01T00:00:00Z") .root =
        .ok ⟨1704146400, 0⟩ := by
  have hfits : dayLessTwoHours.IsInt64 := by
    intro unit
    cases unit <;> decide
  have hsteady : dayLessTwoHours.Steady := by decide
  have hread : read? true (.string "2024-01-01T00:00:00Z") = some ⟨1704067200, 0⟩ := by
    decide +kernel
  obtain ⟨htotal, hcheck⟩ := check_of_steady hfits hsteady
  obtain ⟨s, hs, hresult⟩ := hcheck (DateRule.add {} dayLessTwoHours) 0 true _ .root _ rfl hread
  obtain rfl : ⟨1704146400, 0⟩ = s :=
    (hs _).1 ⟨by decide, by decide, fun hleap => absurd hleap (by decide)⟩
  refine ⟨hfits, hsteady, htotal.trans (by decide), hread, ?_⟩
  rw [hresult, if_pos (by decide +kernel)]
  rfl

/-- More days than fit, and hours that lead back: the days are clamped first, so what is
left of seventeen hours is less than thirteen minutes. -/
theorem offset_led_back :
    DateOffset.IsInt64 { days := 106751991168, hours := -2562047788015 } ∧
      clampInt64 (DateOffset.exact { days := 106751991168, hours := -2562047788015 }) = 61200000 ∧
      DateOffset.total { days := 106751991168, hours := -2562047788015 } = 775807 ∧
      (DateRule.add {} { days := 106751991168, hours := -2562047788015 }).check 0 true
        (.string "2024-01-01T00:00:00Z") .root = .ok ⟨1704067975, 807000000⟩ := by
  have hread : read? true (.string "2024-01-01T00:00:00Z") = some ⟨1704067200, 0⟩ := by
    decide +kernel
  have htotal : DateOffset.total { days := 106751991168, hours := -2562047788015 } = 775807 := by
    decide
  refine ⟨?_, by decide, htotal, ?_⟩
  · intro unit
    cases unit <;> decide
  · rw [check_of_read? rfl hread, DateOffset.shift, htotal]
    rfl

end DateRule

end Conform
