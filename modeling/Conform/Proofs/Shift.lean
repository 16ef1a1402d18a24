import Conform.Proofs.Timestamp
/-!
# Shift — how far a shifted instant lies away

`elapsed` measures the time between two instants. A leap second takes time only
for an instant that is in it: what comes after that second is one second
further away. `LiesAfter` says that an instant lies a number of milliseconds
after another, and there is exactly one such instant. Shifting finds it, and
fails if it is not supported.
-/


namespace Conform

namespace Instant

variable {t s s' : Instant} {millis : Int}

/-! ## Distances -/

/-- The nanoseconds since 1970-01-01, where leap seconds take no time. -/
def position (t : Instant) : Int := t.seconds * nanosPerSecond + t.nanos

/-- The instant is in a leap second. -/
def IsLeap (t : Instant) : Prop := nanosPerSecond ≤ t.nanos

instance (t : Instant) : Decidable t.IsLeap := inferInstanceAs (Decidable (_ ≤ _))

/-- The nanoseconds from one instant to another. If the first is in a leap second, that
second lies in front of all later ones. -/
def elapsed (t s : Instant) : Int :=
  s.position - t.position + if t.IsLeap ∧ t.seconds < s.seconds then (nanosPerSecond : Int) else 0

/-- The instant `s` lies `millis` milliseconds after `t`, and it is in no leap second but
that of `t`. -/
structure LiesAfter (t : Instant) (millis : Int) (s : Instant) : Prop where
  elapsed_eq : t.elapsed s = millis * 1000000
  nanos_lt : s.nanos < 2 * nanosPerSecond
  leap : s.IsLeap → t.IsLeap ∧ s.seconds = t.seconds

/-- At every distance there is at most one instant. -/
theorem LiesAfter.unique (h : t.LiesAfter millis s) (h' : t.LiesAfter millis s') : s = s' := by
  obtain ⟨helapsed, hnanos, hleap⟩ := h
  obtain ⟨helapsed', hnanos', hleap'⟩ := h'
  obtain ⟨seconds, nanos⟩ := s
  obtain ⟨seconds', nanos'⟩ := s'
  unfold elapsed position at helapsed helapsed'
  unfold IsLeap nanosPerSecond at *
  dsimp only at *
  rw [Instant.mk.injEq]
  split at helapsed <;> split at helapsed' <;> omega

/-- What can be read and what is supported are less than 3·10¹⁶ milliseconds apart. -/
theorem LiesAfter.natAbs_lt (h : t.LiesAfter millis s) (ht : t.Near) (hs : s.Near)
    (hnanos : t.nanos < 2 * nanosPerSecond) : millis.natAbs < 30000000000000000 := by
  obtain ⟨helapsed, hnanos', -⟩ := h
  unfold elapsed position at helapsed
  unfold Near nanosPerSecond at *
  split at helapsed <;> omega

/-! ## Shifting -/

/-- A shift in whole seconds and the rest in milliseconds, both of its sign. -/
theorem tdiv_tmod (millis : Int) :
    millis = 1000 * millis.tdiv 1000 + millis.tmod 1000 ∧
      (0 ≤ millis.tdiv 1000 ∧ 0 ≤ millis.tmod 1000 ∧ millis.tmod 1000 < 1000 ∨
        millis.tdiv 1000 ≤ 0 ∧ millis.tmod 1000 ≤ 0 ∧ -1000 < millis.tmod 1000) := by
  refine ⟨(Int.mul_tdiv_add_tmod millis 1000).symm, ?_⟩
  rcases Int.le_total 0 millis with hpos | hneg
  · left
    rw [Int.tdiv_eq_ediv_of_nonneg hpos, Int.tmod_eq_emod_of_nonneg hpos]
    omega
  · right
    obtain ⟨n, rfl⟩ : ∃ n, millis = -n := ⟨-millis, by omega⟩
    have hn : 0 ≤ n := by omega
    rw [Int.neg_tdiv, Int.neg_tmod, Int.tdiv_eq_ediv_of_nonneg hn, Int.tmod_eq_emod_of_nonneg hn]
    omega

/-- The instant so many nanoseconds after the beginning of a second, where leap seconds
take no time. -/
def carry (seconds nanos : Int) : Instant :=
  if nanos < 0 then ⟨seconds - 1, (nanos + nanosPerSecond).toNat⟩
  else if nanosPerSecond ≤ nanos then ⟨seconds + 1, (nanos - nanosPerSecond).toNat⟩
  else ⟨seconds, nanos.toNat⟩

/-- What is carried is at most one second, so it is no leap second, and its distance is
that of the nanoseconds. -/
theorem liesAfter_carry {seconds nanos : Int} (hlow : -(nanosPerSecond : Int) ≤ nanos)
    (hhigh : nanos < 2 * nanosPerSecond)
    (h : seconds * nanosPerSecond + nanos - t.position +
        (if t.IsLeap ∧ (t.seconds + 1) * nanosPerSecond ≤ seconds * nanosPerSecond + nanos then
          (nanosPerSecond : Int) else 0) = millis * 1000000) :
    t.LiesAfter millis (carry seconds nanos) := by
  have hcarry : ∃ second rest, carry seconds nanos = ⟨second, rest⟩ ∧ rest < nanosPerSecond ∧
      second * nanosPerSecond + rest = seconds * nanosPerSecond + nanos := by
    unfold carry
    unfold nanosPerSecond at *
    split
    · exact ⟨_, _, rfl, by omega, by omega⟩
    · split
      · exact ⟨_, _, rfl, by omega, by omega⟩
      · exact ⟨_, _, rfl, by omega, by omega⟩
  obtain ⟨second, rest, heq, hrest, hposition⟩ := hcarry
  have hlater : t.seconds < second ↔
      (t.seconds + 1) * nanosPerSecond ≤ seconds * nanosPerSecond + nanos := by
    unfold nanosPerSecond at *
    omega
  refine heq ▸ ⟨?_, ?_, fun hleap => absurd hrest (Nat.not_lt.2 hleap)⟩
  · rw [← hposition] at h hlater
    simp only [← hlater] at h
    exact h
  · show rest < 2 * nanosPerSecond
    omega

/-- The instant that a shift leads to. Only from within a leap second does it matter where
it leads: it stays there, or goes back, or goes on to later seconds. -/
def moved (t : Instant) (whole part : Int) : Instant :=
  if ¬ t.IsLeap then carry (t.seconds + whole) (t.nanos + part)
  else if whole = 0 ∧ t.nanos + part < 2 * nanosPerSecond then
    ⟨t.seconds, (t.nanos + part).toNat⟩
  else if whole < 0 then carry (t.seconds + 1 + whole) (t.nanos - nanosPerSecond + part)
  else carry (t.seconds + whole) (t.nanos - nanosPerSecond + part)

theorem shift?_eq (t : Instant) (ht : t.nanos < 2 * nanosPerSecond) (millis : Int) :
    t.shift? millis =
      if isSupported (t.moved (millis.tdiv 1000) (millis.tmod 1000 * 1000000)).day then
        some (t.moved (millis.tdiv 1000) (millis.tmod 1000 * 1000000)) else none := by
  unfold shift? moved carry IsLeap
  generalize millis.tdiv 1000 = whole
  generalize millis.tmod 1000 * 1000000 = part
  have hstays : (t.nanos ≥ nanosPerSecond && whole = 0 &&
      !(0 < part && 2 * (nanosPerSecond : Int) - part ≤ t.nanos)) = true ↔
        nanosPerSecond ≤ t.nanos ∧ whole = 0 ∧ t.nanos + part < 2 * nanosPerSecond := by
    simp only [Bool.and_eq_true, Bool.not_eq_true', Bool.and_eq_false_iff, decide_eq_true_eq,
      decide_eq_false_iff_not]
    omega
  simp only [hstays]
  rcases Nat.lt_or_ge t.nanos nanosPerSecond with hordinary | hleap
  · simp only [hordinary, Nat.not_le.2 hordinary, not_false_iff, if_true, if_false, false_and]
  · simp only [hleap, Nat.not_lt.2 hleap, not_true, if_false, true_and]
    by_cases hback : whole < 0
    · simp only [hback, if_true]
    · simp only [hback, if_false]

/-- A shift leads to the instant at its distance. -/
theorem liesAfter_moved (t : Instant) (ht : t.nanos < 2 * nanosPerSecond) (millis : Int) :
    t.LiesAfter millis (t.moved (millis.tdiv 1000) (millis.tmod 1000 * 1000000)) := by
  obtain ⟨hmillis, hsign⟩ := tdiv_tmod millis
  generalize millis.tdiv 1000 = whole at *
  generalize millis.tmod 1000 = part at *
  unfold moved
  by_cases hleap : t.IsLeap
  · have hnanos : nanosPerSecond ≤ t.nanos := hleap
    rw [if_neg (not_not.2 hleap)]
    unfold nanosPerSecond at hnanos ht
    split
    · refine ⟨?_, ?_, fun _ => ⟨hleap, rfl⟩⟩
      · rw [elapsed, if_neg fun h => Int.lt_irrefl _ h.2]
        unfold position nanosPerSecond
        dsimp only
        omega
      · unfold nanosPerSecond at *
        dsimp only
        omega
    · rename_i hleaves
      unfold nanosPerSecond at hleaves
      split
      -- on the way back no leap second is passed, on the way on that of `t` is
      · refine liesAfter_carry ?_ ?_ ?_
        · omega
        · unfold nanosPerSecond
          omega
        · rw [if_neg]
          · unfold position nanosPerSecond
            omega
          · unfold nanosPerSecond
            omega
      · refine liesAfter_carry ?_ ?_ ?_
        · omega
        · unfold nanosPerSecond
          omega
        · rw [if_pos]
          · unfold position nanosPerSecond
            omega
          · unfold nanosPerSecond
            exact ⟨hleap, by omega⟩
  · have hnanos : t.nanos < nanosPerSecond := Nat.not_le.1 hleap
    rw [if_pos hleap]
    unfold nanosPerSecond at hnanos
    refine liesAfter_carry ?_ ?_ ?_
    · unfold nanosPerSecond
      omega
    · unfold nanosPerSecond
      omega
    · rw [if_neg fun h => hleap h.1]
      unfold position nanosPerSecond
      omega

/-- **A shift finds the instant at its distance, if it is supported.** -/
theorem shift?_of_liesAfter (ht : t.nanos < 2 * nanosPerSecond) (h : t.LiesAfter millis s) :
    t.shift? millis = if isSupported s.day then some s else none := by
  rw [shift?_eq t ht, (liesAfter_moved t ht millis).unique h]

end Instant

end Conform
