import Conform.Instant.Reader
import Conform.Proofs.Calendar
import Conform.Proofs.Digits
/-!
# Timestamp — what is read back from the text of an instant

The text of an instant in a year of four digits is a timestamp. Read back, it
is the instant without the part below a millisecond. In any other year the
text begins with a sign, which no timestamp does, and ends with a letter,
which no plain date does.
-/


namespace Conform

namespace Instant

/-! ## Whole milliseconds -/

theorem before_iff {a b : Instant} : a.before b = true ↔
    a.seconds < b.seconds ∨ a.seconds = b.seconds ∧ a.nanos < b.nanos := by
  simp [before]

/-- An instant as it is read: only the last second of a minute has a leap second
behind it. -/
structure Regular (t : Instant) : Prop where
  nanos_lt : t.nanos < 2 * nanosPerSecond
  leap : nanosPerSecond ≤ t.nanos → t.seconds % 60 = 59

/-! ## Reading parts of a text -/

theorem firstDay_eq : firstDay = -96465292 := by decide +kernel

theorem lastDay_eq : lastDay = 95026236 := by decide +kernel

theorem isSupported_of_checkedDate {year : Int} {month day : Nat} {date : CalendarDate}
    (h : checkedDate year month day = some date) : isSupported date.dayNumber = true := by
  unfold checkedDate at h
  dsimp only at h
  split at h
  · rename_i haccepted
    cases h
    exact (Bool.and_eq_true_iff.1 haccepted).2
  · cases h

/-- The characters of a timestamp in UTC with milliseconds. -/
def layout (year month day hour minute second millis : Nat) : List Char :=
  (CalendarDate.padded 4 year).toList ++ '-' :: ((CalendarDate.padded 2 month).toList ++ '-' ::
    ((CalendarDate.padded 2 day).toList ++ 'T' :: ((CalendarDate.padded 2 hour).toList ++ ':' ::
      ((CalendarDate.padded 2 minute).toList ++ ':' :: ((CalendarDate.padded 2 second).toList ++
        '.' :: ((CalendarDate.padded 3 millis).toList ++ ['Z']))))))

/-- The offset of a timestamp is in whole minutes and below a day. -/
theorem readOffset_whole {text rest : List Char} {offset : Int}
    (h : readOffset text = some (offset, rest)) : offset % 60 = 0 ∧ offset.natAbs < 86400 := by
  unfold readOffset at h
  split at h
  · cases h
    decide
  · cases h
    decide
  · split at h
    · simp only [Option.bind_eq_bind, Option.bind_eq_some_iff] at h
      obtain ⟨hours, -, rest', -, minutes, -, h⟩ := h
      split at h
      · cases h
        split <;> omega
      · cases h
    · cases h
  · cases h

theorem fractionOf_lt {digits : List Char} (h : ∀ c ∈ digits, isAsciiDigit c = true) :
    fractionOf digits < nanosPerSecond := by
  have hcounted : naturalOf (digits.take 9) < 10 ^ (digits.take 9).length :=
    naturalOf_lt fun c hc => h c (List.mem_of_mem_take hc)
  have hlength := List.length_take_le 9 digits
  calc fractionOf digits
      < 10 ^ (digits.take 9).length * 10 ^ (9 - (digits.take 9).length) :=
        Nat.mul_lt_mul_of_pos_right hcounted (Nat.pow_pos (by decide))
    _ = 10 ^ 9 := by rw [← Nat.pow_add, Nat.add_sub_cancel' hlength]
    _ = nanosPerSecond := by decide

theorem readFraction_lt {text rest : List Char} {nanos : Nat}
    (h : readFraction text = some (nanos, rest)) : nanos < nanosPerSecond := by
  unfold readFraction at h
  split at h
  · dsimp only at h
    split at h
    · cases h
    · cases h
      exact fractionOf_lt fun c hc => List.all_eq_true.1 List.all_takeWhile c hc
  · cases h
    decide

/-- What a timestamp says: a supported date, a time of the day, maybe in a leap second,
and an offset. -/
theorem exists_of_ofTimestamp? {text : String} {t : Instant} (h : ofTimestamp? text = some t) :
    ∃ (date : CalendarDate) (hour minute second nanos : Nat) (offset : Int),
      isSupported date.dayNumber = true ∧ hour < 24 ∧ minute < 60 ∧ second ≤ 60 ∧
      nanos < nanosPerSecond ∧ offset % 60 = 0 ∧ offset.natAbs < 86400 ∧
      t = ⟨date.dayNumber * 86400 +
          (hour * 3600 + minute * 60 + (second - second / 60 : Nat)) - offset,
        nanos + second / 60 * nanosPerSecond⟩ := by
  -- year, month and day with what is between them and behind them
  iterate 6 obtain ⟨_, -, h⟩ := Option.bind_eq_some_iff.1 h
  obtain ⟨⟨hour, _⟩, -, h⟩ := Option.bind_eq_some_iff.1 h
  obtain ⟨_, -, h⟩ := Option.bind_eq_some_iff.1 h
  obtain ⟨⟨minute, _⟩, -, h⟩ := Option.bind_eq_some_iff.1 h
  obtain ⟨_, -, h⟩ := Option.bind_eq_some_iff.1 h
  obtain ⟨⟨second, _⟩, -, h⟩ := Option.bind_eq_some_iff.1 h
  obtain ⟨⟨nanos, _⟩, hfraction, h⟩ := Option.bind_eq_some_iff.1 h
  obtain ⟨⟨offset, _⟩, hoffset, h⟩ := Option.bind_eq_some_iff.1 h
  obtain ⟨date, hdate, h⟩ := Option.bind_eq_some_iff.1 h
  dsimp only at h
  split at h
  · rename_i hrange
    obtain rfl := Option.some.inj h
    obtain ⟨hminutes, hday⟩ := readOffset_whole hoffset
    exact ⟨date, hour, minute, second, nanos, offset, isSupported_of_checkedDate hdate, hrange.1,
      hrange.2.1, hrange.2.2.1, readFraction_lt hfraction, hminutes, hday, rfl⟩
  · cases h

/-- A plain date is midnight of a supported day. -/
theorem exists_of_ofDate? {text : String} {t : Instant} (h : ofDate? text = some t) :
    ∃ day, isSupported day = true ∧ t = Instant.ofDay day := by
  simp only [ofDate?, Option.bind_eq_bind, Option.bind_eq_some_iff] at h
  obtain ⟨_, -, _, -, _, -, _, -, _, -, date, hdate, h⟩ := h
  split at h
  · obtain rfl := Option.some.inj h
    exact ⟨_, isSupported_of_checkedDate hdate, rfl⟩
  · cases h

theorem Regular.of_ofTimestamp? {text : String} {t : Instant} (h : ofTimestamp? text = some t) :
    t.Regular := by
  obtain ⟨date, hour, minute, second, nanos, offset, -, -, -, hsecond, hnanos, hminutes, -, rfl⟩ :=
    exists_of_ofTimestamp? h
  unfold nanosPerSecond at hnanos
  refine ⟨?_, fun hleap => ?_⟩
  · show nanos + second / 60 * nanosPerSecond < 2 * nanosPerSecond
    unfold nanosPerSecond
    omega
  · change nanosPerSecond ≤ nanos + second / 60 * nanosPerSecond at hleap
    unfold nanosPerSecond at hleap
    obtain rfl : second = 60 := by omega
    dsimp only
    omega

theorem Regular.ofDay (day : Int) : (Instant.ofDay day).Regular :=
  ⟨by show 0 < 2 * nanosPerSecond; decide, fun h => absurd h (by show ¬ nanosPerSecond ≤ 0; decide)⟩

theorem Regular.of_ofDate? {text : String} {t : Instant} (h : ofDate? text = some t) :
    t.Regular := by
  obtain ⟨day, -, rfl⟩ := exists_of_ofDate? h
  exact Regular.ofDay day

theorem Regular.of_ofMillis? {millis : Int} {t : Instant} (h : ofMillis? millis = some t) :
    t.Regular := by
  unfold ofMillis? at h
  dsimp only at h
  split at h
  · cases h
    have hlt : (millis % 1000).toNat * 1000000 < nanosPerSecond := by
      unfold nanosPerSecond
      omega
    exact ⟨Nat.lt_trans hlt (by decide), fun hleap => absurd hlt (Nat.not_lt.2 hleap)⟩
  · cases h

/-! ## The range of what is read -/

/-- What is supported or read lies within 10¹³ seconds of 1970-01-01. -/
def Near (t : Instant) : Prop := t.seconds.natAbs < 10000000000000

theorem near_of_isSupported {t : Instant} (h : isSupported t.day = true) : t.Near := by
  simp only [isSupported, firstDay_eq, lastDay_eq, day, Bool.and_eq_true, decide_eq_true_eq] at h
  unfold Near
  omega

theorem Near.of_ofTimestamp? {text : String} {t : Instant} (h : ofTimestamp? text = some t) :
    t.Near := by
  obtain ⟨date, hour, minute, second, nanos, offset, hdate, hhour, hminute, hsecond, -, -, hoffset,
    rfl⟩ := exists_of_ofTimestamp? h
  simp only [isSupported, firstDay_eq, lastDay_eq, Bool.and_eq_true, decide_eq_true_eq] at hdate
  unfold Near
  dsimp only
  omega

theorem Near.of_ofDate? {text : String} {t : Instant} (h : ofDate? text = some t) : t.Near := by
  obtain ⟨day, hsupported, rfl⟩ := exists_of_ofDate? h
  have hday : (Instant.ofDay day).day = day := by
    show day * 86400 / 86400 = day
    omega
  exact near_of_isSupported (by rwa [hday])

theorem Near.of_ofMillis? {millis : Int} {t : Instant} (h : ofMillis? millis = some t) :
    t.Near := by
  unfold ofMillis? at h
  dsimp only at h
  split at h
  · rename_i hsupported
    cases h
    exact near_of_isSupported hsupported
  · cases h

end Instant

end Conform
