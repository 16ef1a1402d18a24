import Conform.Proofs.Membership
import Conform.Proofs.Timestamp
/-!
# Date — when a date is accepted again

A date hands out its text in whole milliseconds. Read back, that is the
instant cut to milliseconds, on the same day and in the same second. So only a
bound that the date has to lie behind can tell the two apart: it may lie
within the millisecond that was cut off. A year that has not four digits is
written with a sign and not read back at all.
-/


namespace Conform

/-! ## One constraint -/

namespace DateRule

variable {r : DateRule} {today later : Int} {strict : Bool} {t : Instant} {path : Path}

theorem firstIssue_eq_none_iff (path : Path) :
    r.firstIssue today t path = none ↔ ∀ c ∈ r.constraints, c.holds today t = true := by
  unfold firstIssue DateConstraint.issue?
  simp

/-- A date is accepted if it is read, stays in range when it is shifted and then is as
required. -/
theorem check_eq_ok_iff_shifted {value : Value} {s : Instant} :
    r.check today strict value path = .ok s ↔
      ∃ t, read? strict value = some t ∧ r.shifted? t = some s ∧
        ∀ c ∈ r.constraints, c.holds today s = true := by
  simp only [← firstIssue_eq_none_iff path]
  unfold check
  cases read? strict value with
  | none => simp
  | some t =>
    dsimp only
    cases hshift : r.shifted? t with
    | none => simp [hshift]
    | some s' =>
      simp only [Option.some.injEq, exists_eq_left', hshift]
      cases hissue : r.firstIssue today s' path with
      | none =>
        simp only [Except.ok.injEq]
        refine ⟨?_, And.left⟩
        rintro rfl
        exact ⟨rfl, hissue⟩
      | some issue =>
        simp only [Checked.fail_ne_ok, false_iff]
        rintro ⟨rfl, hnone⟩
        simp [hissue] at hnone

theorem check_eq_ok_iff {value : Value} (hoffset : r.offset = none) :
    r.check today strict value path = .ok t ↔
      read? strict value = some t ∧ ∀ c ∈ r.constraints, c.holds today t = true := by
  have hshift (s : Instant) : r.shifted? s = some s := by
    unfold shifted?
    rw [hoffset]
  simp only [check_eq_ok_iff_shifted, hshift, Option.some.injEq]
  constructor
  · rintro ⟨s, hread, rfl, hholds⟩
    exact ⟨hread, hholds⟩
  · rintro ⟨hread, hholds⟩
    exact ⟨t, hread, rfl, hholds⟩

/-- What is read is a timestamp, a plain date or a number of milliseconds. -/
theorem exists_of_read? {value : Value} (h : read? strict value = some t) :
    (∃ text, Instant.ofTimestamp? text = some t) ∨ (∃ text, Instant.ofDate? text = some t) ∨
      ∃ millis, Instant.ofMillis? millis = some t := by
  unfold read? at h
  split at h
  · exact .inl ⟨_, h⟩
  · rcases Option.or_eq_some_iff.1 h with htimestamp | ⟨-, hdate⟩
    · exact .inl ⟨_, htimestamp⟩
    · exact .inr (.inl ⟨_, hdate⟩)
  · obtain ⟨millis, -, hmillis⟩ := Option.bind_eq_some_iff.1 h
    exact .inr (.inr ⟨millis, hmillis⟩)
  · cases h

/-- Every instant that a date reads is one that its text shows. -/
theorem regular_of_read? {value : Value} (h : read? strict value = some t) : t.Regular := by
  obtain ⟨_, htimestamp⟩ | ⟨_, hdate⟩ | ⟨_, hmillis⟩ := exists_of_read? h
  · exact .of_ofTimestamp? htimestamp
  · exact .of_ofDate? hdate
  · exact .of_ofMillis? hmillis

/-- Every instant that a date reads is in or next to the supported range. -/
theorem near_of_read? {value : Value} (h : read? strict value = some t) : t.Near := by
  obtain ⟨_, htimestamp⟩ | ⟨_, hdate⟩ | ⟨_, hmillis⟩ := exists_of_read? h
  · exact .of_ofTimestamp? htimestamp
  · exact .of_ofDate? hdate
  · exact .of_ofMillis? hmillis

end DateRule

/-! ## The schema -/

namespace Schema

variable {r : DateRule} {m : Modifiers Instant} {env later : Env}

theorem parse_date_eq_ok_iff (hm : m.HookFree) {value : Value} {path : Path}
    {output : Option Value} :
    ((date r m).validator env).parse (some value) path = .ok output ↔
      ∃ t, r.check env.today m.strict value path = .ok t ∧ output = some (dateValue t) := by
  have hpresent : ((date r m).validator env).present value path =
      (r.check env.today m.strict value path).map dateValue := hm.validator_present dateValue
  simp only [Validator.parse_some, hpresent, Checked.map_eq_ok_iff]
  constructor
  · rintro ⟨-, ⟨t, ht, rfl⟩, rfl⟩
    exact ⟨t, ht, rfl⟩
  · rintro ⟨t, ht, rfl⟩
    exact ⟨_, ⟨t, ht, rfl⟩, rfl⟩

end Schema

end Conform
