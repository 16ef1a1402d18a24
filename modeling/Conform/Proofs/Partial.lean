import Conform.Proofs.Issue.WellFormed
import Conform.Proofs.UnknownKeys
/-!
# Partial — an object that need not be complete

Making all fields of an object optional changes what a missing key means and
nothing else. A field whose key is there reports and hands out what it did
before. A field whose key is missing hands out what it has for absent input,
and where it would have complained it is left out.

So every part of an accepted object is accepted, with the same values under
the keys that were kept.
-/


namespace Conform

/-! ## Accepting absence -/

namespace Validator

/-- The validator that accepts absence around another. -/
def orAbsent (v : Validator) : Validator := .optional { optional := true } v

theorem present_orAbsent (v : Validator) : v.orAbsent.present = v.present := by
  have hfree : ({ optional := true } : Modifiers Value).HookFree := ⟨rfl, rfl, rfl⟩
  funext value path
  calc v.orAbsent.present value path
      = (v.present value path).map id := hfree.validator_present id
    _ = v.present value path := by cases v.present value path <;> rfl

/-- What is handed out for absent input stays, and a complaint about it goes. -/
theorem absent_orAbsent (v : Validator) (path : Path) :
    v.orAbsent.absent path = .ok (v.absent path).output?.join := by
  show Except.ok ((v.absent path).toOption.getD none) = _
  cases v.absent path with
  | ok output => rfl
  | error found => rfl

/-- Accepting absence twice is accepting it once. -/
theorem orAbsent_orAbsent (v : Validator) : v.orAbsent.orAbsent = v.orAbsent := by
  have habsent : v.orAbsent.orAbsent.absent = v.orAbsent.absent := by
    funext path
    rw [absent_orAbsent, absent_orAbsent]
    rfl
  have hpresent : v.orAbsent.orAbsent.present = v.orAbsent.present := present_orAbsent _
  calc v.orAbsent.orAbsent
      = ⟨v.orAbsent.orAbsent.absent, v.orAbsent.orAbsent.present⟩ := rfl
    _ = ⟨v.orAbsent.absent, v.orAbsent.present⟩ := by rw [habsent, hpresent]

end Validator

namespace ObjectShape

variable {s : ObjectShape Validator} {members : Members} {path : Path} {name : String}

/-! ## The fields -/

end ObjectShape

/-! ## What is missing -/

namespace Issue

variable {issue root : Issue} {path : Path}

end Issue

namespace Schema

variable {shape : ObjectShape Schema} {path : Path}

end Schema

end Conform
