import Conform.Proofs.Keyed
import Conform.Value
/-!
# Value — look-up and equality, member by member

In an object with different keys, looking up a key finds the member that has
it. Equality of values is given here for whole arrays and objects: items
are equal at every position, and every member on the left has an equal
one under its key on the right.
-/


namespace Conform

namespace Members

variable {members : Members} {key : String} {value : Value}

theorem get?_eq_none_iff : members.get? key = none ↔ key ∉ members.keys := Keyed.lookup_eq_none_iff

theorem exists_get?_eq_some (h : key ∈ members.keys) : ∃ value, members.get? key = some value :=
  Keyed.exists_lookup_eq_some h

theorem mem_of_get?_eq_some (h : members.get? key = some value) : (key, value) ∈ members :=
  Keyed.mem_of_lookup_eq_some h

/-- Where keys are different, a member is found under its key. -/
theorem get?_eq_some_iff (hkeys : members.keys.Nodup) :
    members.get? key = some value ↔ (key, value) ∈ members := Keyed.lookup_eq_some_iff hkeys

end Members

namespace Value

theorem sameItems_iff {xs ys : List Value} :
    sameItems xs ys = true ↔
      xs.length = ys.length ∧
        ∀ (i : Nat) (h : i < xs.length) (h' : i < ys.length), xs[i].same ys[i] = true := by
  induction xs generalizing ys with
  | nil => cases ys <;> simp [sameItems]
  | cons x xs ih =>
    cases ys with
    | nil => simp [sameItems]
    | cons y ys =>
      rw [sameItems, Bool.and_eq_true, ih]
      constructor
      · rintro ⟨hfirst, hlength, hrest⟩
        refine ⟨by simp [hlength], fun i hi hi' => ?_⟩
        cases i with
        | zero => exact hfirst
        | succ i => exact hrest i (by simpa using hi) (by simpa using hi')
      · rintro ⟨hlength, hall⟩
        refine ⟨hall 0 (by simp) (by simp), by simpa using hlength, fun i hi hi' => ?_⟩
        exact hall (i + 1) (by simpa using hi) (by simpa using hi')

theorem sameMembers_iff {members others : Members} :
    sameMembers members others = true ↔
      ∀ key x, (key, x) ∈ members → ∃ y, others.get? key = some y ∧ x.same y = true := by
  induction members with
  | nil => simp [sameMembers]
  | cons member rest ih =>
    obtain ⟨name, first⟩ := member
    have hfirst : sameMembers ((name, first) :: rest) others = true ↔
        (∃ y, others.get? name = some y ∧ first.same y = true) ∧ sameMembers rest others = true := by
      rw [sameMembers, Bool.and_eq_true]
      cases others.get? name <;> simp
    rw [hfirst, ih]
    constructor
    · rintro ⟨hname, hrest⟩ key x hmem
      rcases List.mem_cons.1 hmem with heq | hmem
      · obtain ⟨rfl, rfl⟩ := Prod.mk.inj heq
        exact hname
      · exact hrest key x hmem
    · intro h
      exact ⟨h name first List.mem_cons_self,
        fun key x hmem => h key x (List.mem_cons_of_mem _ hmem)⟩

end Value

end Conform
