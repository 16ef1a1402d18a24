import Conform.Proofs.Correspondence.Schema
import Conform.Proofs.Value
/-!
# Reordering — the order of keys in the input does not matter

Two inputs differ in the order of keys if the same keys lead to values that
again differ in no more than this. Outputs do not show the difference: an
object is put together in the order of its declaration, so texts of
outputs, by which repetitions are found, do not show it either. Issues
show it in their texts and values, but not in where they stand, what kind
they are of and which code they have.

Copying undeclared keys would show the order, and so might preparation.
-/


namespace Conform

/-- Two values that differ only in the order of keys of objects, at any depth. -/
inductive Value.Reordered : Value → Value → Prop
  | null : Reordered .null .null
  | boolean (b : Bool) : Reordered (.boolean b) (.boolean b)
  | number (n : Number) : Reordered (.number n) (.number n)
  | string (s : String) : Reordered (.string s) (.string s)
  | array {items items' : List Value} : items.length = items'.length →
      (∀ (i : Nat) (h : i < items.length) (h' : i < items'.length), Reordered items[i] items'[i]) →
      Reordered (.array items) (.array items')
  | object {members members' : Members} : members.keys.Nodup → members.keys.Perm members'.keys →
      (∀ key value value', (key, value) ∈ members → (key, value') ∈ members' →
        Reordered value value') →
      Reordered (.object members) (.object members')

namespace Value

/-- Keys that are only in another order lead to corresponding values. -/
theorem Reordered.get? {r : Value → Value → Prop} {members members' : Members}
    (hkeys : members.keys.Nodup) (hperm : members.keys.Perm members'.keys)
    (h : ∀ key value value', (key, value) ∈ members → (key, value') ∈ members' → r value value')
    (key : String) : Option.Rel r (members.get? key) (members'.get? key) := by
  cases hleft : members.get? key with
  | none =>
    have hmem : key ∉ members'.keys := fun hmem =>
      Members.get?_eq_none_iff.1 hleft (hperm.mem_iff.2 hmem)
    rw [Members.get?_eq_none_iff.2 hmem]
    exact .none
  | some value =>
    have hvalue := (Members.get?_eq_some_iff hkeys).1 hleft
    cases hright : members'.get? key with
    | none =>
      exact absurd (hperm.mem_iff.1 (List.mem_map_of_mem hvalue)) (Members.get?_eq_none_iff.1 hright)
    | some value' =>
      exact .some (h key value value' hvalue (Members.mem_of_get?_eq_some hright))

theorem Reordered.sameForm {a a' : Value} (h : a.Reordered a') : SameForm Reordered a a' := by
  cases h with
  | array hlength hitems => exact .array hlength hitems
  | object hkeys hperm hmembers => exact .object hperm (Reordered.get? hkeys hperm hmembers)
  | _ => exact .scalar rfl

theorem Reordered.of_isScalar {a : Value} (h : a.isScalar = true) : a.Reordered a := by
  cases a with
  | null => exact .null
  | boolean b => exact .boolean b
  | number n => exact .number n
  | string s => exact .string s
  | _ => cases h

theorem exists_same_iff {y y' : Option Value} (x : Value)
    (h : Option.Rel (fun v v' => ∀ x : Value, x.same v = x.same v') y y') :
    (∃ z, y = some z ∧ x.same z = true) ↔ ∃ z, y' = some z ∧ x.same z = true := by
  cases h with
  | none => rfl
  | some hsame => simp [hsame]

/-- Equality of values does not see the order of keys. -/
theorem Reordered.same_eq {a a' : Value} (h : a.Reordered a') (x : Value) : x.same a = x.same a' := by
  induction h generalizing x with
  | array hlength _ ih =>
    cases x with
    | array xs =>
      rw [Value.same, Value.same, Bool.eq_iff_iff, sameItems_iff, sameItems_iff]
      constructor
      · rintro ⟨hxs, hall⟩
        refine ⟨hxs.trans hlength, fun i hi hi' => ?_⟩
        rw [← ih i (by omega) hi']
        exact hall i hi (by omega)
      · rintro ⟨hxs, hall⟩
        refine ⟨hxs.trans hlength.symm, fun i hi hi' => ?_⟩
        rw [ih i hi' (by omega)]
        exact hall i hi (by omega)
    | _ => simp only [Value.same]
  | @object members members' hkeys hperm hmembers ih =>
    cases x with
    | object others =>
      have hlength : members.length = members'.length := by
        simpa [Members.keys] using hperm.length_eq
      have hget := Reordered.get? hkeys hperm ih
      rw [Value.same, Value.same, hlength]
      refine congrArg (_ && ·) ?_
      rw [Bool.eq_iff_iff, sameMembers_iff, sameMembers_iff]
      exact forall_congr' fun key => forall_congr' fun x => imp_congr_right fun _ =>
        exists_same_iff x (hget key)
    | _ => simp only [Value.same]
  | _ => rfl

theorem Reordered.sameMember_eq {a a' : Value} (h : a.Reordered a') (option : Value) :
    EnumerationRule.sameMember option a = EnumerationRule.sameMember option a' := by
  cases h with
  | array hlength hitems => cases option <;> exact (Reordered.array hlength hitems).same_eq _
  | object hkeys hperm hmembers =>
    cases option <;> exact (Reordered.object hkeys hperm hmembers).same_eq _
  | _ => rfl

/-- So an enumeration finds the same option. -/
theorem Reordered.find?_eq {a a' : Value} (h : a.Reordered a') {r : EnumerationRule}
    {strict : Bool} :
    r.find? (EnumerationRule.candidate strict a) = r.find? (EnumerationRule.candidate strict a') := by
  cases h with
  | array hlength hitems =>
    exact congrArg (List.find? · r.options)
      (funext (Reordered.array hlength hitems).sameMember_eq)
  | object hkeys hperm hmembers =>
    exact congrArg (List.find? · r.options)
      (funext (Reordered.object hkeys hperm hmembers).sameMember_eq)
  | _ => rfl

end Value

/-! ## Runs on inputs with another order of keys -/

/-- Inputs that differ in the order of keys, at one path. Of the issues, only the
outlines are compared. -/
def reordering : Correspondence where
  value := Value.Reordered
  path := Eq
  left := Issue.outline
  right := Issue.outline
  sameForm := Value.Reordered.sameForm
  scalar := Value.Reordered.of_isScalar
  push s hp := congrArg (Path.push · s) hp
  issue kind code message expected hp _ hsub := by
    rw [Issue.outline_mk, Issue.outline_mk, hp, hsub]
  unknownKeys keep hp _ := by
    rw [hp]
    exact (Issue.outline_mk ..).trans (Issue.outline_mk ..).symm
  enumeration r strict hp ha := by
    unfold EnumerationRule.check
    rw [ha.find?_eq]
    cases r.find? _ with
    | some option => rfl
    | none =>
      rw [hp]
      exact congrArg Checked.fail ((Issue.outline_mk ..).trans (Issue.outline_mk ..).symm)

namespace Issue

/-- Where an issue stands, of which kind it is, and its code. -/
def heading (issue : Issue) : Path × IssueKind × String := (issue.path, issue.kind, issue.code)

theorem heading_outline (issue : Issue) : issue.outline.heading = issue.heading := by
  obtain ⟨path, kind, code, message, value, expected, sub⟩ := issue
  rw [outline_mk]
  rfl

/-- The headings of the leaves can be read off the outline. -/
theorem map_heading_leaves (found : Issues) :
    (found.map outline).leaves.map heading = found.leaves.map heading := by
  unfold Issues.leaves
  rw [Issues.toList_map, outline, leavesOf_relabel, List.map_map]
  exact List.map_congr_left fun issue _ => heading_outline issue

end Issue

/-- The node does not prepare its input, and an object does not copy undeclared
keys. Custom checks, finishes and defaults are free. -/
def Schema.IsOrderFree (s : Schema) : Prop :=
  s.HasModifiers (fun m => m.prepare = none) ∧
    match s with
    | object shape => shape.unknownKeys ≠ .loose
    | _ => True

namespace Modifiers

/-- A custom check sees the output, which is the same in both runs. -/
theorem preserves_reordering {α : Type} {m : Modifiers α} (h : m.prepare = none) :
    reordering.Preserves m where
  prepare f hf := by
    rw [h] at hf
    cases hf
  custom check _ output p p' hp := by
    obtain rfl : p = p' := hp
    rfl

end Modifiers

theorem Schema.isPreserving_reordering {s : Schema} (h : s.IsOrderFree) :
    s.IsPreserving reordering := by
  obtain ⟨hmodifiers, hmode⟩ := h
  cases s with
  | object shape =>
    exact ⟨Modifiers.preserves_reordering hmodifiers, fun hloose => absurd hloose hmode⟩
  | _ => exact ⟨Modifiers.preserves_reordering hmodifiers, trivial⟩

namespace Family

variable {family : Family} {today : Int} {s : Schema}

/-- **The order of keys does not matter.** On two inputs that differ only in the
order of keys, a schema that copies no undeclared keys and does not prepare
its input either passes with one and the same output, or fails with leaves
that stand at the same places, are of the same kinds and have the same
codes, in the same order. -/
theorem parse_reordered (hfamily : ∀ target, (family target).Every Schema.IsOrderFree)
    (hs : s.Every Schema.IsOrderFree) {input input' : Option Value}
    (h : Option.Rel Value.Reordered input input') (path : Path) :
    (∃ output, (family.validator today s).parse input path = .ok output ∧
        (family.validator today s).parse input' path = .ok output) ∨
      ∃ found found', (family.validator today s).parse input path = .error found ∧
        (family.validator today s).parse input' path = .error found' ∧
          found.leaves.map Issue.heading = found'.leaves.map Issue.heading := by
  have hrespects : reordering.Respects (family.validator today s) :=
    respects (fun target => (hfamily target).mono fun _ => Schema.isPreserving_reordering) .outside
      (hs.mono fun _ => Schema.isPreserving_reordering)
  have hagree := hrespects.parse h (rfl : path = path)
  refine (Correspondence.agree_iff.1 hagree).imp_right ?_
  rintro ⟨found, found', hleft, hright, houtline⟩
  refine ⟨found, found', hleft, hright, ?_⟩
  rw [← Issue.map_heading_leaves found, ← Issue.map_heading_leaves found']
  exact congrArg (fun issues => issues.leaves.map Issue.heading) houtline

/-- The members of an axle. -/
def axle : Members := [("name", .string "axle"), ("mass", .number (.integer 2))]

theorem reordered_axle (members : Members) (h : axle.Perm members) :
    (Value.object axle).Reordered (.object members) := by
  refine .object (by decide) (h.map Prod.fst) fun key value value' hvalue hvalue' => ?_
  have hvalue' := h.mem_iff.2 hvalue'
  simp only [axle, List.mem_cons, Prod.mk.injEq, List.not_mem_nil, or_false] at hvalue hvalue'
  rcases hvalue with ⟨rfl, rfl⟩ | ⟨rfl, rfl⟩ <;> rcases hvalue' with ⟨hkey, rfl⟩ | ⟨hkey, rfl⟩
  · exact .string _
  · exact absurd hkey (by decide)
  · exact absurd hkey (by decide)
  · exact .number _

/-- Two parts that have to be different. -/
def twoParts : Schema := .array .subpart { constraints := [(.unique, none)] } {}

/-- Two axles are found to be the same part also where their keys come in another
order. -/
theorem parse_axles :
    (∀ target, (machines {} target).Every Schema.IsOrderFree) ∧ twoParts.Every Schema.IsOrderFree ∧
      Option.Rel Value.Reordered (some (.array [.object axle, .object axle]))
        (some (.array [.object axle, .object axle.reverse])) ∧
      ∃ found found',
        ((machines {}).validator 0 twoParts).parse (some (.array [.object axle, .object axle]))
            .root = .error found ∧
          ((machines {}).validator 0 twoParts).parse
            (some (.array [.object axle, .object axle.reverse])) .root = .error found' ∧
          found.leaves.map Issue.heading = found'.leaves.map Issue.heading ∧
          found.leaves.map Issue.heading = [(.root, .refinement, "unique")] := by
  have hfamily : ∀ target, (machines {} target).Every Schema.IsOrderFree := fun _ => by
    apply Schema.every_part
    · exact ⟨rfl, nofun⟩
    all_goals exact ⟨rfl, trivial⟩
  have hs : twoParts.Every Schema.IsOrderFree := .array ⟨rfl, trivial⟩ (.lazy ⟨rfl, trivial⟩)
  have hinput : Option.Rel Value.Reordered (some (.array [.object axle, .object axle]))
      (some (.array [.object axle, .object axle.reverse])) := by
    refine .some (.array rfl fun i hi hi' => ?_)
    match i, hi with
    | 0, _ => exact reordered_axle _ (.refl _)
    | 1, _ => exact reordered_axle _ (List.reverse_perm _).symm
  have hheadings : (Issue.leavesOf (((machines {}).validator 0 twoParts).parse
      (some (.array [.object axle, .object axle])) .root).issues).map Issue.heading =
        [(.root, .refinement, "unique")] := by
    rw [validator, env_eq]
    decide +kernel
  refine ⟨hfamily, hs, hinput, ?_⟩
  rcases parse_reordered hfamily hs hinput .root with ⟨output, h, -⟩ | ⟨found, found', h, h', heq⟩
  · rw [h] at hheadings
    cases hheadings
  · rw [h] at hheadings
    exact ⟨found, found', h, h', heq, hheadings⟩

end Family

end Conform
