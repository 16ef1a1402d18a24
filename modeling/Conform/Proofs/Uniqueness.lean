import Conform.Proofs.Duplicates
import Conform.Proofs.Node
import Conform.Proofs.Value
import Conform.Proofs.Value.Text
/-!
# Uniqueness — which elements an array takes for the same

An array tells its elements apart by their texts, and a text determines its
value: what is reported as a repetition is one value at two positions, down
to the order of the members of every object and the sign of every zero.
Equality of values ignores both. So every report is about equal elements, and
equal elements are missed only where one of the two differs. Values in which
neither can differ are called rigid, and among them nothing is missed.
-/


namespace Conform

/-! ## Equal values and one value -/

namespace Value

/-- Every value is equal to itself. -/
theorem same_self {v : Value} (h : v.WellFormed) : v.same v = true := by
  induction h with
  | null => rfl
  | boolean b => simp [same]
  | @number n hn =>
    cases hn with
    | integer => simp [same, Number.same]
    | @double negative units => exact Binary64.same_self (a := .finite negative units) rfl
  | string s => simp [same]
  | @array items _ ih =>
    exact sameItems_iff.2 ⟨rfl, fun i hi _ => ih items[i] (List.getElem_mem hi)⟩
  | @object members hkeys _ ih =>
    have hmembers : sameMembers members members = true :=
      sameMembers_iff.2 fun key x hmem =>
        ⟨x, (Members.get?_eq_some_iff hkeys).2 hmem, ih (key, x) hmem⟩
    simp [same, hmembers]

/-- No other value is equal: nothing in it is a double zero, which may have either
sign, and no object has two members, which may be in either order. -/
inductive Rigid : Value → Prop
  | null : Rigid null
  | boolean (b : Bool) : Rigid (boolean b)
  | number {n : Number} : (∀ negative, n ≠ .double (.finite negative 0)) → Rigid (number n)
  | string (s : String) : Rigid (string s)
  | array {items : List Value} : (∀ item ∈ items, Rigid item) → Rigid (array items)
  | object {members : Members} : members.length ≤ 1 →
      (∀ member ∈ members, Rigid member.2) → Rigid (object members)

end Value

/-- Apart from zero, a finite double is determined by its place in the order. -/
theorem Number.eq_of_same {m n : Number} (hm : m.WellFormed) (hn : n.WellFormed)
    (hzero : ∀ negative, m ≠ .double (.finite negative 0)) (h : m.same n = true) : m = n := by
  cases hm with
  | integer =>
    cases hn with
    | integer => exact congrArg integer (of_decide_eq_true h)
    | double => cases h
  | @double negative units =>
    cases hn with
    | integer => cases h
    | @double negative' units' =>
      have hunits : units ≠ 0 := by
        rintro rfl
        exact hzero negative rfl
      obtain ⟨x, hx, hx'⟩ := Binary64.same_iff.1
        (show (Binary64.finite negative units).same (.finite negative' units') = true from h)
      have hplace := Option.some.inj (hx.trans hx'.symm)
      obtain ⟨rfl, rfl⟩ : negative = negative' ∧ units = units' := by
        cases negative <;> cases negative' <;> simp at hplace ⊢ <;> omega
      rfl

namespace Value

/-- With at most one member on either side, there is one order of the keys. -/
theorem eq_of_sameMembers {members others : Members} (hone : members.length ≤ 1)
    (hlength : members.length = others.length) (hsame : sameMembers members others = true)
    (hvalues : ∀ key x y, (key, x) ∈ members → (key, y) ∈ others → x.same y = true → x = y) :
    members = others := by
  cases members with
  | nil => exact (List.length_eq_zero_iff.1 hlength.symm).symm
  | cons member rest =>
    obtain rfl : rest = [] := by simpa using hone
    obtain ⟨key, x⟩ := member
    obtain ⟨⟨name, y⟩, rfl⟩ := List.length_eq_one_iff.1 hlength.symm
    obtain ⟨z, hz, hxz⟩ := sameMembers_iff.1 hsame key x List.mem_cons_self
    have hmem : (key, z) ∈ [(name, y)] := Members.mem_of_get?_eq_some hz
    obtain rfl : x = z := hvalues key x z List.mem_cons_self hmem hxz
    exact congrArg (fun member => [member]) (List.mem_singleton.1 hmem)

/-- **A rigid value is equal to itself only.** -/
theorem Rigid.eq_of_same {v w : Value} (h : v.Rigid) (hv : v.WellFormed) (hw : w.WellFormed)
    (hsame : v.same w = true) : v = w := by
  induction h generalizing w with
  | null => cases w <;> first | rfl | cases hsame
  | boolean b =>
    cases w with
    | boolean c => exact congrArg Value.boolean (of_decide_eq_true hsame)
    | _ => cases hsame
  | number hzero =>
    cases hv with | number hm =>
    cases hw with
    | number hn => exact congrArg Value.number (Number.eq_of_same hm hn hzero hsame)
    | _ => cases hsame
  | string s =>
    cases w with
    | string t => exact congrArg Value.string (of_decide_eq_true hsame)
    | _ => cases hsame
  | @array items _ ih =>
    cases hv with | array hitems =>
    cases hw with
    | @array others hothers =>
      obtain ⟨hlength, hall⟩ := sameItems_iff.1 hsame
      refine congrArg Value.array (List.ext_getElem hlength fun i hi hi' => ?_)
      exact ih items[i] (List.getElem_mem hi) (hitems _ (List.getElem_mem hi))
        (hothers _ (List.getElem_mem hi')) (hall i hi hi')
    | _ => cases hsame
  | @object members hone _ ih =>
    cases hv with | object _ hmembers =>
    cases hw with
    | @object others _ hothers =>
      obtain ⟨hlength, hall⟩ : members.length = others.length ∧ sameMembers members others = true := by
        simpa [same] using hsame
      exact congrArg Value.object (eq_of_sameMembers hone hlength hall fun key x y hx hy hxy =>
        ih (key, x) hx (hmembers _ hx) (hothers _ hy) hxy)
    | _ => cases hsame

/-- Two of the values, one behind the other, are related. -/
def Repeated (related : Value → Value → Prop) (values : List Value) : Prop :=
  ∃ i j, ∃ (_ : i < j) (_ : j < values.length), related values[i] values[j]

theorem Repeated.mono {related related' : Value → Value → Prop} {values : List Value}
    (h : Repeated related values)
    (himp : ∀ v ∈ values, ∀ w ∈ values, related v w → related' v w) : Repeated related' values := by
  obtain ⟨i, j, hij, hj, hrelated⟩ := h
  exact ⟨i, j, hij, hj, himp _ (List.getElem_mem _) _ (List.getElem_mem _) hrelated⟩

end Value

/-! ## Reports of a code -/

/-- One of the issues has the code. -/
def Checked.Reports {α : Type} (result : Checked α) (code : String) : Prop :=
  ∃ issue ∈ result.issues, issue.code = code

/-- A run reports what the step reports, if the custom check does not report it. -/
theorem Modifiers.reports_conclude_iff {α : Type} {m : Modifiers α} {path : Path}
    {result : Checked α} {code : String}
    (hcustom : ∀ output, ¬ (m.checked output path).Reports code) :
    (m.conclude path result).Reports code ↔ result.Reports code := by
  simp only [Checked.Reports, Checked.mem_issues_iff, conclude_eq_error_iff] at hcustom ⊢
  constructor
  · rintro ⟨issue, ⟨found, hfound | ⟨output, -, hfound⟩, hissue⟩, hcode⟩
    · exact ⟨issue, ⟨found, hfound, hissue⟩, hcode⟩
    · exact absurd ⟨issue, ⟨found, hfound, hissue⟩, hcode⟩ (hcustom output)
  · rintro ⟨issue, ⟨found, hfound, hissue⟩, hcode⟩
    exact ⟨issue, ⟨found, .inl hfound, hissue⟩, hcode⟩

/-! ## Constraints on uniqueness -/

namespace ArrayConstraint

/-- What a constraint on uniqueness compares in place of two elements. -/
def key? : ArrayConstraint → Option (Value → Value)
  | unique => some id
  | uniqueBy key => some key
  | _ => none

variable {c : ArrayConstraint} {message : Option String} {outputs : List Value} {value : Value}
  {path : Path}

theorem code_of_mem_lengthIssues {length : Nat} {issue : Issue}
    (h : issue ∈ c.lengthIssues message length value path) : issue.code ≠ "unique" := by
  cases c <;> simp only [lengthIssues] at h
  case unique => cases h
  case uniqueBy => cases h
  all_goals
    split at h
    · cases h
    · rw [List.mem_singleton.1 h]
      exact of_decide_eq_false rfl

theorem code_of_mem_uniquenessIssues {issue : Issue}
    (h : issue ∈ c.uniquenessIssues message outputs value path) : issue.code = "unique" := by
  unfold uniquenessIssues at h
  split at h
  · obtain ⟨indices, -, rfl⟩ := List.mem_map.1 h
    rfl
  · cases h

/-- Something is found if two elements have one text, or two keys have. -/
theorem uniquenessIssues_ne_nil_iff :
    c.uniquenessIssues message outputs value path ≠ [] ↔
      ∃ key, c.key? = some key ∧
        Value.Repeated (fun v w => (key v).text = (key w).text) outputs := by
  have hkeys (key : Value → Value) :
      findDuplicates (outputs.map fun output => (key output).text) ≠ [] ↔
        Value.Repeated (fun v w => (key v).text = (key w).text) outputs := by
    rw [findDuplicates_ne_nil_iff]
    simp [Value.Repeated]
  cases c with
  | unique => simpa [uniquenessIssues, uniqueKeys?, key?] using hkeys id
  | uniqueBy key => simpa [uniquenessIssues, uniqueKeys?, key?] using hkeys key
  | minLength | maxLength | length => simp [uniquenessIssues, uniqueKeys?, key?]

end ArrayConstraint

namespace ArrayRule

variable {r : ArrayRule} {items outputs : List Value} {path : Path}

/-- Two elements have equal keys under one of the constraints on keys. -/
def RepeatsKey (r : ArrayRule) (outputs : List Value) : Prop :=
  ∃ key message, (.uniqueBy key, message) ∈ r.constraints ∧
    Value.Repeated (fun v w => (key v).text = (key w).text) outputs

/-- An array whose elements all pass reports repetitions if one of its constraints
finds some. -/
theorem reports_conclude_iff :
    (r.conclude items path (outputs.map .ok)).Reports "unique" ↔
      ∃ c message key, (c, message) ∈ r.constraints ∧ c.key? = some key ∧
        Value.Repeated (fun v w => (key v).text = (key w).text) outputs := by
  have hissues : (r.conclude items path (outputs.map .ok)).issues =
      r.lengthIssues items.length (.array items) path ++
        r.uniquenessIssues outputs (.array items) path := by
    rw [issues_conclude, Checked.collect_eq_ok_iff.2 rfl]
  unfold Checked.Reports
  rw [hissues]
  constructor
  · rintro ⟨issue, hissue, hcode⟩
    rcases List.mem_append.1 hissue with hissue | hissue
    · obtain ⟨⟨c, message⟩, -, hissue⟩ := List.mem_flatMap.1 hissue
      exact absurd hcode (ArrayConstraint.code_of_mem_lengthIssues hissue)
    · obtain ⟨⟨c, message⟩, hc, hissue⟩ := List.mem_flatMap.1 hissue
      obtain ⟨key, hkey, hrepeated⟩ :=
        ArrayConstraint.uniquenessIssues_ne_nil_iff.1 (List.ne_nil_of_mem hissue)
      exact ⟨c, message, key, hc, hkey, hrepeated⟩
  · rintro ⟨c, message, key, hc, hkey, hrepeated⟩
    have hfound : c.uniquenessIssues message outputs (.array items) path ≠ [] :=
      ArrayConstraint.uniquenessIssues_ne_nil_iff.2 ⟨key, hkey, hrepeated⟩
    obtain ⟨issue, hissue⟩ := List.exists_mem_of_ne_nil _ hfound
    exact ⟨issue, List.mem_append_right _ (List.mem_flatMap.2 ⟨(c, message), hc, hissue⟩),
      ArrayConstraint.code_of_mem_uniquenessIssues hissue⟩

/-- Where the elements are to be different, a repetition is one value at two
positions, or a repetition of keys. -/
theorem reports_conclude_unique_iff {message : Option String}
    (hunique : (.unique, message) ∈ r.constraints)
    (houtputs : ∀ output ∈ outputs, output.WellFormed) :
    (r.conclude items path (outputs.map .ok)).Reports "unique" ↔
      Value.Repeated (· = ·) outputs ∨ r.RepeatsKey outputs := by
  rw [reports_conclude_iff]
  constructor
  · rintro ⟨c, message, key, hc, hkey, hrepeated⟩
    cases c with
    | unique =>
      obtain rfl := Option.some.inj hkey
      exact .inl (hrepeated.mono fun v hv w hw => Value.eq_of_text_eq (houtputs v hv) (houtputs w hw))
    | uniqueBy key' =>
      obtain rfl := Option.some.inj hkey
      exact .inr ⟨_, message, hc, hrepeated⟩
    | minLength | maxLength | length => cases hkey
  · rintro (hrepeated | ⟨key, message', hc, hrepeated⟩)
    · exact ⟨.unique, message, id, hunique, rfl, hrepeated.mono fun v _ w _ => congrArg Value.text⟩
    · exact ⟨.uniqueBy key, message', key, hc, rfl, hrepeated⟩

end ArrayRule

namespace Schema

/-- **Repetitions are reported exactly if one value stands at two positions.** This
is for an array with `unique` whose elements all pass, and beside the repetitions
of keys that other constraints look for. So what is reported is a pair of equal
elements, and among rigid values every such pair is. -/
theorem array_reports_repetitions {item : Schema} {r : ArrayRule} {m : Modifiers (List Value)}
    {message : Option String} {value : Value} {path : Path} {env : Env} {items outputs : List Value}
    (hunique : (.unique, message) ∈ r.constraints)
    (hcustom : ∀ output, ¬ (m.checked output path).Reports "unique")
    (hvalue : m.prepared value = .array items)
    (hitems : (item.validator env).onItems items path = outputs.map .ok)
    (houtputs : ∀ output ∈ outputs, output.WellFormed) :
    (((array item r m).attempt env value path).Reports "unique" ↔
      Value.Repeated (· = ·) outputs ∨ r.RepeatsKey outputs) ∧
    (((array item r m).attempt env value path).Reports "unique" →
      Value.Repeated (fun v w => v.same w = true) outputs ∨ r.RepeatsKey outputs) ∧
    ((∀ output ∈ outputs, output.Rigid) →
      (((array item r m).attempt env value path).Reports "unique" ↔
        Value.Repeated (fun v w => v.same w = true) outputs ∨ r.RepeatsKey outputs)) := by
  have hreports : ((array item r m).attempt env value path).Reports "unique" ↔
      Value.Repeated (· = ·) outputs ∨ r.RepeatsKey outputs := by
    rw [← ArrayRule.reports_conclude_unique_iff hunique houtputs,
      ← Modifiers.reports_conclude_iff hcustom, ← hitems]
    unfold Checked.Reports
    rw [attempt, validator_array, Validator.array, Modifiers.validator, Checked.issues_map,
      Modifiers.present, hvalue]
    rfl
  have hequal : Value.Repeated (· = ·) outputs →
      Value.Repeated (fun v w => v.same w = true) outputs := by
    refine fun h => h.mono ?_
    rintro v hv _ _ rfl
    exact Value.same_self (houtputs v hv)
  refine ⟨hreports, fun h => (hreports.1 h).imp_left hequal, fun hrigid => ?_⟩
  have hone : Value.Repeated (fun v w => v.same w = true) outputs → Value.Repeated (· = ·) outputs :=
    fun h => h.mono fun v hv w hw => (hrigid v hv).eq_of_same (houtputs v hv) (houtputs w hw)
  rw [hreports]
  exact or_congr_left ⟨hequal, hone⟩

/-- An array without repetitions. -/
def distinct (item : Schema) : Schema := array item { constraints := [(.unique, none)] } {}

/-- The second bolt among three parts is reported. -/
theorem distinct_reports_bolt :
    ((text {} {}).validator inMachine).onItems [.string "bolt", .string "nut", .string "bolt"] .root =
        [Value.string "bolt", .string "nut", .string "bolt"].map .ok ∧
      ((distinct (text {} {})).attempt inMachine
        (.array [.string "bolt", .string "nut", .string "bolt"]) .root).Reports "unique" := by
  have hunique : (.unique, none) ∈ ({ constraints := [(.unique, none)] } : ArrayRule).constraints :=
    List.mem_cons_self
  have hcustom (outputs : List Value) :
      ¬ ((({} : Modifiers (List Value)).checked outputs .root).Reports "unique") := by
    rintro ⟨issue, hissue, -⟩
    cases hissue
  have hitems : ((text {} {}).validator inMachine).onItems
      [.string "bolt", .string "nut", .string "bolt"] .root =
        [Value.string "bolt", .string "nut", .string "bolt"].map .ok := rfl
  have houtputs : ∀ output ∈ [Value.string "bolt", .string "nut", .string "bolt"],
      output.WellFormed := by
    simp [Value.WellFormed.string]
  obtain ⟨hreports, -⟩ := array_reports_repetitions hunique hcustom rfl hitems houtputs
  exact ⟨hitems, hreports.2 (.inl ⟨0, 2, by decide, by decide, rfl⟩)⟩

/-- An object with any members, all of which are kept. -/
def anyMembers : Schema := object { unknownKeys := .loose }

/-- Two objects with the same members in another order are equal, and so are two
whose members differ in the sign of a zero. Neither pair is reported. -/
theorem distinct_misses_equal_objects :
    (Value.object [("a", .number (.integer 1)), ("b", .number (.integer 2))]).same
        (.object [("b", .number (.integer 2)), ("a", .number (.integer 1))]) = true ∧
      (distinct anyMembers).attempt inMachine
          (.array [.object [("a", .number (.integer 1)), ("b", .number (.integer 2))],
            .object [("b", .number (.integer 2)), ("a", .number (.integer 1))]]) .root =
        .ok (.array [.object [("a", .number (.integer 1)), ("b", .number (.integer 2))],
            .object [("b", .number (.integer 2)), ("a", .number (.integer 1))]]) ∧
      (Value.object [("a", .number (.double (.finite false 0)))]).same
        (.object [("a", .number (.double (.finite true 0)))]) = true ∧
      (distinct anyMembers).attempt inMachine
          (.array [.object [("a", .number (.double (.finite false 0)))],
            .object [("a", .number (.double (.finite true 0)))]]) .root =
        .ok (.array [.object [("a", .number (.double (.finite false 0)))],
            .object [("a", .number (.double (.finite true 0)))]]) := by
  refine ⟨rfl, ?_, rfl, ?_⟩
  · rfl
  · rfl

end Schema

end Conform
