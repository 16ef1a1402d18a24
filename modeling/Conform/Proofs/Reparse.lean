import Conform.Proofs.Binary64
import Conform.Proofs.Leaf
import Conform.Proofs.Node
/-!
# Reparse — outputs are fixed points

A schema that only checks and converts, without hooks, defaults or
transformations, hands out values that it accepts again and leaves as they
are. `Validator.Stable` is this property; it goes from parts to wholes,
and a lazy node has it because an output is as deep as its input.

Conversions are what has to be looked at: a number may change its form, an
enumeration hands out an option for what it was given, and an object drops
and reorders keys. A second time, they have nothing left to do.
-/


namespace Conform

/-- All numbers in the value have a proper form. -/
inductive Value.Proper : Value → Prop
  | null : Proper .null
  | boolean (b : Bool) : Proper (.boolean b)
  | number {n : Number} : n.Proper → Proper (.number n)
  | string (s : String) : Proper (.string s)
  | array {items : List Value} : (∀ item ∈ items, Proper item) → Proper (.array items)
  | object {members : Members} :
      (∀ key value, (key, value) ∈ members → Proper value) → Proper (.object members)

/-- An output of a step, written as a value, is an output of it again. -/
def StableStep {α : Type} (step : Value → Path → Checked α) (toValue : α → Value) : Prop :=
  ∀ ⦃value path a⦄, value.Proper → step value path = .ok a →
    ∃ b, step (toValue a) path = .ok b ∧ toValue b = toValue a

/-- An output is accepted again and stays the same, and absent input has none. -/
structure Validator.Stable (v : Validator) : Prop where
  absent : ∀ ⦃path output⦄, v.absent path = .ok output → output = none
  present : ∀ ⦃value path output⦄, value.Proper → v.present value path = .ok output →
    v.present output path = .ok output

/-- No hook is set, and no default. -/
structure Modifiers.Plain {α : Type} (m : Modifiers α) : Prop extends m.HookFree where
  fallback : m.fallback = none

theorem Modifiers.Plain.stable {α : Type} {m : Modifiers α} (hm : m.Plain)
    {step : Value → Path → Checked α} {toValue : α → Value} (hstep : StableStep step toValue) :
    (m.validator step toValue).Stable where
  absent := by
    intro path output h
    rw [validator_absent, Checked.map_eq_ok_iff] at h
    obtain ⟨a, ha, rfl⟩ := h
    obtain ⟨rfl, -⟩ := absent_eq_ok_iff.1 ha
    rw [hm.fallback]
    rfl
  present := by
    intro value path output hvalue h
    rw [validator_present, hm.toHookFree.present, Checked.map_eq_ok_iff] at h
    obtain ⟨a, ha, rfl⟩ := h
    obtain ⟨b, hb, hbvalue⟩ := hstep hvalue ha
    rw [validator_present, hm.toHookFree.present, Checked.map_eq_ok_iff]
    exact ⟨b, hb, hbvalue⟩

/-! ## Leaves -/

/-- No transformation is set. -/
structure TextRule.Plain (r : TextRule) : Prop where
  trimmed : r.trimmed = false
  casing : r.casing = none
  front : r.front = none
  back : r.back = none
  replacements : r.replacements = []

theorem TextRule.Plain.transform_eq {r : TextRule} (h : r.Plain) (s : String) :
    r.transform s = s := by
  simp [transform, h.trimmed, h.casing, h.front, h.back, h.replacements]

/-- A string comes out as a string, and the constraints are about that string. -/
theorem TextRule.Plain.stableStep {r : TextRule} (h : r.Plain) (strict : Bool) :
    StableStep (r.check strict) .string := by
  intro value path a _ hcheck
  unfold check at hcheck
  cases hread : r.read strict value path with
  | error found =>
    rw [hread] at hcheck
    cases hcheck
  | ok s =>
    rw [hread] at hcheck
    replace hcheck : r.constraints.verify (r.transform s) _ = .ok a := hcheck
    rw [h.transform_eq] at hcheck
    obtain ⟨-, rfl⟩ := Ranked.verify_eq_ok_iff.1 hcheck
    refine ⟨s, ?_, rfl⟩
    have hagain : r.read strict (.string s) path = .ok s := rfl
    unfold check
    rw [hagain]
    show r.constraints.verify (r.transform s) _ = .ok s
    rw [h.transform_eq]
    exact hcheck

/-- No transformation is set, and a number that may come from a text is required
to be finite. -/
structure NumberRule.Plain (r : NumberRule) (strict : Bool) : Prop where
  rounding : r.rounding = none
  limits : r.limits = none
  finite : strict = true ∨ ∃ message, (NumberConstraint.finite, message) ∈ r.constraints.entries

theorem NumberRule.Plain.transform_eq {r : NumberRule} {strict : Bool} (h : r.Plain strict)
    (n : Binary64) : r.transform n = n := by
  simp [transform, h.rounding, h.limits]

/-- A number is accepted if it is read and meets the constraints. -/
theorem NumberRule.Plain.check_eq_ok_iff {r : NumberRule} {strict : Bool} (h : r.Plain strict)
    {value : Value} {path : Path} {n : Binary64} :
    r.check strict value path = .ok n ↔
      r.read strict value path = .ok n ∧ ∀ entry ∈ r.constraints.entries, entry.1.holds n = true := by
  unfold check
  cases hread : r.read strict value path with
  | error found => simp [bind, Except.bind]
  | ok m =>
    show r.constraints.verify (r.transform m) _ = .ok n ↔ _
    rw [h.transform_eq, Ranked.verify_eq_ok_iff]
    simp only [NumberConstraint.issue?_eq_none_iff, Except.ok.injEq]
    constructor
    · rintro ⟨hholds, rfl⟩
      exact ⟨rfl, hholds⟩
    · rintro ⟨rfl, hholds⟩
      exact ⟨hholds, rfl⟩

theorem NumberRule.read_number_eq_ok_iff {r : NumberRule} {strict : Bool} {m : Number}
    {path : Path} {n : Binary64} :
    r.read strict (.number m) path = .ok n ↔
      m.toBinary64.isNaN = false ∧ m.toBinary64 = n := by
  show (if m.toBinary64.isNaN then _ else _) = _ ↔ _
  cases hnan : m.toBinary64.isNaN <;> simp [read.mismatch]

/-- What a strict rule reads is the number in the input. -/
theorem NumberRule.isFinite_of_read {r : NumberRule} {value : Value} {path : Path} {n : Binary64}
    (hvalue : value.Proper) (h : r.read true value path = .ok n) : n.isFinite = true := by
  cases hvalue with
  | number hproper =>
    rw [← (read_number_eq_ok_iff.1 h).2]
    exact hproper.isFinite
  | _ => cases h

/-- A number is read back from its value up to the sign of zero, which is not
seen. -/
theorem NumberRule.Plain.stableStep {r : NumberRule} {strict : Bool} (h : r.Plain strict) :
    StableStep (r.check strict) Binary64.toValue := by
  intro value path n hvalue hcheck
  obtain ⟨hread, hholds⟩ := h.check_eq_ok_iff.1 hcheck
  -- an infinite number would be written as null and refused
  have hfinite : n.isFinite = true := by
    rcases h.finite with rfl | ⟨message, hentry⟩
    · exact isFinite_of_read hvalue hread
    · exact hholds _ hentry
  obtain ⟨m, hm, halike⟩ := Binary64.exists_number_of_isFinite hfinite
  refine ⟨m.toBinary64, ?_, halike.toValue_eq⟩
  rw [hm, h.check_eq_ok_iff]
  have hagain : m.toBinary64.isNaN = false :=
    Binary64.isNaN_of_isFinite (halike.isFinite_eq.trans hfinite)
  refine ⟨read_number_eq_ok_iff.2 ⟨hagain, rfl⟩, fun entry hentry => ?_⟩
  rw [halike.holds_eq]
  exact hholds entry hentry

theorem BooleanRule.stableStep (r : BooleanRule) (strict : Bool) :
    StableStep (r.check strict) .boolean := by
  intro value path b _ hcheck
  refine ⟨b, ?_, rfl⟩
  unfold check at hcheck ⊢
  cases hread : read? strict value with
  | none =>
    rw [hread] at hcheck
    cases hcheck
  | some found =>
    rw [hread] at hcheck
    have hagain : read? strict (.boolean b) = some b := rfl
    rw [hagain]
    cases hwanted : r.wanted with
    | none => rfl
    | some wanted =>
      rw [hwanted] at hcheck
      dsimp only at hcheck ⊢
      split at hcheck
      · rename_i heq
        obtain rfl := Except.ok.inj hcheck
        rw [if_pos heq]
      · cases hcheck

namespace EnumerationRule

/-- An option that stands for a candidate and is a number makes the candidate
an equal number. -/
theorem sameMember_number {m : Number} {candidate : Value}
    (h : sameMember (.number m) candidate = true) (option : Value) :
    sameMember option (.number m) = sameMember option candidate := by
  cases candidate with
  | number k =>
    cases option with
    | number n => exact Binary64.same_congr h n.toBinary64
    | _ => simp [sameMember, Value.same]
  | _ => simp [sameMember, Value.same] at h

theorem sameMember_string {s : String} {candidate : Value}
    (h : sameMember (.string s) candidate = true) : candidate = .string s := by
  cases candidate with
  | string t =>
    have hst : s = t := by simpa [sameMember, Value.same] using h
    rw [hst]
  | _ => simp [sameMember, Value.same] at h

theorem exists_number_of_numberOf? {s : String} {value : Value} (h : numberOf? s = some value) :
    ∃ n, value = .number n := by
  unfold numberOf? at h
  split at h
  · split at h
    · split at h
      · exact ⟨_, (Option.some.inj h).symm⟩
      · cases h
    · cases h
  · cases h

/-- A string that is looked for as it stands is looked for so again. -/
theorem candidate_of_eq_string {strict : Bool} {value : Value} {s : String}
    (h : candidate strict value = .string s) : candidate strict (.string s) = .string s := by
  cases strict with
  | true => rfl
  | false =>
    cases value with
    | string t =>
      replace h : (numberOf? t).getD (.string t) = .string s := h
      cases hnumber : numberOf? t with
      | none =>
        rw [hnumber] at h
        obtain rfl : t = s := by simpa using h
        show (numberOf? t).getD (.string t) = .string t
        rw [hnumber]
        rfl
      | some number =>
        obtain ⟨n, rfl⟩ := exists_number_of_numberOf? hnumber
        rw [hnumber] at h
        cases h
    | _ => cases h

/-- The first option for an input is the first option for itself. -/
theorem stableStep {r : EnumerationRule} (hoptions : ∀ option ∈ r.options, isOption option = true)
    (strict : Bool) : StableStep (r.check strict) id := by
  intro value path found _ hcheck
  refine ⟨found, ?_, rfl⟩
  have hfind : r.find? (candidate strict value) = some found := by
    unfold check at hcheck
    cases hfind : r.find? (candidate strict value) with
    | none =>
      rw [hfind] at hcheck
      cases hcheck
    | some option =>
      rw [hfind] at hcheck
      rw [Except.ok.inj hcheck]
  -- what was looked for equals the option found, so both match the same options
  have hsame : sameMember found (candidate strict value) = true := by
    have hsome := List.find?_some hfind
    exact hsome
  have hagain : r.find? (candidate strict found) = some found := by
    cases found with
    | number m =>
      have hcongr := funext fun option => sameMember_number hsame option
      show r.options.find? (fun option => sameMember option (.number m)) = some (.number m)
      rw [hcongr]
      exact hfind
    | string s =>
      have hcandidate := sameMember_string hsame
      rw [candidate_of_eq_string hcandidate, ← hcandidate, hfind, hcandidate]
    | _ => cases hoptions _ (List.mem_of_find?_eq_some hfind)
  unfold check
  rw [show candidate strict (id found) = candidate strict found from rfl, hagain]

end EnumerationRule

/-! ## Composites -/

theorem ArrayRule.lengthIssues_eq_nil_iff {r : ArrayRule} {length : Nat} {value value' : Value}
    {path : Path} :
    r.lengthIssues length value path = [] ↔ r.lengthIssues length value' path = [] := by
  unfold lengthIssues
  rw [List.flatMap_eq_nil_iff, List.flatMap_eq_nil_iff]
  refine forall₂_congr fun (constraint, message) _ => ?_
  cases constraint <;> simp only [ArrayConstraint.lengthIssues] <;> split <;> simp

theorem ArrayRule.uniquenessIssues_eq_nil_iff {r : ArrayRule} {outputs : List Value}
    {value value' : Value} {path : Path} :
    r.uniquenessIssues outputs value path = [] ↔ r.uniquenessIssues outputs value' path = [] := by
  unfold uniquenessIssues
  rw [List.flatMap_eq_nil_iff, List.flatMap_eq_nil_iff]
  refine forall₂_congr fun (constraint, message) _ => ?_
  dsimp only [ArrayConstraint.uniquenessIssues]
  split
  · rw [List.map_eq_nil_iff, List.map_eq_nil_iff]
  · rfl

/-- Elements that all pass, pass again one by one. -/
theorem Validator.Stable.onItems {item : Validator} (h : item.Stable) {items outputs : List Value}
    {path : Path} (hitems : ∀ x ∈ items, x.Proper)
    (hpass : item.onItems items path = outputs.map .ok) :
    item.onItems outputs path = outputs.map .ok := by
  obtain ⟨hlength, hpresent⟩ := onItems_eq_map_ok_iff.1 hpass
  refine onItems_eq_map_ok_iff.2 ⟨rfl, fun i hi hi' => ?_⟩
  have hitem : i < items.length := by omega
  exact h.present (hitems _ (List.getElem_mem hitem)) (hpresent i hitem hi)

theorem ArrayRule.stableStep {r : ArrayRule} (hdedupe : r.dedupe = false) {item : Validator}
    (hitem : item.Stable) : StableStep (r.check item) .array := by
  intro value path outputs hvalue hcheck
  refine ⟨outputs, ?_, rfl⟩
  cases hvalue with
  | @array items hitems =>
    obtain ⟨parsed, hresults, hlength, hunique, houtput⟩ := conclude_eq_ok_iff.1 hcheck
    obtain rfl : parsed = outputs := by simpa [outputOf, hdedupe] using houtput
    have hsame : items.length = parsed.length :=
      (Validator.onItems_eq_map_ok_iff.1 hresults).1
    rw [hsame] at hlength
    exact conclude_eq_ok_iff.2 ⟨parsed, hitem.onItems hitems hresults,
      lengthIssues_eq_nil_iff.1 hlength, uniquenessIssues_eq_nil_iff.1 hunique, houtput⟩
  | _ => cases hcheck

theorem Tuple.stableStep (kind : TupleKind) {children : List Validator}
    (hchildren : ∀ child ∈ children, child.Stable) : StableStep (check kind children) .array := by
  intro value path outputs hvalue hcheck
  refine ⟨outputs, ?_, rfl⟩
  obtain ⟨items, rfl, hlength, houtputs, hpresent⟩ := check_eq_ok_iff.1 hcheck
  cases hvalue with
  | array hitems =>
    refine check_eq_ok_iff.2 ⟨outputs, rfl, houtputs.symm, houtputs, ?_⟩
    intro i hchild houtput houtput'
    have hitem : i < items.length := by omega
    exact (hchildren _ (List.getElem_mem hchild)).present (hitems _ (List.getElem_mem hitem))
      (hpresent i hchild hitem houtput)

namespace ObjectShape

variable {results : List (String × Checked (Option Value))} {name : String}

theorem mem_fieldOutputs {output : Value} :
    (name, output) ∈ fieldOutputs results ↔ (name, .ok (some output)) ∈ results := by
  unfold fieldOutputs
  rw [List.mem_filterMap]
  constructor
  · rintro ⟨⟨key, result⟩, hmem, heq⟩
    dsimp only at heq
    split at heq
    · obtain ⟨rfl, rfl⟩ := Prod.mk.inj (Option.some.inj heq)
      exact hmem
    · cases heq
  · intro hmem
    exact ⟨_, hmem, rfl⟩

/-- The output has under the name of a field what the field came to. -/
theorem get?_fieldOutputs (hkeys : (results.map Prod.fst).Nodup)
    {result : Checked (Option Value)} (hmem : (name, result) ∈ results) :
    Members.get? (fieldOutputs results) name = result.output?.join := by
  induction results with
  | nil => cases hmem
  | cons entry rest ih =>
    obtain ⟨key, first⟩ := entry
    obtain ⟨hkey, hrest⟩ := List.nodup_cons.1 hkeys
    rcases List.mem_cons.1 hmem with heq | hlater
    · obtain ⟨rfl, rfl⟩ := Prod.mk.inj heq
      have hnone : Members.get? (fieldOutputs rest) name = none := by
        refine List.lookup_eq_none_iff.2 fun (other, output) hother => ?_
        have hin : other ∈ rest.map Prod.fst := List.mem_map_of_mem (mem_fieldOutputs.1 hother)
        rw [bne_iff_ne]
        rintro rfl
        exact hkey hin
      cases result with
      | error found => exact hnone
      | ok output =>
        cases output with
        | none => exact hnone
        | some output => exact List.lookup_cons_self
    · have hin : name ∈ rest.map Prod.fst := List.mem_map_of_mem hlater
      have hne : (name == key) = false := by
        rw [beq_eq_false_iff_ne]
        rintro rfl
        exact hkey hin
      have hget := ih hrest hlater
      cases first with
      | error found => exact hget
      | ok output =>
        cases output with
        | none => exact hget
        | some output => exact (List.lookup_cons.trans (by rw [hne]; rfl)).trans hget

/-- What is added to the output is undeclared, and is added again. -/
theorem unknownMembers_unknownOutput {σ : Type} (s : ObjectShape σ) (members : Members) :
    s.unknownMembers (s.unknownOutput (s.unknownMembers members)) =
      s.unknownOutput (s.unknownMembers members) := by
  unfold unknownOutput unknownMembers
  cases s.unknownKeys <;> simp [List.filter_filter]

theorem unknownOutput_unknownOutput {σ : Type} (s : ObjectShape σ) (unknown : Members) :
    s.unknownOutput (s.unknownOutput unknown) = s.unknownOutput unknown := by
  unfold unknownOutput
  cases s.unknownKeys <;> rfl

theorem unknownIssues_unknownOutput {σ : Type} (s : ObjectShape σ) (unknown : Members)
    (path : Path) : s.unknownIssues (s.unknownOutput unknown) path = [] := by
  unfold unknownIssues unknownOutput
  cases s.unknownKeys <;> cases unknown <;> rfl

/-- A field of an output comes to what it came to before. -/
theorem parse_get?_output {child : Validator} (hchild : child.Stable) {members : Members}
    (hmembers : ∀ key value, (key, value) ∈ members → value.Proper) {path : Path}
    {output : Option Value} (h : child.parse (Members.get? members name) path = .ok output) :
    child.parse output path = .ok output := by
  cases hmember : Members.get? members name with
  | none =>
    rw [hmember, Validator.parse_none] at h
    obtain rfl := hchild.absent h
    exact h
  | some value =>
    rw [hmember, Validator.parse_some, Checked.map_eq_ok_iff] at h
    obtain ⟨accepted, hpresent, rfl⟩ := h
    have hvalue : value.Proper := by
      obtain ⟨before, after, rfl, -⟩ := List.lookup_eq_some_iff.1 hmember
      exact hmembers name value (by simp)
    rw [Validator.parse_some, hchild.present hvalue hpresent]
    rfl

variable {s : ObjectShape Validator} {members : Members} {path : Path}

theorem map_fst_fieldResults : (s.fieldResults members path).map Prod.fst = s.keys := by
  rw [fieldResults, keys, List.map_map]
  rfl

/-- The output of an object has under the name of a field what the field came
to, since nothing undeclared has that name. -/
theorem get?_output (hkeys : s.keys.Nodup) {child : Validator} (hfield : (name, child) ∈ s.fields)
    {output : Option Value}
    (h : child.parse (Members.get? members name) (path.field name) = .ok output) :
    Members.get? (fieldOutputs (s.fieldResults members path) ++
      s.unknownOutput (s.unknownMembers members)) name = output := by
  have hmem : (name, .ok output) ∈ s.fieldResults members path := by
    rw [← h]
    exact List.mem_map_of_mem hfield
  have hdeclared : Members.get? (fieldOutputs (s.fieldResults members path)) name = output :=
    get?_fieldOutputs (by rwa [map_fst_fieldResults]) hmem
  have hundeclared : Members.get? (s.unknownOutput (s.unknownMembers members)) name = none := by
    refine List.lookup_eq_none_iff.2 fun (other, value) hother => ?_
    rw [← unknownMembers_unknownOutput] at hother
    have hother := (List.mem_filter.1 hother).2
    rw [bne_iff_ne]
    rintro rfl
    have hname : s.declares name = true := by
      simpa [declares, keys] using ⟨child, hfield⟩
    rw [hname] at hother
    cases hother
  unfold Members.get? at *
  rw [List.lookup_append, hdeclared, hundeclared, Option.or_none]

theorem unknownMembers_output :
    s.unknownMembers (fieldOutputs (s.fieldResults members path) ++
      s.unknownOutput (s.unknownMembers members)) = s.unknownOutput (s.unknownMembers members) := by
  have hdeclared : s.unknownMembers (fieldOutputs (s.fieldResults members path)) = [] := by
    refine List.filter_eq_nil_iff.2 fun (name, output) hmem => ?_
    have hname : name ∈ (s.fieldResults members path).map Prod.fst :=
      List.mem_map_of_mem (mem_fieldOutputs.1 hmem)
    rw [map_fst_fieldResults] at hname
    simp [declares, hname]
  calc s.unknownMembers (fieldOutputs (s.fieldResults members path) ++ _)
      = s.unknownMembers (fieldOutputs (s.fieldResults members path)) ++ s.unknownMembers _ :=
        List.filter_append ..
    _ = s.unknownOutput (s.unknownMembers members) := by
        rw [hdeclared, unknownMembers_unknownOutput, List.nil_append]

theorem stableStep (hkeys : s.keys.Nodup)
    (hfields : ∀ name child, (name, child) ∈ s.fields → child.Stable) :
    StableStep s.check .object := by
  intro value path output hvalue hcheck
  refine ⟨output, ?_, rfl⟩
  cases hvalue with
  | @object members hmembers =>
    obtain ⟨hissues, hunknown, houtput⟩ := conclude_eq_ok_iff.1 hcheck
    -- field by field nothing changes, so nothing has to be said of the aggregate
    have hresults : s.fieldResults output path = s.fieldResults members path := by
      refine List.map_congr_left fun (name, child) hfield => ?_
      have hpass : (child.parse (Members.get? members name) (path.field name)).issues = [] := by
        rw [fieldIssues_eq_flatMap, List.flatMap_eq_nil_iff] at hissues
        exact hissues _ (List.mem_map_of_mem hfield)
      obtain ⟨result, hresult⟩ := Checked.issues_eq_nil_iff.1 hpass
      have hagain := parse_get?_output (hfields name child hfield) hmembers hresult
      have hget : Members.get? output name = result := by
        rw [← houtput]
        exact get?_output hkeys hfield hresult
      show (name, child.parse (Members.get? output name) _) = (name, child.parse _ _)
      rw [hget, hagain, hresult]
    have hrest : s.unknownMembers output = s.unknownOutput (s.unknownMembers members) := by
      rw [← houtput]
      exact unknownMembers_output
    refine conclude_eq_ok_iff.2 ⟨?_, ?_, ?_⟩
    · rw [hresults, hissues]
    · rw [hrest, unknownIssues_unknownOutput]
    · rw [hresults, hrest, unknownOutput_unknownOutput, houtput]
  | _ => cases hcheck

end ObjectShape

/-! ## Schemas -/

/-- The node checks and converts, and does no more: it has no hooks, no default
and no transformations, and it is no date. A union has no alternatives, so
it stands for a name without a definition. -/
def Schema.IsPlain : Schema → Prop
  | text rule modifiers => modifiers.Plain ∧ rule.Plain
  | number rule modifiers => modifiers.Plain ∧ rule.Plain modifiers.strict
  | boolean _ modifiers => modifiers.Plain
  | date _ _ => False
  | enumeration _ modifiers => modifiers.Plain
  | object shape => shape.modifiers.Plain
  | array _ rule modifiers => modifiers.Plain ∧ rule.dedupe = false
  | tuple _ _ modifiers => modifiers.Plain
  | union alternatives modifiers => modifiers.Plain ∧ alternatives = []
  | optional _ modifiers => modifiers.Plain
  | lazy _ _ modifiers => modifiers.Plain

/-- A node as building makes it that does no more than check and convert. -/
def Schema.IsStable (s : Schema) : Prop := s.IsPlain ∧ s.IsBuilt

theorem Validator.Stable.stableStep {v : Validator} (h : v.Stable) : StableStep v.present id :=
  fun _ _ output hvalue hpresent => ⟨output, h.present hvalue hpresent, rfl⟩

/-- A wrapper is as stable as what it is around. -/
theorem Validator.Stable.optional {inner : Validator} (h : inner.Stable)
    {modifiers : Modifiers Value} (hm : modifiers.Plain) :
    (Validator.optional modifiers inner).Stable where
  absent := by
    intro path output habsent
    simp only [Validator.optional, hm.fallback] at habsent
    obtain rfl := Except.ok.inj habsent
    cases hinner : inner.absent path with
    | ok output => exact h.absent hinner
    | error found => rfl
  present := (hm.stable h.stableStep).present

namespace Family

variable {family : Family} {today : Int} {s : Schema}

/-- **Outputs are fixed points.** Inside any number of lazy nodes, a schema that
only checks and converts accepts its outputs again and leaves them as they
are. -/
theorem stable (hfamily : ∀ target, (family target).Every Schema.IsStable) (scope : Scope)
    (hs : s.Every Schema.IsStable) : (s.validator (family.env today scope)).Stable := by
  refine induction (motive := fun scope s => (s.validator (family.env today scope)).Stable)
    hfamily ?_ scope hs
  intro scope s hs resolved
  induction hs with
  | text h => exact h.1.1.stable (h.1.2.stableStep _)
  | number h => exact h.1.1.stable h.1.2.stableStep
  | boolean h => exact Modifiers.Plain.stable h.1 (BooleanRule.stableStep ..)
  | date h => exact h.1.elim
  | enumeration h => exact Modifiers.Plain.stable h.1 (EnumerationRule.stableStep h.2 _)
  | @object shape h _ ih =>
    rw [Schema.validator_object]
    have hkeys : (shape.mapChildren (Schema.validator (family.env today scope))).keys.Nodup := by
      rw [ObjectShape.keys_mapChildren]
      exact h.2
    exact Modifiers.Plain.stable h.1
      (ObjectShape.stableStep hkeys (ObjectShape.forall_fields_mapChildren ih))
  | array h _ ih => exact h.1.1.stable (ArrayRule.stableStep h.1.2 ih)
  | tuple h _ ih =>
    rw [Schema.validator_tuple]
    exact Modifiers.Plain.stable h.1 (Tuple.stableStep _ (List.forall_mem_map.2 ih))
  | @union alternatives modifiers h =>
    obtain ⟨⟨hm, rfl⟩, -⟩ := h
    exact hm.stable fun value path output _ hcheck => by cases hcheck
  | optional h _ ih => exact ih.optional h.1
  | @lazy target limit modifiers h =>
    refine Modifiers.Plain.stable h.1 ?_
    by_cases hdepth : scope.depth < scope.limitAt limit
    · show StableStep (family.resolve today scope target limit) id
      rw [resolve_of_lt hdepth]
      exact (resolved target limit hdepth).stableStep
    · intro value path output _ hresolve
      rw [show (family.env today scope).resolve target limit value path = _ from
        resolve_of_not_lt hdepth value path] at hresolve
      cases hresolve

/-- **Parsing an output again changes nothing.** What a schema without hooks,
defaults, transformations, unions and dates makes of a value, it accepts,
and it makes the same of it: the same keys in the same order, and numbers
in the same form. -/
theorem parseValue_output (hfamily : ∀ target, (family target).Every Schema.IsStable)
    (hs : s.Every Schema.IsStable) {value : Value} (hvalue : value.Proper)
    {result : Option Value} (h : (family.validator today s).parseValue value = .ok result) :
    ∃ output, result = some output ∧
      (family.validator today s).parseValue output = .ok (some output) := by
  rw [Validator.parseValue, Validator.parse_some, Checked.map_eq_ok_iff] at h
  obtain ⟨output, hpresent, rfl⟩ := h
  refine ⟨output, rfl, ?_⟩
  rw [Validator.parseValue, Validator.parse_some]
  have hagain := (stable hfamily .outside hs).present hvalue hpresent
  rw [show (family.validator today s).present output .root = .ok output from hagain]
  rfl

/-- A robot with one arm, both of the same mass. -/
def robot (mass : Value) : Value := .object
  [("name", .string "robot"), ("mass", mass),
    ("parts", .array [.object [("name", .string "arm"), ("mass", mass)]])]

theorem proper_robot {mass : Value} (hmass : mass.Proper) : (robot mass).Proper := by
  refine .object fun key value hmem => ?_
  simp only [List.mem_cons, Prod.mk.injEq, List.not_mem_nil, or_false] at hmem
  rcases hmem with ⟨-, rfl⟩ | ⟨-, rfl⟩ | ⟨-, rfl⟩
  · exact .string _
  · exact hmass
  · refine .array fun item hitem => ?_
    rw [List.mem_singleton.1 hitem]
    refine .object fun key value hmem => ?_
    simp only [List.mem_cons, Prod.mk.injEq, List.not_mem_nil, or_false] at hmem
    rcases hmem with ⟨-, rfl⟩ | ⟨-, rfl⟩
    · exact .string _
    · exact hmass

/-- Masses of negative zero come out as the integer zero, and then stay so. -/
theorem parseValue_robot :
    (∀ target, (machines {} target).Every Schema.IsStable) ∧ (Schema.part {}).Every Schema.IsStable ∧
      (robot (.number (.double (.finite true 0)))).Proper ∧
      ((machines {}).validator 0 (Schema.part {})).parseValue
          (robot (.number (.double (.finite true 0)))) =
        .ok (some (robot (.number (.integer 0)))) ∧
      ((machines {}).validator 0 (Schema.part {})).parseValue (robot (.number (.integer 0))) =
        .ok (some (robot (.number (.integer 0)))) := by
  have hplain {α : Type} (m : Modifiers α) (hprepare : m.prepare = none) (hcustom : m.custom = none)
      (hfinish : m.finish = none) (hfallback : m.fallback = none) : m.Plain :=
    ⟨⟨hprepare, hcustom, hfinish⟩, hfallback⟩
  have hpart : (Schema.part {}).Every Schema.IsStable := by
    apply Schema.every_part
    · have hkeys : ["name", "mass", "parts"].Nodup := by decide
      exact ⟨hplain _ rfl rfl rfl rfl, hkeys⟩
    · exact ⟨⟨hplain _ rfl rfl rfl rfl, rfl, rfl, rfl, rfl, rfl⟩, trivial⟩
    · exact ⟨⟨hplain _ rfl rfl rfl rfl, rfl, rfl, .inr ⟨none, List.mem_singleton.2 rfl⟩⟩, trivial⟩
    · exact ⟨hplain _ rfl rfl rfl rfl, trivial⟩
    · exact ⟨⟨hplain _ rfl rfl rfl rfl, rfl⟩, trivial⟩
    · exact ⟨hplain _ rfl rfl rfl rfl, trivial⟩
  have hfamily : ∀ target, (machines {} target).Every Schema.IsStable := fun _ => hpart
  have hproper : (robot (.number (.double (.finite true 0)))).Proper :=
    proper_robot (.number rfl)
  have hparse : ((machines {}).validator 0 (Schema.part {})).parseValue
      (robot (.number (.double (.finite true 0)))) = .ok (some (robot (.number (.integer 0)))) := by
    rw [← Binary64.toValue_zero true, validator, env_eq]
    rfl
  obtain ⟨output, houtput, hagain⟩ := parseValue_output hfamily hpart hproper hparse
  obtain rfl := Option.some.inj houtput
  exact ⟨hfamily, hpart, hproper, hparse, hagain⟩

end Family

end Conform
