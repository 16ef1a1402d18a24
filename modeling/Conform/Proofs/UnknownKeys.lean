import Conform.Proofs.Reparse
import Conform.Proofs.Value
/-!
# UnknownKeys — what the mode of an object changes

The declared fields come to the same in every mode. Stripping shows only them:
it fails with their issues and hands out what they come to. Being loose puts the
undeclared members of the input behind that output. Being strict puts one issue
behind those of the fields, if there are undeclared keys.
-/


namespace Conform

namespace ObjectShape

variable {s : ObjectShape Validator} {members output : Members} {path : Path} {name : String}

/-! ## One run -/

/-- What the shape makes of an object in a mode. -/
def run (s : ObjectShape Validator) (mode : UnknownKeys) (members : Members) (path : Path) :
    Checked Value :=
  (s.withMode mode).validator.present (.object members) path

/-- A shape runs in its own mode. -/
theorem present_eq_run (s : ObjectShape Validator) (members : Members) (path : Path) :
    s.validator.present (.object members) path = s.run s.unknownKeys members path := rfl

/-- A run is what a schema makes of an object, where the children are schemas. -/
theorem attempt_object (env : Env) (shape : ObjectShape Schema) (mode : UnknownKeys) :
    (Schema.object (shape.withMode mode)).attempt env (.object members) path =
      (shape.mapChildren (Schema.validator env)).run mode members path := by
  rw [Schema.attempt, Schema.validator_object]
  rfl

/-- The field of the name comes to the result. -/
def FieldGives (s : ObjectShape Validator) (members : Members) (path : Path) (name : String)
    (result : Checked (Option Value)) : Prop :=
  ∃ child, (name, child) ∈ s.fields ∧ child.parse (members.get? name) (path.field name) = result

/-- The issues of the fields, in the order of their declaration. -/
def findings (s : ObjectShape Validator) (members : Members) (path : Path) : List Issue :=
  s.fields.flatMap fun field =>
    (field.2.parse (members.get? field.1) (path.field field.1)).issues

/-- The keys of the input that are not declared, in the order of the input. -/
def undeclared (s : ObjectShape Validator) (members : Members) : List String :=
  members.keys.filter fun key => !s.declares key

/-- The issue about undeclared keys, if there are any. -/
def complaint (s : ObjectShape Validator) (members : Members) (path : Path) : List Issue :=
  if s.undeclared members = [] then [] else [unknownKeysIssue path (s.undeclared members)]

/-- What stripping hands out: the declared keys whose fields have an output, in the order
of their declaration, and among them all declared keys of the input. -/
structure Strips (s : ObjectShape Validator) (members : Members) (path : Path)
    (output : Members) : Prop where
  sublist : output.keys.Sublist s.keys
  mem_iff : ∀ name value, (name, value) ∈ output ↔
    s.FieldGives members path name (.ok (some value))
  covers : ∀ name ∈ s.keys, name ∈ members.keys → name ∈ output.keys

/-! ## The fields -/

theorem mem_fieldResults {result : Checked (Option Value)} :
    (name, result) ∈ s.fieldResults members path ↔ s.FieldGives members path name result := by
  unfold fieldResults FieldGives
  rw [List.mem_map]
  constructor
  · rintro ⟨⟨key, child⟩, hfield, heq⟩
    obtain ⟨rfl, rfl⟩ := Prod.mk.inj heq
    exact ⟨child, hfield, rfl⟩
  · rintro ⟨child, hfield, rfl⟩
    exact ⟨(name, child), hfield, rfl⟩

theorem fieldIssues_fieldResults :
    fieldIssues (s.fieldResults members path) = s.findings members path := by
  rw [fieldIssues_eq_flatMap, fieldResults, List.flatMap_map]
  rfl

theorem keys_unknownMembers : (s.unknownMembers members).keys = s.undeclared members := by
  unfold unknownMembers undeclared Members.keys
  rw [List.filter_map]
  rfl

theorem findings_eq_nil_iff : s.findings members path = [] ↔
    ∀ name found, ¬ s.FieldGives members path name (.error found) := by
  unfold findings FieldGives
  simp only [List.flatMap_eq_nil_iff, Checked.issues_eq_nil_iff]
  constructor
  · rintro h name found ⟨child, hfield, herror⟩
    obtain ⟨result, hresult⟩ := h (name, child) hfield
    rw [herror] at hresult
    cases hresult
  · rintro h ⟨name, child⟩ hfield
    cases hresult : child.parse (members.get? name) (path.field name) with
    | ok result => exact ⟨result, rfl⟩
    | error found => exact absurd ⟨child, hfield, hresult⟩ (h name found)

theorem keys_fieldOutputs_sublist (results : List (String × Checked (Option Value))) :
    (fieldOutputs results).keys.Sublist (results.map Prod.fst) := by
  induction results with
  | nil => exact .slnil
  | cons entry rest ih =>
    obtain ⟨name, result⟩ := entry
    match result with
    | .ok (some value) => exact ih.cons_cons name
    | .ok none => exact ih.cons name
    | .error found => exact ih.cons name

/-- A field never comes to nothing where there is a value. -/
theorem exists_fieldGives_of_mem (h : s.findings members path = []) (hname : name ∈ s.keys)
    (hkey : name ∈ members.keys) :
    ∃ output, s.FieldGives members path name (.ok (some output)) := by
  obtain ⟨⟨key, child⟩, hfield, rfl⟩ := List.mem_map.1 hname
  obtain ⟨value, hvalue⟩ := Members.exists_get?_eq_some hkey
  have hparse : child.parse (members.get? key) (path.field key) =
      (child.present value (path.field key)).map some := by
    rw [hvalue, Validator.parse_some]
  cases hpresent : child.present value (path.field key) with
  | error found =>
    have herror : s.FieldGives members path key (.error found) :=
      ⟨child, hfield, by rw [hparse, hpresent]; rfl⟩
    exact absurd herror (findings_eq_nil_iff.1 h key found)
  | ok output => exact ⟨output, child, hfield, by rw [hparse, hpresent]; rfl⟩

/-- Fields that all pass hand out what stripping does. -/
theorem strips_fieldOutputs (h : s.findings members path = []) :
    s.Strips members path (fieldOutputs (s.fieldResults members path)) where
  sublist := by
    have hsublist := keys_fieldOutputs_sublist (s.fieldResults members path)
    rwa [map_fst_fieldResults] at hsublist
  mem_iff name value := mem_fieldOutputs.trans mem_fieldResults
  covers := by
    intro name hname hmember
    obtain ⟨output, houtput⟩ := exists_fieldGives_of_mem h hname hmember
    exact List.mem_map_of_mem (mem_fieldOutputs.2 (mem_fieldResults.2 houtput))

/-! ## The modes -/

theorem run_eq (hfree : s.modifiers.HookFree) (mode : UnknownKeys) :
    s.run mode members path =
      ((s.withMode mode).conclude members path (s.fieldResults members path)).map .object :=
  (show (s.withMode mode).modifiers.HookFree from hfree).validator_present Value.object

/-- What the mode adds to the issues of the fields. -/
theorem unknownIssues_withMode (mode : UnknownKeys) :
    (s.withMode mode).unknownIssues (s.unknownMembers members) path =
      if mode = .strict then s.complaint members path else [] := by
  unfold unknownIssues complaint
  rw [← keys_unknownMembers]
  cases mode with
  | strict => cases s.unknownMembers members <;> rfl
  | loose => rfl
  | strip => rfl

/-- In every mode the failure is one aggregate. -/
theorem run_eq_error_iff (hfree : s.modifiers.HookFree) {mode : UnknownKeys} {found : Issues} :
    s.run mode members path = .error found ↔
      ∃ sub : Issues, sub.toList =
          s.findings members path ++ (if mode = .strict then s.complaint members path else []) ∧
        found = .single (failure path (.object members) sub) := by
  rw [run_eq hfree, Checked.map_eq_error_iff, conclude_eq_error_iff, fieldIssues_fieldResults,
    ← unknownIssues_withMode]
  rfl

theorem complaint_eq_nil_iff : s.complaint members path = [] ↔ s.undeclared members = [] := by
  unfold complaint
  split
  · rename_i hnone
    exact iff_of_true rfl hnone
  · rename_i hsome
    exact iff_of_false (List.cons_ne_nil _ _) hsome

theorem undeclared_eq_nil_iff :
    s.undeclared members = [] ↔ ∀ key ∈ members.keys, key ∈ s.keys := by
  unfold undeclared declares
  simp

/-- What the mode adds to what the fields hand out. -/
theorem unknownOutput_withMode (mode : UnknownKeys) (unknown : Members) :
    (s.withMode mode).unknownOutput unknown = if mode = .loose then unknown else [] := by
  cases mode <;> rfl

theorem run_eq_ok_iff (hfree : s.modifiers.HookFree) {mode : UnknownKeys} {result : Value} :
    s.run mode members path = .ok result ↔
      s.findings members path = [] ∧ (mode = .strict → s.undeclared members = []) ∧
        result = .object (fieldOutputs (s.fieldResults members path) ++
          (if mode = .loose then s.unknownMembers members else [])) := by
  have hmode : (s.withMode mode).unknownIssues (s.unknownMembers members) path = [] ↔
      (mode = .strict → s.undeclared members = []) := by
    rw [unknownIssues_withMode]
    split
    · rename_i hstrict
      rw [complaint_eq_nil_iff]
      exact ⟨fun h _ => h, fun h => h hstrict⟩
    · rename_i hother
      exact iff_of_true rfl fun hstrict => absurd hstrict hother
  rw [run_eq hfree, Checked.map_eq_ok_iff, ← unknownOutput_withMode, ← hmode,
    ← fieldIssues_fieldResults]
  constructor
  · rintro ⟨output, houtput, rfl⟩
    obtain ⟨hissues, hunknown, rfl⟩ := conclude_eq_ok_iff.1 houtput
    exact ⟨hissues, hunknown, rfl⟩
  · rintro ⟨hissues, hunknown, rfl⟩
    exact ⟨_, conclude_eq_ok_iff.2 ⟨hissues, hunknown, rfl⟩, rfl⟩

/-- A run fails if a field does, or if undeclared keys exist and the mode is strict. -/
theorem exists_run_eq_error_iff (hfree : s.modifiers.HookFree) {mode : UnknownKeys} :
    (∃ found, s.run mode members path = .error found) ↔
      (∃ name found, s.FieldGives members path name (.error found)) ∨
        mode = .strict ∧ ∃ key ∈ members.keys, key ∉ s.keys := by
  have hpasses : (∃ result, s.run mode members path = .ok result) ↔
      (∀ name found, ¬ s.FieldGives members path name (.error found)) ∧
        (mode = .strict → ∀ key ∈ members.keys, key ∈ s.keys) := by
    simp only [run_eq_ok_iff hfree, findings_eq_nil_iff, undeclared_eq_nil_iff, exists_and_left,
      exists_eq, and_true]
  -- a run that does not pass fails
  have hfails : (∃ found, s.run mode members path = .error found) ↔
      ¬ ∃ result, s.run mode members path = .ok result := by
    cases s.run mode members path <;> simp
  rw [hfails, hpasses, Classical.not_and_iff_not_or_not]
  simp only [Classical.not_forall, Classical.not_not, exists_prop]

/-- No output has a key twice. -/
theorem Strips.nodup (h : s.Strips members path output) (hkeys : s.keys.Nodup) :
    output.keys.Nodup := h.sublist.nodup hkeys

theorem Strips.nodup_append (h : s.Strips members path output) (hkeys : s.keys.Nodup)
    (hmembers : members.keys.Nodup) : (output ++ s.unknownMembers members).keys.Nodup := by
  have hsplit : (output ++ s.unknownMembers members).keys = output.keys ++ s.undeclared members := by
    rw [← keys_unknownMembers]
    exact List.map_append
  rw [hsplit, List.nodup_append]
  refine ⟨h.nodup hkeys, hmembers.filter _, ?_⟩
  rintro key hkey other hother rfl
  have hdeclared : key ∈ s.keys := h.sublist.subset hkey
  have hnot := (List.mem_filter.1 hother).2
  simp [declares, hdeclared] at hnot

/-- **The modes of an object differ only in the undeclared keys.** Stripping fails if a
field does, with one aggregate over the issues of the fields. Being loose fails with
the same, and being strict also at undeclared keys, which are listed behind those
issues. If stripping passes it hands out what the fields do, being loose puts the
undeclared members behind that, and being strict hands out the same if it passes. -/
theorem modes_differ_in_undeclared (hfree : s.modifiers.HookFree) (hkeys : s.keys.Nodup)
    (hmembers : members.keys.Nodup) (path : Path) :
    ((∃ found, s.run .strip members path = .error found) ↔
      ∃ name found, s.FieldGives members path name (.error found)) ∧
    (∀ found, s.run .strip members path = .error found ↔
      ∃ sub : Issues, sub.toList = s.findings members path ∧
        found = .single (failure path (.object members) sub)) ∧
    (∀ found, s.run .loose members path = .error found ↔
      s.run .strip members path = .error found) ∧
    ((∃ found, s.run .strict members path = .error found) ↔
      (∃ found, s.run .strip members path = .error found) ∨ ∃ key ∈ members.keys, key ∉ s.keys) ∧
    (∀ found, s.run .strict members path = .error found ↔
      ∃ sub : Issues, sub.toList = s.findings members path ++ s.complaint members path ∧
        found = .single (failure path (.object members) sub)) ∧
    ∀ result, s.run .strip members path = .ok result →
      ∃ output : Members, result = .object output ∧ s.Strips members path output ∧
        output.keys.Nodup ∧
        s.run .loose members path = .ok (.object (output ++ s.unknownMembers members)) ∧
        (Members.keys (output ++ s.unknownMembers members)).Nodup ∧
        ∀ strict, s.run .strict members path = .ok strict ↔
          strict = result ∧ s.undeclared members = [] := by
  have hstrip : (∃ found, s.run .strip members path = .error found) ↔
      ∃ name found, s.FieldGives members path name (.error found) := by
    simp [exists_run_eq_error_iff hfree]
  refine ⟨hstrip, ?_, ?_, ?_, ?_, ?_⟩
  · intro found
    simp [run_eq_error_iff hfree]
  · intro found
    simp [run_eq_error_iff hfree]
  · rw [hstrip, exists_run_eq_error_iff hfree]
    simp
  · intro found
    simp [run_eq_error_iff hfree]
  · intro result hresult
    obtain ⟨hissues, -, rfl⟩ := (run_eq_ok_iff hfree).1 hresult
    -- the outputs of the fields are the same in all modes
    have houtput : s.Strips members path (fieldOutputs (s.fieldResults members path)) :=
      strips_fieldOutputs hissues
    rw [if_neg UnknownKeys.noConfusion, List.append_nil]
    refine ⟨_, rfl, houtput, houtput.nodup hkeys, ?_, houtput.nodup_append hkeys hmembers, ?_⟩
    · rw [run_eq_ok_iff hfree]
      exact ⟨hissues, UnknownKeys.noConfusion, rfl⟩
    · intro strict
      rw [run_eq_ok_iff hfree]
      simp [hissues, and_comm]

/-- A part with a name, and a mark that it need not have. -/
def label : ObjectShape Validator :=
  (field {} "name" ((Schema.text {} {}).validator Schema.inMachine)).field "spare"
    ((Schema.boolean {} { fallback := some false }).validator Schema.inMachine)

/-- The colour of a part is dropped, kept behind its name and mark, or refused. -/
theorem label_in_modes :
    label.modifiers.HookFree ∧ label.keys.Nodup ∧
      (Members.keys [("colour", .string "red"), ("name", .string "axle")]).Nodup ∧
      label.run .strip [("colour", .string "red"), ("name", .string "axle")] .root =
        .ok (.object [("name", .string "axle"), ("spare", .boolean false)]) ∧
      label.run .loose [("colour", .string "red"), ("name", .string "axle")] .root =
        .ok (.object [("name", .string "axle"), ("spare", .boolean false),
          ("colour", .string "red")]) ∧
      ∃ found, label.run .strict [("colour", .string "red"), ("name", .string "axle")] .root =
        .error found := by
  have hfree : label.modifiers.HookFree := ⟨rfl, rfl, rfl⟩
  have hkeys : label.keys.Nodup := by decide
  have hmembers : (Members.keys [("colour", .string "red"), ("name", .string "axle")]).Nodup := by
    decide
  have hstrip : label.run .strip [("colour", .string "red"), ("name", .string "axle")] .root =
      .ok (.object [("name", .string "axle"), ("spare", .boolean false)]) := rfl
  obtain ⟨-, -, -, hstrict, -, hpasses⟩ := modes_differ_in_undeclared hfree hkeys hmembers .root
  obtain ⟨output, houtput, -, -, hloose, -⟩ := hpasses _ hstrip
  obtain rfl := Value.object.inj houtput
  exact ⟨hfree, hkeys, hmembers, hstrip, hloose,
    hstrict.2 (.inr ⟨"colour", by decide, by decide⟩)⟩

end ObjectShape

end Conform
