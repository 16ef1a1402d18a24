import Conform.Proofs.Duplicates
import Conform.Proofs.Keyed
import Conform.Proofs.UnknownKeys
/-!
# Splitting — some fields of an object, and the others

Picking fields and leaving the same fields out gives two shapes that share the
fields of a shape between them. A shape that drops what it does not declare
parses an object as these two do side by side: a field sees the same value in
each, and what is declared in one is dropped by the other.
-/


namespace Conform

namespace ObjectShape

/-! ## Picking -/

section

variable {σ : Type} {s : ObjectShape σ} {names : List String}

/-- The shape with the named fields, in the order of the names. -/
def only (s : ObjectShape σ) (names : List String) : ObjectShape σ :=
  fresh (Keyed.only s.fields names) s.unknownKeys

/-- Setting a child that is there already changes nothing. -/
theorem putField_of_lookup_eq_some {fields : List (String × σ)} {name : String} {child : σ}
    (h : fields.lookup name = some child) : putField fields name child = fields := by
  induction fields with
  | nil => cases h
  | cons field rest ih =>
    obtain ⟨key, old⟩ := field
    by_cases hkey : key = name
    · subst hkey
      rw [List.lookup_cons_self] at h
      obtain rfl := Option.some.inj h
      simp [putField]
    · rw [Keyed.lookup_cons_of_ne (Ne.symm hkey)] at h
      rw [putField, if_neg hkey, ih h]

/-- A child of a new name is put at the end. -/
theorem putField_of_lookup_eq_none {fields : List (String × σ)} {name : String} {child : σ}
    (h : fields.lookup name = none) : putField fields name child = fields ++ [(name, child)] := by
  induction fields with
  | nil => rfl
  | cons field rest ih =>
    obtain ⟨key, old⟩ := field
    have hkey : ¬ key = name := by
      rintro rfl
      rw [List.lookup_cons_self] at h
      cases h
    rw [Keyed.lookup_cons_of_ne (Ne.symm hkey)] at h
    rw [putField, if_neg hkey, ih h]
    rfl

/-- Picking one more field adds it behind those that are picked, unless it is one of them. -/
theorem putField_only {before : List String} (hbefore : ∀ name ∈ before, name ∈ s.keys)
    {name : String} {child : σ} (h : s.child? name = some child) :
    putField (Keyed.only s.fields before.eraseDups) name child =
      Keyed.only s.fields (before ++ [name]).eraseDups := by
  have hkeys : (Keyed.only s.fields before.eraseDups).map Prod.fst = before.eraseDups :=
    Keyed.map_fst_only fun other hother => hbefore other (List.mem_eraseDups.1 hother)
  have hone : Keyed.only s.fields [name] = [(name, child)] := by
    rw [Keyed.only, List.filterMap_cons, show s.fields.lookup name = some child from h]
    rfl
  rw [eraseDups_concat]
  split
  · -- a name that came before has its child already
    rename_i hold
    have hnodup : ((Keyed.only s.fields before.eraseDups).map Prod.fst).Nodup := by
      rw [hkeys]
      exact nodup_eraseDups before
    have hmem : (name, child) ∈ Keyed.only s.fields before.eraseDups :=
      Keyed.mem_only.2 ⟨List.mem_eraseDups.2 hold, h⟩
    exact putField_of_lookup_eq_some ((Keyed.lookup_eq_some_iff hnodup).2 hmem)
  · rename_i hnew
    have hnone : (Keyed.only s.fields before.eraseDups).lookup name = none := by
      rw [Keyed.lookup_eq_none_iff, hkeys, List.mem_eraseDups]
      exact hnew
    rw [putField_of_lookup_eq_none hnone, Keyed.only_append, hone]

/-- The fields that are picked so far are those of the names so far. -/
theorem pick_go_eq_ok (before : List String) {rest : List String}
    (hnames : ∀ name ∈ before ++ rest, name ∈ s.keys) :
    pick.go s (Keyed.only s.fields before.eraseDups) rest =
      .ok (s.only (before ++ rest).eraseDups) := by
  -- induction on the names to come; of those before, only what they pick matters
  induction rest generalizing before with
  | nil =>
    rw [List.append_nil]
    rfl
  | cons name rest ih =>
    obtain ⟨child, hchild⟩ : ∃ child, s.child? name = some child :=
      Keyed.exists_lookup_eq_some (hnames name (by simp))
    have hbefore : ∀ other ∈ before, other ∈ s.keys := by
      intro other hother
      exact hnames other (List.mem_append_left _ hother)
    have hnext : ∀ other ∈ (before ++ [name]) ++ rest, other ∈ s.keys := by
      simpa using hnames
    rw [pick.go, hchild]
    dsimp only
    rw [putField_only hbefore hchild, ih (before ++ [name]) hnext, List.append_assoc]
    rfl

/-- **Picking declared fields gives them in the order in which they are first named.** -/
theorem pick_eq_ok (hnames : ∀ name ∈ names, name ∈ s.keys) :
    s.pick names = .ok (s.only names.eraseDups) := pick_go_eq_ok [] hnames

theorem without_eraseDups (s : ObjectShape σ) (names : List String) :
    s.without names.eraseDups = s.without names :=
  congrArg (fun fields => fresh fields s.unknownKeys) (Keyed.without_eraseDups s.fields names)

end

variable {s : ObjectShape Validator} {members : Members} {path : Path} {name : String}
variable {names : List String}

/-! ## The fields of the two shapes -/

theorem fieldGives_only (hkeys : s.keys.Nodup) {result : Checked (Option Value)} :
    (s.only names).FieldGives members path name result ↔
      name ∈ names ∧ s.FieldGives members path name result := by
  constructor
  · rintro ⟨child, hfield, hparse⟩
    obtain ⟨hname, hchild⟩ := Keyed.mem_only.1 hfield
    exact ⟨hname, child, Keyed.mem_of_lookup_eq_some hchild, hparse⟩
  · rintro ⟨hname, child, hfield, hparse⟩
    exact ⟨child, Keyed.mem_only.2 ⟨hname, (Keyed.lookup_eq_some_iff hkeys).2 hfield⟩, hparse⟩

theorem fieldGives_without {result : Checked (Option Value)} :
    (s.without names).FieldGives members path name result ↔
      name ∉ names ∧ s.FieldGives members path name result := by
  constructor
  · rintro ⟨child, hfield, hparse⟩
    obtain ⟨hmem, hname⟩ := Keyed.mem_without.1 hfield
    exact ⟨hname, child, hmem, hparse⟩
  · rintro ⟨hname, child, hfield, hparse⟩
    exact ⟨child, Keyed.mem_without.2 ⟨hfield, hname⟩, hparse⟩

/-- All fields pass if the named ones do and the others do. -/
theorem findings_eq_nil_iff_split (hkeys : s.keys.Nodup) (names : List String) :
    s.findings members path = [] ↔
      (s.only names).findings members path = [] ∧ (s.without names).findings members path = [] := by
  simp only [findings_eq_nil_iff, fieldGives_only hkeys, fieldGives_without]
  constructor
  · intro h
    exact ⟨fun name found hgives => h name found hgives.2,
      fun name found hgives => h name found hgives.2⟩
  · rintro ⟨hnamed, hothers⟩ name found hgives
    by_cases hname : name ∈ names
    · exact hnamed name found ⟨hname, hgives⟩
    · exact hothers name found ⟨hname, hgives⟩

/-- What the fields hand out, field by field. -/
theorem fieldOutputs_fieldResults :
    fieldOutputs (s.fieldResults members path) = s.fields.filterMap fun field =>
      (field.2.parse (members.get? field.1) (path.field field.1)).output?.join.map
        (Prod.mk field.1) := by
  rw [fieldOutputs, fieldResults, List.filterMap_map]
  congr 1
  funext field
  obtain ⟨name, child⟩ := field
  dsimp only [Function.comp_apply]
  cases child.parse (members.get? name) (path.field name) with
  | error found => rfl
  | ok output => cases output <;> rfl

/-- The named fields hand out what they do among the others. -/
theorem fieldOutputs_only (hkeys : s.keys.Nodup) (names : List String) :
    fieldOutputs ((s.only names).fieldResults members path) =
      Keyed.only (fieldOutputs (s.fieldResults members path)) names := by
  have hresults : ((s.fieldResults members path).map Prod.fst).Nodup := by
    rwa [map_fst_fieldResults]
  rw [fieldOutputs_fieldResults]
  show (names.filterMap fun name => (s.fields.lookup name).map (Prod.mk name)).filterMap _ = _
  rw [List.filterMap_filterMap, Keyed.only]
  refine List.filterMap_congr fun name _ => ?_
  cases hchild : s.fields.lookup name with
  | none =>
    have hsubset : ∀ key ∈ (fieldOutputs (s.fieldResults members path)).keys, key ∈ s.keys := by
      rw [← map_fst_fieldResults]
      exact (keys_fieldOutputs_sublist (s.fieldResults members path)).subset
    have hnone : (fieldOutputs (s.fieldResults members path)).lookup name = none :=
      Keyed.lookup_eq_none_iff.2 fun hkey => Keyed.lookup_eq_none_iff.1 hchild (hsubset name hkey)
    rw [hnone]
    rfl
  | some child =>
    have hmem : (name, child.parse (members.get? name) (path.field name)) ∈
        s.fieldResults members path :=
      List.mem_map_of_mem (Keyed.mem_of_lookup_eq_some hchild)
    have hget : (fieldOutputs (s.fieldResults members path)).lookup name = _ :=
      get?_fieldOutputs hresults hmem
    rw [hget]
    rfl

/-- The other fields hand out what they do among the named ones. -/
theorem fieldOutputs_without (names : List String) :
    fieldOutputs ((s.without names).fieldResults members path) =
      Keyed.without (fieldOutputs (s.fieldResults members path)) names := by
  rw [fieldOutputs_fieldResults, fieldOutputs_fieldResults]
  show (s.fields.filter fun field => !names.contains field.1).filterMap _ = _
  rw [Keyed.without, List.filterMap_filter, List.filter_filterMap]
  congr 1
  funext field
  obtain ⟨name, child⟩ := field
  -- a field is left out, or it is kept with what it hands out
  dsimp only
  cases (child.parse (members.get? name) (path.field name)).output?.join with
  | none => simp
  | some output => by_cases hname : name ∈ names <;> simp [hname, Option.filter]

/-! ## Parsing -/

end ObjectShape

/-- No hook is set, no default, and absent input is refused. -/
structure Modifiers.Bare {α : Type} (m : Modifiers α) : Prop extends m.Plain where
  optional : m.optional = false

theorem Modifiers.Bare.absent_ne_ok {α : Type} {m : Modifiers α} (hm : m.Bare) {path : Path}
    {output : Option α} : m.absent path ≠ .ok output := by
  intro h
  obtain ⟨-, hsome | hoptional⟩ := absent_eq_ok_iff.1 h
  · rw [hm.fallback] at hsome
    cases hsome
  · rw [hm.optional] at hoptional
    cases hoptional

namespace ObjectShape

variable {s : ObjectShape Validator} {path : Path} {names : List String}

/-- A derived shape has no modifiers, whatever those of the shape are. -/
theorem bare_only (s : ObjectShape Validator) (names : List String) :
    (s.only names).modifiers.Bare := ⟨⟨⟨rfl, rfl, rfl⟩, rfl⟩, rfl⟩

theorem bare_without (s : ObjectShape Validator) (names : List String) :
    (s.without names).modifiers.Bare := ⟨⟨⟨rfl, rfl, rfl⟩, rfl⟩, rfl⟩

theorem exists_members_of_present_eq_ok (hfree : s.modifiers.HookFree) {value result : Value}
    (h : s.validator.present value path = .ok result) : ∃ members, value = .object members := by
  have hcheck : (s.check value path).map Value.object = .ok result := by
    rw [← hfree.validator_present]
    exact h
  cases value with
  | object members => exact ⟨members, rfl⟩
  | _ => cases hcheck

/-- A shape that drops what it does not declare accepts objects whose fields pass, and hands
out what the fields do. -/
theorem parse_eq_ok_iff (hbare : s.modifiers.Bare) (hmode : s.unknownKeys = .strip)
    {input output : Option Value} :
    s.validator.parse input path = .ok output ↔
      ∃ members, input = some (.object members) ∧ s.findings members path = [] ∧
        output = some (.object (fieldOutputs (s.fieldResults members path))) := by
  cases input with
  | none =>
    have hrefused : s.validator.absent path ≠ .ok output := by
      intro habsent
      obtain ⟨result, hresult, -⟩ := Checked.map_eq_ok_iff.1 habsent
      exact hbare.absent_ne_ok hresult
    simp [hrefused]
  | some value =>
    have hrun : ∀ members, s.validator.present (.object members) path =
        s.run .strip members path := fun members => by rw [present_eq_run, hmode]
    rw [Validator.parse_some, Checked.map_eq_ok_iff]
    constructor
    · rintro ⟨result, hpresent, rfl⟩
      obtain ⟨members, rfl⟩ := exists_members_of_present_eq_ok hbare.toHookFree hpresent
      rw [hrun] at hpresent
      obtain ⟨hissues, -, rfl⟩ := (run_eq_ok_iff hbare.toHookFree).1 hpresent
      exact ⟨members, rfl, hissues, by simp⟩
    · rintro ⟨members, hvalue, hissues, rfl⟩
      obtain rfl := Option.some.inj hvalue
      refine ⟨_, ?_, rfl⟩
      rw [hrun, run_eq_ok_iff hbare.toHookFree]
      exact ⟨hissues, UnknownKeys.noConfusion, by simp⟩

theorem exists_parse_eq_ok_iff (hbare : s.modifiers.Bare) (hmode : s.unknownKeys = .strip)
    {input : Option Value} :
    (∃ output, s.validator.parse input path = .ok output) ↔
      ∃ members, input = some (.object members) ∧ s.findings members path = [] := by
  simp only [parse_eq_ok_iff hbare hmode]
  constructor
  · rintro ⟨output, members, hinput, hissues, -⟩
    exact ⟨members, hinput, hissues⟩
  · rintro ⟨members, hinput, hissues⟩
    exact ⟨_, members, hinput, hissues, rfl⟩

/-- Some fields and the others accept what all of them accept. -/
theorem accepts_split (hbare : s.modifiers.Bare) (hmode : s.unknownKeys = .strip)
    (hkeys : s.keys.Nodup) (names : List String) (input : Option Value) (path : Path) :
    (∃ output, s.validator.parse input path = .ok output) ↔
      (∃ output, (s.only names).validator.parse input path = .ok output) ∧
        ∃ output, (s.without names).validator.parse input path = .ok output := by
  rw [exists_parse_eq_ok_iff hbare hmode, exists_parse_eq_ok_iff (s.bare_only names) hmode,
    exists_parse_eq_ok_iff (s.bare_without names) hmode]
  constructor
  · rintro ⟨members, hinput, hissues⟩
    obtain ⟨hnamed, hothers⟩ := (findings_eq_nil_iff_split hkeys names).1 hissues
    exact ⟨⟨members, hinput, hnamed⟩, members, hinput, hothers⟩
  · rintro ⟨⟨members, rfl, hnamed⟩, others, hsame, hothers⟩
    -- the two runs saw the same object
    obtain rfl := Value.object.inj (Option.some.inj hsame)
    exact ⟨members, rfl, (findings_eq_nil_iff_split hkeys names).2 ⟨hnamed, hothers⟩⟩

/-- Then they share its output between them. -/
theorem outputs_split (hbare : s.modifiers.Bare) (hmode : s.unknownKeys = .strip)
    (hkeys : s.keys.Nodup) (names : List String) {input output : Option Value}
    (h : s.validator.parse input path = .ok output) :
    ∃ members : Members, output = some (.object members) ∧ members.keys.Nodup ∧
      (s.only names).validator.parse input path =
        .ok (some (.object (Keyed.only members names))) ∧
      (s.without names).validator.parse input path =
        .ok (some (.object (Keyed.without members names))) := by
  obtain ⟨members, rfl, hissues, rfl⟩ := (parse_eq_ok_iff hbare hmode).1 h
  obtain ⟨hnamed, hothers⟩ := (findings_eq_nil_iff_split hkeys names).1 hissues
  refine ⟨_, rfl, (strips_fieldOutputs hissues).nodup hkeys, ?_, ?_⟩
  · rw [parse_eq_ok_iff (s.bare_only names) hmode]
    exact ⟨members, rfl, hnamed, by rw [fieldOutputs_only hkeys]⟩
  · rw [parse_eq_ok_iff (s.bare_without names) hmode]
    exact ⟨members, rfl, hothers, by rw [fieldOutputs_without]⟩

end ObjectShape

/-! ## Schemas -/

namespace ObjectShape

variable {σ τ : Type}

theorem only_mapChildren (s : ObjectShape σ) (f : σ → τ) (names : List String) :
    (s.mapChildren f).only names = (s.only names).mapChildren f := by
  have hfields : Keyed.only (s.fields.map fun field => (field.1, f field.2)) names =
      (Keyed.only s.fields names).map fun field => (field.1, f field.2) := by
    unfold Keyed.only
    rw [List.map_filterMap]
    refine List.filterMap_congr fun name _ => ?_
    rw [Keyed.lookup_map, Option.map_map, Option.map_map]
    rfl
  exact congrArg (fun fields => fresh fields s.unknownKeys) hfields

theorem without_mapChildren (s : ObjectShape σ) (f : σ → τ) (names : List String) :
    (s.mapChildren f).without names = (s.without names).mapChildren f :=
  congrArg (fun fields => fresh fields s.unknownKeys) List.filter_map

end ObjectShape

namespace Schema

variable {shape : ObjectShape Schema} {names : List String}

/-- **Picking fields and leaving them out splits parsing.** Take an object that drops what
it does not declare and has no modifiers of its own, and name some of its
fields, any number of times. It accepts an input exactly if the object with
these fields and the object with the others do. Then the first hands out the
named part of its output, in the order in which the fields are first named,
and the second the rest of its output, and each of its members is in one of
the two. -/
theorem pick_and_omit_split (env : Env) (hmode : shape.unknownKeys = .strip)
    (hbare : shape.modifiers.Bare) (hkeys : shape.keys.Nodup)
    (hnames : ∀ name ∈ names, name ∈ shape.keys) (path : Path) :
    ∃ picked, shape.pick names = .ok picked ∧ ∀ input : Option Value,
      ((∃ output, ((object shape).validator env).parse input path = .ok output) ↔
        (∃ output, ((object picked).validator env).parse input path = .ok output) ∧
          ∃ output, ((object (shape.without names)).validator env).parse input path = .ok output) ∧
      ∀ output, ((object shape).validator env).parse input path = .ok output →
        ∃ members : Members, output = some (.object members) ∧ members.keys.Nodup ∧
          ((object picked).validator env).parse input path =
            .ok (some (.object (Keyed.only members names.eraseDups))) ∧
          ((object (shape.without names)).validator env).parse input path =
            .ok (some (.object (Keyed.without members names))) ∧
          (Keyed.only members names.eraseDups ++ Keyed.without members names).Perm members := by
  have hkeys' : (shape.mapChildren (validator env)).keys.Nodup := by
    rwa [ObjectShape.keys_mapChildren]
  refine ⟨_, ObjectShape.pick_eq_ok hnames, fun input => ?_⟩
  rw [validator_object, validator_object, validator_object, ← ObjectShape.only_mapChildren,
    ← ObjectShape.without_mapChildren, ← ObjectShape.without_eraseDups]
  refine ⟨ObjectShape.accepts_split hbare hmode hkeys' _ input path, fun output houtput => ?_⟩
  obtain ⟨members, rfl, hmembers, hnamed, hothers⟩ :=
    ObjectShape.outputs_split hbare hmode hkeys' names.eraseDups houtput
  rw [Keyed.without_eraseDups] at hothers
  refine ⟨members, rfl, hmembers, hnamed, hothers, ?_⟩
  rw [← Keyed.without_eraseDups]
  exact Keyed.only_append_without_perm hmembers (nodup_eraseDups names)

/-- An axle with a size, which no plate shows. -/
def sizedAxle : Value :=
  .object [("size", .null), ("colour", .string "red"), ("name", .string "axle")]

/-- Its plate comes apart into the mark and the name on one side, and the colour on the
other. -/
theorem pick_and_omit_plate :
    (plate.withMode .strip).unknownKeys = .strip ∧ (plate.withMode .strip).modifiers.Bare ∧
      (plate.withMode .strip).keys.Nodup ∧
      (∀ name ∈ ["spare", "name", "spare"], name ∈ (plate.withMode .strip).keys) ∧
      ∃ picked, (plate.withMode .strip).pick ["spare", "name", "spare"] = .ok picked ∧
        ((object picked).validator inMachine).parse (some sizedAxle) .root =
          .ok (some (.object [("spare", .boolean false), ("name", .string "axle")])) ∧
        ((object ((plate.withMode .strip).without ["spare", "name", "spare"])).validator
            inMachine).parse (some sizedAxle) .root =
          .ok (some (.object [("colour", .string "red")])) := by
  have hbare : (plate.withMode .strip).modifiers.Bare := ⟨⟨⟨rfl, rfl, rfl⟩, rfl⟩, rfl⟩
  have hkeys : (plate.withMode .strip).keys.Nodup := by decide
  have hnames : ∀ name ∈ ["spare", "name", "spare"], name ∈ (plate.withMode .strip).keys := by
    decide
  have hparse : ((object (plate.withMode .strip)).validator inMachine).parse
      (some sizedAxle) .root =
        .ok (some (.object [("name", .string "axle"), ("colour", .string "red"),
          ("spare", .boolean false)])) := rfl
  obtain ⟨picked, hpicked, hsplit⟩ := pick_and_omit_split inMachine rfl hbare hkeys hnames .root
  obtain ⟨-, houtputs⟩ := hsplit (some sizedAxle)
  obtain ⟨members, hwhole, -, hnamed, hothers, -⟩ := houtputs _ hparse
  obtain rfl := Value.object.inj (Option.some.inj hwhole)
  exact ⟨rfl, hbare, hkeys, hnames, picked, hpicked, hnamed, hothers⟩

end Schema

end Conform
