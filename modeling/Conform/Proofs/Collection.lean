import Conform.Proofs.Machine
import Conform.Proofs.Report
import Conform.Proofs.Value
/-!
# Collection — one validator for many values, and one for each

There are four ways to run a validator on every element of an array or on
every member of an object: the operations on whole collections, which
report a flat list, and arrays, tuples and objects of schemas, which put
that list under one issue. `Checked.Bundled` relates the two forms, and the
first main result is that all ways agree. The second is about tuples: both
kinds are the same validator, which looks at the length first and at the
positions only if it is right.
-/


namespace Conform

namespace Checked

variable {α : Type} {value : Value} {path : Path}

/-- A composite about the value at a path does what an operation on a whole
collection does: it has the same outputs, as a value, or it fails with one
issue that relays the same issues and counts them. -/
inductive Bundled (value : Value) (path : Path) (toValue : α → Value) :
    Checked α → Checked Value → Prop
  | ok (outputs : α) : Bundled value path toValue (.ok outputs) (.ok (toValue outputs))
  | error {found : Issues} {issue : Issue} : issue.RelaysAt value path → issue.CountsParts →
      issue.sub = found.toList → Bundled value path toValue (.error found) (.error (.single issue))

theorem bundled_wrap {issue : Issues → Issue} (hrelays : ∀ sub, (issue sub).RelaysAt value path)
    (hcounts : ∀ sub, (issue sub).CountsParts) (hsub : ∀ sub, (issue sub).sub = sub.toList)
    (result : Checked α) (toValue : α → Value) :
    Bundled value path toValue result ((result.wrap issue).map toValue) := by
  cases result with
  | ok outputs => exact .ok outputs
  | error found => exact .error (hrelays found) (hcounts found) (hsub found)

end Checked

/-! ## Composites with one child everywhere -/

/-- An array without constraints puts the issues of its elements under one. -/
theorem ArrayRule.check_unconstrained {r : ArrayRule} (hconstraints : r.constraints = [])
    (hdedupe : r.dedupe = false) (item : Validator) (items : List Value) (path : Path) :
    r.check item (.array items) path =
      (item.parseArray (.array items) path).wrap (failure path (.array items)) := by
  show r.conclude items path (item.onItems items path) =
    (Checked.collect (item.onItems items path)).wrap _
  have hlength : r.lengthIssues items.length (.array items) path = [] := by
    rw [lengthIssues, hconstraints, List.flatMap_nil]
  have hunique (outputs : List Value) : r.uniquenessIssues outputs (.array items) path = [] := by
    rw [uniquenessIssues, hconstraints, List.flatMap_nil]
  have houtput (outputs : List Value) : r.outputOf outputs = outputs := by
    simp only [outputOf, hdedupe, Bool.false_eq_true, if_false]
  unfold conclude
  simp only [hlength, hunique, houtput]
  cases Checked.collect (item.onItems items path) <;> rfl

/-- A tuple of as many copies as there are elements puts the issues of the elements
under one. -/
theorem Tuple.check_replicate (kind : TupleKind) (item : Validator) (items : List Value)
    (path : Path) :
    check kind (List.replicate items.length item) (.array items) path =
      (item.parseArray (.array items) path).wrap (failure path (.array items)) := by
  rw [check_of_length_eq kind List.length_replicate.symm, conclude, combine_eq_collect,
    ← Validator.onItems_eq_positions]
  rfl

namespace ObjectShape

variable {s : ObjectShape Validator} {v : Validator} {members : Members} {path : Path}

/-- Where every key of an object is declared with one child, the fields are the
members. -/
theorem fieldResults_uniform (hkeys : members.keys.Nodup)
    (hfields : s.fields = members.keys.map fun key => (key, v)) :
    s.fieldResults members path = members.map fun member =>
      (member.1, (v.present member.2 (path.field member.1)).map some) := by
  rw [fieldResults, hfields, Members.keys, List.map_map, List.map_map]
  refine List.map_congr_left fun member hmember => ?_
  have hget : members.get? member.1 = some member.2 := (Members.get?_eq_some_iff hkeys).2 hmember
  simp only [Function.comp_apply, hget, Validator.parse_some]

theorem unknownMembers_uniform (hfields : s.fields = members.keys.map fun key => (key, v)) :
    s.unknownMembers members = [] := by
  refine List.filter_eq_nil_iff.2 fun member hmember => ?_
  have hkey : member.1 ∈ s.keys := by
    rw [keys, hfields, List.map_map]
    exact List.mem_map.2 ⟨member.1, List.mem_map_of_mem hmember, rfl⟩
  simp [declares, hkey]

/-- An object that declares every key of its input with one child puts the issues of
the members under one. -/
theorem check_uniform (hkeys : members.keys.Nodup)
    (hfields : s.fields = members.keys.map fun key => (key, v)) :
    s.check (.object members) path =
      (v.parseRecord (.object members) path).wrap (failure path (.object members)) := by
  -- nothing is undeclared, so the mode of the object does not matter
  have houtput : s.unknownOutput [] = [] := by
    unfold unknownOutput
    cases s.unknownKeys <;> rfl
  have hissues : s.unknownIssues [] path = [] := by
    unfold unknownIssues
    cases s.unknownKeys <;> rfl
  show s.conclude members path (s.fieldResults members path) = _
  rw [conclude, unknownMembers_uniform hfields, houtput, hissues, List.append_nil,
    List.append_nil, fieldResults_uniform hkeys hfields, Validator.parseRecord, Checked.collect]
  -- what is left are the outputs and the issues, which agree member by member
  congr 2
  · rw [fieldOutputs, List.filterMap_map, List.filterMap_map]
    congr 1
    funext member
    simp only [Function.comp_apply]
    cases v.present member.2 (path.field member.1) <;> rfl
  · rw [fieldIssues_eq_flatMap, List.flatMap_map, List.flatMap_map]
    simp only [Checked.issues_map]

end ObjectShape

/-! ## Collections of schemas -/

namespace Schema

variable {env : Env} {s : Schema} {path : Path}

theorem bundled_array {rule : ArrayRule} (hconstraints : rule.constraints = [])
    (hdedupe : rule.dedupe = false) {m : Modifiers (List Value)} (hm : m.HookFree)
    (items : List Value) :
    Checked.Bundled (.array items) path .array
      ((s.validator env).parseArray (.array items) path)
      ((array s rule m).attempt env (.array items) path) := by
  rw [attempt, validator_array, Validator.array, hm.validator_present,
    ArrayRule.check_unconstrained hconstraints hdedupe]
  exact Checked.bundled_wrap (Issue.relaysAt_array path _) (Issue.countsParts_array path _)
    (fun _ => rfl) _ _

theorem bundled_tuple (kind : TupleKind) {m : Modifiers (List Value)} (hm : m.HookFree)
    (items : List Value) :
    Checked.Bundled (.array items) path .array
      ((s.validator env).parseArray (.array items) path)
      ((tuple kind (List.replicate items.length s) m).attempt env (.array items) path) := by
  rw [attempt, validator_tuple, List.map_replicate, Validator.tuple, hm.validator_present,
    Tuple.check_replicate]
  exact Checked.bundled_wrap (Issue.relaysAt_tuple path _) (Issue.countsParts_tuple path _)
    (fun _ => rfl) _ _

theorem bundled_object {shape : ObjectShape Schema} {members : Members}
    (hkeys : members.keys.Nodup) (hfields : shape.fields = members.keys.map fun key => (key, s))
    (hm : shape.modifiers.HookFree) :
    Checked.Bundled (.object members) path .object
      ((s.validator env).parseRecord (.object members) path)
      ((object shape).attempt env (.object members) path) := by
  have hchildren : (shape.mapChildren (validator env)).fields =
      members.keys.map fun key => (key, s.validator env) := by
    rw [ObjectShape.mapChildren, hfields, List.map_map]
    rfl
  have hm' : (shape.mapChildren (validator env)).modifiers.HookFree := hm
  rw [attempt, validator_object, ObjectShape.validator, hm'.validator_present,
    ObjectShape.check_uniform hkeys hchildren]
  exact Checked.bundled_wrap (Issue.relaysAt_object path _) (Issue.countsParts_object path _)
    (fun _ => rfl) _ _

/-- **All ways of running one schema on many values agree.** Parsing every element of
an array, an array without constraints, and a tuple with a copy for every element have the
same outputs or report the same issues, which the latter two put under one. So do
parsing every member of an object, and an object that declares its keys. -/
theorem collections_agree (s : Schema) (env : Env) (path : Path) :
    (∀ (items : List Value) (m : Modifiers (List Value)), m.HookFree →
      (∀ rule : ArrayRule, rule.constraints = [] → rule.dedupe = false →
        Checked.Bundled (.array items) path .array
          ((s.validator env).parseArray (.array items) path)
          ((array s rule m).attempt env (.array items) path)) ∧
      ∀ kind, Checked.Bundled (.array items) path .array
        ((s.validator env).parseArray (.array items) path)
        ((tuple kind (List.replicate items.length s) m).attempt env (.array items) path)) ∧
    ∀ (members : Members) (shape : ObjectShape Schema), members.keys.Nodup →
      shape.fields = (members.keys.map fun key => (key, s)) → shape.modifiers.HookFree →
        Checked.Bundled (.object members) path .object
          ((s.validator env).parseRecord (.object members) path)
          ((object shape).attempt env (.object members) path) := by
  refine ⟨fun items m hm => ⟨fun rule hconstraints hdedupe => ?_, fun kind => ?_⟩,
    fun members shape hkeys hfields hm => ?_⟩
  · exact bundled_array hconstraints hdedupe hm items
  · exact bundled_tuple kind hm items
  · exact bundled_object hkeys hfields hm

/-- The names of an axle in two languages, of which only one is known. -/
def axleNames : Members := [("en", .string "axle"), ("de", .null)]

/-- Names are parsed alike with an array and without, and with fields and without. -/
theorem collections_of_names :
    ({} : Modifiers (List Value)).HookFree ∧ axleNames.keys.Nodup ∧
      (∃ found issue,
        ((text {} {}).validator inMachine).parseArray (.array (axleNames.map Prod.snd)) .root =
          .error found ∧
        (array (text {} {}) {} {}).attempt inMachine (.array (axleNames.map Prod.snd)) .root =
          .error (.single issue) ∧ issue.sub = found.toList) ∧
      Checked.Bundled (.object axleNames) .root .object
        (((text {} {}).validator inMachine).parseRecord (.object axleNames) .root)
        ((object ((({} : ObjectShape Schema).field "en" (text {} {})).field "de" (text {} {}))).attempt
          inMachine (.object axleNames) .root) := by
  have hm : ({} : Modifiers (List Value)).HookFree := ⟨rfl, rfl, rfl⟩
  have hkeys : axleNames.keys.Nodup := by decide
  obtain ⟨harrays, hobjects⟩ := collections_agree (text {} {}) inMachine .root
  refine ⟨hm, hkeys, ?_, hobjects axleNames _ hkeys rfl ⟨rfl, rfl, rfl⟩⟩
  have hfails : (((text {} {}).validator inMachine).parseArray (.array (axleNames.map Prod.snd))
      .root).passed = false := rfl
  have hbundled := (harrays (axleNames.map Prod.snd) {} hm).1 {} rfl rfl
  generalize ((text {} {}).validator inMachine).parseArray (.array (axleNames.map Prod.snd)) .root =
    parsed at hbundled hfails
  generalize (array (text {} {}) {} {}).attempt inMachine (.array (axleNames.map Prod.snd)) .root =
    attempted at hbundled
  cases hbundled with
  | ok outputs => cases hfails
  | error hrelays hcounts hsub => exact ⟨_, _, rfl, rfl, hsub⟩

end Schema

/-! ## Tuples by number -/

namespace Tuple

variable {children : List Validator} {items : List Value} {path : Path}

/-- The results of the positions, where every position reads the element with its
number. There are none if a number is outside of the array. -/
def numbered? (children : List Validator) (items : List Value) (path : Path) :
    Option (List (Checked Value)) :=
  children.zipIdx.mapM fun (child, i) =>
    items[i]?.map fun item => child.present item (path.index i)

/-- Reading by number behind elements that were read before. -/
theorem mapM_zipIdx_append (children : List Validator) (before items : List Value)
    (h : items.length = children.length) :
    ((children.zipIdx before.length).mapM fun (child, i) =>
        (before ++ items)[i]?.map fun item => child.present item (path.index i)) =
      some (((children.zip items).zipIdx before.length).map fun ((child, item), i) =>
        child.present item (path.index i)) := by
  induction children generalizing before items with
  | nil => rfl
  | cons child rest ih =>
    obtain ⟨item, items, rfl⟩ := List.exists_cons_of_length_eq_add_one h
    -- the rest reads behind one more element
    have hrest := ih (before ++ [item]) items (by simpa using h)
    rw [List.append_assoc, List.singleton_append, List.length_append, List.length_singleton] at hrest
    have hfirst : (before ++ item :: items)[before.length]? = some item := by simp
    rw [List.zipIdx_cons, List.mapM_cons, List.zip_cons_cons, List.zipIdx_cons, List.map_cons]
    simp only [hfirst, Option.map_some]
    rw [hrest]
    rfl

/-- No position reads outside of an array of the right length, and what it reads is
what it is paired with. -/
theorem numbered?_eq_some (h : items.length = children.length) :
    numbered? children items path = some (positions children items path) :=
  mapM_zipIdx_append children [] items h

end Tuple

namespace Schema

variable {env : Env} {items : List Schema} {m : Modifiers (List Value)}

/-- The kind of a tuple is not to be told from what it does. -/
theorem validator_typed :
    (tuple .typed items m).validator env = (tuple .listed items m).validator env := by
  have hcheck : Tuple.check .typed (items.map (validator env)) =
      Tuple.check .listed (items.map (validator env)) := by
    funext value path
    cases value with
    | array values => simp only [Tuple.check, Tuple.conclude, Tuple.combine_eq_collect]
    | _ => rfl
  rw [validator_tuple, validator_tuple, Validator.tuple, Validator.tuple, hcheck]

theorem attempt_tuple (kind : TupleKind) (value : Value) (path : Path) :
    (tuple kind items m).attempt env value path =
      (m.conclude path (Tuple.check kind (items.map (validator env)) (m.prepared value) path)).map
        .array := by
  rw [attempt, validator_tuple]
  rfl

/-- An array of the wrong length has one issue, and no position is run to find it. -/
theorem tuple_of_length_ne (kind : TupleKind) (today : Int) {value : Value} {values : List Value}
    (path : Path) (hvalue : m.prepared value = .array values)
    (hlength : values.length ≠ items.length) :
    (tuple kind items m).attempt env value path =
        Checked.fail (Tuple.lengthIssue items.length values path) ∧
      (tuple kind items m).onPresent today value path =
        .done (Checked.fail (Tuple.lengthIssue items.length values path)) := by
  constructor
  · rw [attempt_tuple, hvalue, Tuple.check_of_length_ne kind (by simpa using hlength),
      List.length_map]
    rfl
  · rw [onPresent, Modifiers.running, hvalue, Tuple.running, if_neg hlength]
    rfl

/-- An array of the right length is read by number, never outside of it. -/
theorem tuple_of_length_eq {value : Value} {values : List Value} (path : Path)
    (hvalue : m.prepared value = .array values) (hlength : values.length = items.length) :
    ∃ results, Tuple.numbered? (items.map (validator env)) values path = some results ∧
      ∀ kind, (tuple kind items m).attempt env value path =
        (m.conclude path (Tuple.conclude kind values path results)).map .array := by
  have hchildren : values.length = (items.map (validator env)).length := by simpa using hlength
  refine ⟨_, Tuple.numbered?_eq_some hchildren, fun kind => ?_⟩
  rw [attempt_tuple, hvalue, Tuple.check_of_length_eq kind hchildren]

/-- A tuple accepts arrays of its length in which every position passes, and its
output has their outputs at their positions. -/
theorem attempt_tuple_eq_ok_iff (hm : m.HookFree) (kind : TupleKind) {value output : Value}
    {path : Path} :
    (tuple kind items m).attempt env value path = .ok output ↔
      ∃ values outputs : List Value, value = .array values ∧ output = .array outputs ∧
        values.length = items.length ∧ outputs.length = items.length ∧
        ∀ (i : Nat) (hitem : i < items.length) (hvalue : i < values.length)
          (houtput : i < outputs.length),
          items[i].attempt env values[i] (path.index i) = .ok outputs[i] := by
  rw [attempt, validator_tuple, Validator.tuple, hm.validator_present, Checked.map_eq_ok_iff]
  simp only [Tuple.check_eq_ok_iff, List.length_map, List.getElem_map]
  constructor
  · rintro ⟨outputs, ⟨values, rfl, hlength, houtputs, hpass⟩, rfl⟩
    exact ⟨values, outputs, rfl, rfl, hlength, houtputs.symm, hpass⟩
  · rintro ⟨values, outputs, rfl, rfl, hlength, houtputs, hpass⟩
    exact ⟨outputs, ⟨values, rfl, hlength, houtputs.symm, hpass⟩, rfl⟩

/-- **Both kinds of tuples are one validator.** An array of another length than
theirs has a single issue, and no position is run. Otherwise the positions are read
by number, never outside of the array. The output has as many values as there are
positions, each the output of its position. -/
theorem tuple_kinds_agree (items : List Schema) (m : Modifiers (List Value)) (env : Env) :
    (tuple .typed items m).validator env = (tuple .listed items m).validator env ∧
      (∀ value values path, m.prepared value = .array values →
        (values.length ≠ items.length → ∃ issue : Issue, issue.code = "tuple_length" ∧
          issue.path = path ∧ issue.sub = [] ∧ ∀ kind today,
            (tuple kind items m).attempt env value path = .error (.single issue) ∧
            (tuple kind items m).onPresent today value path = .done (.error (.single issue))) ∧
        (values.length = items.length → ∃ results,
          Tuple.numbered? (items.map (validator env)) values path = some results ∧
          ∀ kind, (tuple kind items m).attempt env value path =
            (m.conclude path (Tuple.conclude kind values path results)).map .array)) ∧
      (m.HookFree → ∀ kind value path output,
        (tuple kind items m).attempt env value path = .ok output ↔
          ∃ values outputs : List Value, value = .array values ∧ output = .array outputs ∧
            values.length = items.length ∧ outputs.length = items.length ∧
            ∀ (i : Nat) (hitem : i < items.length) (hvalue : i < values.length)
              (houtput : i < outputs.length),
              items[i].attempt env values[i] (path.index i) = .ok outputs[i]) := by
  refine ⟨validator_typed, fun value values path hvalue => ⟨fun hlength => ?_, fun hlength => ?_⟩,
    fun hm kind value path output => attempt_tuple_eq_ok_iff hm kind⟩
  · exact ⟨Tuple.lengthIssue items.length values path, rfl, rfl, rfl,
      fun kind today => tuple_of_length_ne kind today path hvalue hlength⟩
  · exact tuple_of_length_eq path hvalue hlength

/-- A name and a mark. -/
def marked : List Schema := [text {} {}, boolean {} {}]

/-- A marked axle is a tuple of either kind, and an axle alone is of neither. -/
theorem tuple_kinds_of_axle :
    ({} : Modifiers (List Value)).HookFree ∧
      (∃ issue : Issue, issue.code = "tuple_length" ∧
        ∀ kind, (tuple kind marked {}).attempt inMachine (.array [.string "axle"]) .root =
          .error (.single issue)) ∧
      ∃ outputs : List Value, outputs.length = marked.length ∧
        (tuple .typed marked {}).attempt inMachine (.array [.string "axle", .boolean true]) .root =
          .ok (.array outputs) := by
  have hm : ({} : Modifiers (List Value)).HookFree := ⟨rfl, rfl, rfl⟩
  obtain ⟨-, harrays, haccepts⟩ := tuple_kinds_agree marked {} inMachine
  refine ⟨hm, ?_, ?_⟩
  · obtain ⟨issue, hcode, -, -, hissue⟩ :=
      (harrays (.array [.string "axle"]) _ .root rfl).1 (by decide)
    exact ⟨issue, hcode, fun kind => (hissue kind 0).1⟩
  · have hpasses : ((tuple .typed marked {}).attempt inMachine
        (.array [.string "axle", .boolean true]) .root).passed = true := rfl
    cases hresult : (tuple .typed marked {}).attempt inMachine
        (.array [.string "axle", .boolean true]) .root with
    | ok output =>
      obtain ⟨_, outputs, -, rfl, -, hlength, -⟩ := (haccepts hm _ _ _ _).1 hresult
      exact ⟨outputs, hlength, rfl⟩
    | error found =>
      rw [hresult] at hpasses
      cases hpasses

end Schema

end Conform
