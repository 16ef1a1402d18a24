import Conform.Proofs.Partial
import Conform.Session
/-!
# Wrapping — accepting absence where nothing is absent

The elements of an array, the positions of a tuple, the alternatives of a
union and the target of a lazy node only ever get input that is present. A
wrapper that accepts absence hands such input on, so it can be put there, or
taken away, in any number of places and also around itself. Every output,
every issue and every level that is counted stays as it is.

`Schema.Wrapped` says of two schemas that the second has more wrappers at such
places, with the lazy nodes of both in step.
-/


namespace Conform

/-! ## Rules -/

theorem ArrayRule.check_congr (r : ArrayRule) {item item' : Validator}
    (h : item'.present = item.present) : r.check item' = r.check item := by
  funext value path
  cases value with
  | array items =>
    have hresults : item'.onItems items path = item.onItems items path := by
      unfold Validator.onItems
      rw [h]
    show r.conclude items path (item'.onItems items path) = _
    rw [hresults]
    rfl
  | _ => rfl

namespace Tuple

variable {children children' : List Validator}

theorem positions_congr (h : children'.map Validator.present = children.map Validator.present)
    (items : List Value) (path : Path) :
    positions children' items path = positions children items path := by
  have hface (children : List Validator) : positions children items path =
      (((children.map Validator.present).zip items).zipIdx.map
        fun entry => entry.1.1 entry.1.2 (path.index entry.2)) := by
    rw [List.zip_map_left, List.zipIdx_map, List.map_map]
    rfl
  rw [hface, hface, h]

theorem check_congr (kind : TupleKind)
    (h : children'.map Validator.present = children.map Validator.present) :
    check kind children' = check kind children := by
  have hlength : children'.length = children.length := by simpa using congrArg List.length h
  funext value path
  unfold check
  simp only [hlength, positions_congr h]

end Tuple

namespace Union

variable {alternatives alternatives' : List Validator}

theorem firstOutput_congr
    (h : alternatives'.map Validator.present = alternatives.map Validator.present)
    (value : Value) (path : Path) :
    firstOutput alternatives' value path = firstOutput alternatives value path := by
  induction alternatives generalizing alternatives' with
  | nil =>
    rw [List.map_nil, List.map_eq_nil_iff] at h
    rw [h]
  | cons alternative rest ih =>
    obtain ⟨alternative', rest', rfl, hhead, htail⟩ := List.map_eq_cons_iff.1 h
    rw [firstOutput, firstOutput, hhead, ih htail]

theorem check_congr (h : alternatives'.map Validator.present = alternatives.map Validator.present) :
    check alternatives' = check alternatives := by
  have hlength : alternatives'.length = alternatives.length := by simpa using congrArg List.length h
  funext value path
  unfold check
  rw [hlength, firstOutput_congr h]

end Union

/-! ## Schemas -/

/-- Lazy nodes with related targets do the same. -/
structure Env.Agrees (env : Env) (twin : Deferred → Deferred → Prop) (env' : Env) : Prop where
  today : env'.today = env.today
  resolve : ∀ target target' limit, twin target target' →
    env'.resolve target' limit = env.resolve target limit

namespace Schema

/-- The input that a place in a schema can get. -/
inductive Position where
  /-- The input may be absent. -/
  | anyInput
  /-- The input is present. -/
  | presentOnly

/-- Two validators do the same with the input that a place can get. -/
def Position.Alike : Position → Validator → Validator → Prop
  | anyInput, v, v' => v' = v
  | presentOnly, v, v' => v'.present = v.present

theorem Position.Alike.of_eq {v v' : Validator} (h : v' = v) (p : Position) : p.Alike v v' := by
  subst h
  cases p <;> rfl

/-- The second schema is the first with any number of wrappers that accept absence put around
its elements, positions and alternatives, and around the whole if the place it stands at gets no
absent input. The targets of its lazy nodes are related by `twin`. -/
inductive Wrapped (twin : Deferred → Deferred → Prop) : Position → Schema → Schema → Prop
  | text {p rule modifiers} : Wrapped twin p (.text rule modifiers) (.text rule modifiers)
  | number {p rule modifiers} : Wrapped twin p (.number rule modifiers) (.number rule modifiers)
  | boolean {p rule modifiers} : Wrapped twin p (.boolean rule modifiers) (.boolean rule modifiers)
  | date {p rule modifiers} : Wrapped twin p (.date rule modifiers) (.date rule modifiers)
  | enumeration {p rule modifiers} :
      Wrapped twin p (.enumeration rule modifiers) (.enumeration rule modifiers)
  | object {p} {shape : ObjectShape Schema} {fields : List (String × Schema)} :
      shape.fields.map Prod.fst = fields.map Prod.fst →
      (∀ (i : Nat) (hi : i < shape.fields.length) (hi' : i < fields.length),
        Wrapped twin .anyInput shape.fields[i].2 fields[i].2) →
      Wrapped twin p (.object shape) (.object { shape with fields := fields })
  | array {p item item' rule modifiers} : Wrapped twin .presentOnly item item' →
      Wrapped twin p (.array item rule modifiers) (.array item' rule modifiers)
  | tuple {p kind modifiers} {items items' : List Schema} : items.length = items'.length →
      (∀ (i : Nat) (hi : i < items.length) (hi' : i < items'.length),
        Wrapped twin .presentOnly items[i] items'[i]) →
      Wrapped twin p (.tuple kind items modifiers) (.tuple kind items' modifiers)
  | union {p modifiers} {alternatives alternatives' : List Schema} :
      alternatives.length = alternatives'.length →
      (∀ (i : Nat) (hi : i < alternatives.length) (hi' : i < alternatives'.length),
        Wrapped twin .presentOnly alternatives[i] alternatives'[i]) →
      Wrapped twin p (.union alternatives modifiers) (.union alternatives' modifiers)
  | optional {p inner inner' modifiers} : Wrapped twin p inner inner' →
      Wrapped twin p (.optional inner modifiers) (.optional inner' modifiers)
  | lazy {p target target' limit modifiers} : twin target target' →
      Wrapped twin p (.lazy target limit modifiers) (.lazy target' limit modifiers)
  | wrap {s s'} : Wrapped twin .presentOnly s s' → Wrapped twin .presentOnly s (orAbsent s')

variable {twin : Deferred → Deferred → Prop} {env env' : Env}

/-- No wrapper is needed. -/
theorem Wrapped.refl (htwin : ∀ target, twin target target) (p : Position) (s : Schema) :
    Wrapped twin p s s := by
  induction Every.of_forall (p := fun _ => True) (fun _ => trivial) s generalizing p with
  | text => exact .text
  | number => exact .number
  | boolean => exact .boolean
  | date => exact .date
  | enumeration => exact .enumeration
  | object _ _ ih => exact .object rfl fun i hi _ => ih _ _ (List.getElem_mem hi) _
  | array _ _ ih => exact .array (ih _)
  | tuple _ _ ih => exact .tuple rfl fun i hi _ => ih _ (List.getElem_mem hi) _
  | union _ _ ih => exact .union rfl fun i hi _ => ih _ (List.getElem_mem hi) _
  | optional _ _ ih => exact .optional (ih _)
  | lazy => exact .lazy (htwin _)

/-! ## One level -/

/-- Schemas that are alike pair by pair do the same with present input. -/
theorem map_present_eq {items items' : List Schema} (hlength : items.length = items'.length)
    (h : ∀ (i : Nat) (hi : i < items.length) (hi' : i < items'.length),
      (items'[i].validator env').present = (items[i].validator env).present) :
    (items'.map (validator env')).map Validator.present =
      (items.map (validator env)).map Validator.present := by
  refine List.ext_getElem (by simpa using hlength.symm) fun i hi' hi => ?_
  simp only [List.length_map] at hi hi'
  simpa using h i hi hi'

/-- **One level.** Wrappers change nothing for the input that the place can get, if the lazy
nodes do the same. -/
theorem Wrapped.alike (henv : env.Agrees twin env') {p : Position} {s s' : Schema}
    (h : s.Wrapped twin p s') :
    p.Alike (s.validator env) (s'.validator env') := by
  induction h with
  | text | number | boolean | enumeration => exact .of_eq rfl _
  | date =>
    refine .of_eq ?_ _
    rw [validator, validator, henv.today]
  | @object _ shape fields hkeys hchildren ih =>
    refine .of_eq ?_ _
    -- a field may be missing, so its validators have to agree on absent input as well
    have hfields : (fields.map fun field => (field.1, field.2.validator env')) =
        shape.fields.map fun field => (field.1, field.2.validator env) := by
      have hlength : shape.fields.length = fields.length := by
        simpa using congrArg List.length hkeys
      refine List.ext_getElem (by simpa using hlength.symm) fun i hi' hi => ?_
      simp only [List.length_map] at hi hi'
      have hname : shape.fields[i].1 = fields[i].1 := by
        have hkey := List.getElem_of_eq hkeys (by simpa using hi)
        rwa [List.getElem_map, List.getElem_map] at hkey
      have hchild : fields[i].2.validator env' = shape.fields[i].2.validator env := ih i hi hi'
      simp only [List.getElem_map, hname, hchild]
    rw [validator_object, validator_object]
    unfold ObjectShape.mapChildren
    rw [hfields]
  | array _ ih =>
    refine .of_eq ?_ _
    -- the validators of the items may differ on absent input, but an array never asks for that
    rw [validator_array, validator_array, Validator.array, ArrayRule.check_congr _ ih]
    rfl
  | tuple hlength _ ih =>
    refine .of_eq ?_ _
    rw [validator_tuple, validator_tuple, Validator.tuple,
      Tuple.check_congr _ (map_present_eq hlength ih)]
    rfl
  | union hlength _ ih =>
    refine .of_eq ?_ _
    rw [validator_union, validator_union, Validator.union,
      Union.check_congr (map_present_eq hlength ih)]
    rfl
  | @optional p inner inner' modifiers _ ih =>
    rw [validator_optional, validator_optional]
    cases p with
    | anyInput => exact congrArg (Validator.optional modifiers) ih
    | presentOnly =>
      exact congrArg (fun step => (modifiers.validator step id).present) ih
  | lazy htwin =>
    refine .of_eq ?_ _
    rw [validator, validator, henv.resolve _ _ _ htwin]
  | wrap _ ih => exact (Validator.present_orAbsent _).trans ih

end Schema

/-! ## Families -/

namespace Family

variable {family family' : Family} {twin : Deferred → Deferred → Prop}

/-- The targets of related lazy nodes differ by wrappers, which may be around the whole. -/
def Wrapped (family : Family) (twin : Deferred → Deferred → Prop) (family' : Family) : Prop :=
  ∀ target target', twin target target' →
    (family target).Wrapped twin .presentOnly (family' target')

/-- **All levels.** Lazy nodes whose targets differ by wrappers do the same, whether they run
their targets or are stopped by the limit. The induction is on what remains of the limit: a
wrapper around a target takes nothing of it. -/
theorem Wrapped.resolve_eq (htargets : family.Wrapped twin family') (today : Int) (scope : Scope)
    {target target' : Deferred} (htwin : twin target target') (limit : Nat) :
    family'.resolve today scope target' limit = family.resolve today scope target limit := by
  induction hn : scope.remaining using Nat.strongRecOn
    generalizing scope target target' limit with
  | ind n ih =>
    subst hn
    by_cases hlt : scope.depth < scope.limitAt limit
    · have henv : (family.env today (scope.enter limit)).Agrees twin
          (family'.env today (scope.enter limit)) :=
        ⟨rfl, fun _ _ limit' htwin' =>
          ih _ (Scope.remaining_enter_lt hlt) (scope.enter limit) htwin' limit' rfl⟩
      -- a wrapper around a target is no lazy node, so both targets run at the same scope
      rw [resolve_of_lt hlt, resolve_of_lt hlt]
      exact (htargets target target' htwin).alike henv
    · funext value path
      rw [resolve_of_not_lt hlt, resolve_of_not_lt hlt]

theorem Wrapped.agrees (htargets : family.Wrapped twin family') (today : Int) (scope : Scope) :
    (family.env today scope).Agrees twin (family'.env today scope) :=
  ⟨rfl, fun _ _ limit htwin => htargets.resolve_eq today scope htwin limit⟩

end Family

/-! ## Calls -/

/-- What a validator does with present input decides every call but that on absent input. -/
theorem Call.answer_congr {v v' : Validator} (h : v'.present = v.present) {call : Call}
    (hpresent : ∀ path, call ≠ .parse none path) : call.answer v' = call.answer v := by
  cases call with
  | parse input path =>
    cases input with
    | none => exact absurd rfl (hpresent path)
    | some value =>
      rw [answer, answer, Validator.parse_some, Validator.parse_some, h]
  | parseArray value path =>
    have harray : v'.parseArray value path = v.parseArray value path := by
      unfold Validator.parseArray Validator.onItems
      rw [h]
    rw [answer, answer, harray]
  | parseRecord value path =>
    have hrecord : v'.parseRecord value path = v.parseRecord value path := by
      unfold Validator.parseRecord
      rw [h]
    rw [answer, answer, hrecord]

/-- Absent input is accepted, with the output that the inner validator has for it. -/
theorem Validator.exists_parse_none_orAbsent (v : Validator) (path : Path) :
    ∃ output, v.orAbsent.parse none path = .ok output ∧
      ∀ value, output = some value ↔ v.parse none path = .ok (some value) := by
  refine ⟨(v.absent path).output?.join, absent_orAbsent v path, fun value => ?_⟩
  rw [parse_none]
  cases v.absent path with
  | ok output => simp
  | error found => simp

namespace Family

/-- **A wrapper that accepts absence is not seen where input is present.** Put such wrappers
around any elements, positions and alternatives in a schema and in the targets of its lazy
nodes, and around the targets themselves: every call has the same answer at any path and inside
any number of lazy nodes. If the whole is wrapped as well, this holds of the calls with present
input. Absent input is always accepted by a wrapper, with the value that the schema inside has
for it, if it has one, and a wrapper around a wrapper does what one alone does. -/
theorem wrappers_are_invisible (family : Family) (today : Int) (scope : Scope) :
    (∀ (family' : Family) (twin : Deferred → Deferred → Prop), family.Wrapped twin family' →
      (∀ (s s' : Schema) (call : Call), s.Wrapped twin .anyInput s' →
        call.answer (s'.validator (family'.env today scope)) =
          call.answer (s.validator (family.env today scope))) ∧
      ∀ (s s' : Schema) (call : Call), s.Wrapped twin .presentOnly s' →
        (∀ path, call ≠ .parse none path) →
        call.answer (s'.validator (family'.env today scope)) =
          call.answer (s.validator (family.env today scope))) ∧
    (∀ (s : Schema) (path : Path), ∃ output,
      ((Schema.orAbsent s).validator (family.env today scope)).parse none path = .ok output ∧
        ∀ value, output = some value ↔
          (s.validator (family.env today scope)).parse none path = .ok (some value)) ∧
    ∀ (s : Schema) (call : Call),
      call.answer ((Schema.orAbsent (.orAbsent s)).validator (family.env today scope)) =
        call.answer ((Schema.orAbsent s).validator (family.env today scope)) := by
  refine ⟨fun family' twin htargets => ⟨?_, ?_⟩, ?_, ?_⟩
  · intro s s' call hwrapped
    have heq : s'.validator (family'.env today scope) = s.validator (family.env today scope) :=
      hwrapped.alike (htargets.agrees today scope)
    rw [heq]
  · intro s s' call hwrapped hpresent
    exact Call.answer_congr (hwrapped.alike (htargets.agrees today scope)) hpresent
  · intro s path
    exact Validator.exists_parse_none_orAbsent _ path
  · intro s call
    exact congrArg (Call.answer · call) (Validator.orAbsent_orAbsent (s.validator _))

end Family

/-- A crate has labels, all of them different, a seal, and a content: a text or another crate.
Its elements, positions and alternatives are given with something around them. -/
def Schema.crate (around : Schema → Schema) : Schema := object
  { fields := [
      ("labels", array (around (text {} {})) { constraints := [(.unique, none)] } {}),
      ("seal", tuple .listed [around (boolean {} {}), around (text {} {})] {}),
      ("content", union [around (text {} {}), around (lazy ⟨"crate", none⟩ 1 {})] {})] }

/-- The family in which everything is a crate. -/
def Family.crates (around : Schema → Schema) : Family := fun _ => around (.crate around)

/-- A crate that has one label twice and another crate in it. -/
def Value.labelledTwice : Value := .object
  [("labels", .array [.string "glass", .string "glass"]),
    ("seal", .array [.boolean true, .string "lead"]), ("content", .object [])]

theorem Schema.wrapped_crate (p : Position) : (crate id).Wrapped Eq p (crate orAbsent) := by
  have haround (s : Schema) : Wrapped Eq .presentOnly s (orAbsent s) :=
    .wrap (.refl (fun _ => rfl) _ s)
  refine .object rfl fun i hi _ => ?_
  obtain _ | _ | _ | i := i
  · exact .array (haround _)
  · refine .tuple rfl fun i hi _ => ?_
    obtain _ | _ | i := i
    · exact haround _
    · exact haround _
    · exact absurd hi (Nat.not_lt.2 (Nat.le_add_left 2 i))
  · refine .union rfl fun i hi _ => ?_
    obtain _ | _ | i := i
    · exact haround _
    · exact haround _
    · exact absurd hi (Nat.not_lt.2 (Nat.le_add_left 2 i))
  · exact absurd hi (Nat.not_lt.2 (Nat.le_add_left 3 i))

/-- With wrappers around all labels, parts of the seal, contents and crates, the label that is
there twice is found and the limit stops the crate inside, from a lazy node and from a wrapped
crate alike. -/
theorem Family.crates_orAbsent_alike :
    (crates id).Wrapped Eq (crates .orAbsent) ∧
      (Schema.lazy ⟨"crate", none⟩ 1 {}).Wrapped Eq .anyInput (.lazy ⟨"crate", none⟩ 1 {}) ∧
      (Schema.crate id).Wrapped Eq .presentOnly (.orAbsent (.crate .orAbsent)) ∧
      (∀ path, Call.parse (some .labelledTwice) .root ≠ .parse none path) ∧
      (((Call.parse (some .labelledTwice) .root).answer
        ((Schema.lazy ⟨"crate", none⟩ 1 {}).validator
          ((crates .orAbsent).env 0 .outside))).issues.flatMap Issue.leaves).map Issue.code =
        ["unique", "invalid_type", "max_depth_exceeded"] ∧
      (((Call.parse (some .labelledTwice) .root).answer
        ((Schema.orAbsent (.crate .orAbsent)).validator
          ((crates .orAbsent).env 0 ⟨1, 1⟩))).issues.flatMap Issue.leaves).map Issue.code =
        ["unique", "invalid_type", "max_depth_exceeded"] := by
  have htargets : (crates id).Wrapped Eq (crates .orAbsent) :=
    fun _ _ _ => .wrap (Schema.wrapped_crate _)
  have hroot : (Schema.lazy ⟨"crate", none⟩ 1 {}).Wrapped Eq .anyInput
      (.lazy ⟨"crate", none⟩ 1 {}) := .lazy rfl
  have hcrate : (Schema.crate id).Wrapped Eq .presentOnly (.orAbsent (.crate .orAbsent)) :=
    .wrap (Schema.wrapped_crate _)
  have hpresent : ∀ path, Call.parse (some .labelledTwice) .root ≠ .parse none path := by
    rintro path ⟨⟩
  refine ⟨htargets, hroot, hcrate, hpresent, ?_, ?_⟩
  · obtain ⟨hcalls, -⟩ := (wrappers_are_invisible (crates id) 0 .outside).1 _ _ htargets
    have hhooks : ({} : Modifiers Value).HookFree := ⟨rfl, rfl, rfl⟩
    rw [hcalls _ _ _ hroot, Call.answer, Validator.parse_some, Schema.validator,
      hhooks.validator_present]
    dsimp only [env]
    rw [resolve_of_lt (by decide), env_eq]
    rfl
  · obtain ⟨-, hcalls⟩ := (wrappers_are_invisible (crates id) 0 ⟨1, 1⟩).1 _ _ htargets
    rw [hcalls _ _ _ hcrate hpresent, env_eq]
    rfl

end Conform
