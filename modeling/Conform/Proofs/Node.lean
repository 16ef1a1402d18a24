import Conform.Proofs.Composite
import Conform.Proofs.Induction
/-!
# Node — what can be said of one node of a schema

Conditions on schemas are conditions on their nodes, spread over the tree
by `Schema.Every`. Two of them are stated here: `HasModifiers` looks at the
modifiers of a node, whatever the type of its output, and `IsBuilt` is what
the ways of building a schema guarantee.
-/


namespace Conform

namespace Schema

/-- The modifiers of the node have a property. -/
def HasModifiers (q : {α : Type} → Modifiers α → Prop) : Schema → Prop
  | text _ modifiers => q modifiers
  | number _ modifiers => q modifiers
  | boolean _ modifiers => q modifiers
  | date _ modifiers => q modifiers
  | enumeration _ modifiers => q modifiers
  | object shape => q shape.modifiers
  | array _ _ modifiers => q modifiers
  | tuple _ _ modifiers => q modifiers
  | union _ modifiers => q modifiers
  | optional _ modifiers => q modifiers
  | lazy _ _ modifiers => q modifiers

/-- No hook is set at the node. -/
def IsHookFree (s : Schema) : Prop := s.HasModifiers fun m => m.HookFree

/-- What building guarantees: the options of an enumeration are strings and
numbers, and the fields of an object have different names. -/
def IsBuilt : Schema → Prop
  | enumeration rule _ => ∀ option ∈ rule.options, EnumerationRule.isOption option = true
  | object shape => shape.keys.Nodup
  | _ => True

/-! ## Absent input -/

end Schema

/-- Absent input has an output, or none is needed. -/
def Modifiers.acceptsAbsence {α : Type} (m : Modifiers α) : Bool := m.fallback.isSome || m.optional

theorem Modifiers.issues_absent {α : Type} (m : Modifiers α) (path : Path) :
    (m.absent path).issues = if m.acceptsAbsence then [] else [.required path] := by
  unfold absent acceptsAbsence
  cases m.fallback with
  | some output => rfl
  | none => cases m.optional <;> rfl

namespace Schema

/-- The schema accepts absent input. A wrapper always does. -/
def acceptsAbsence : Schema → Bool
  | text _ modifiers => modifiers.acceptsAbsence
  | number _ modifiers => modifiers.acceptsAbsence
  | boolean _ modifiers => modifiers.acceptsAbsence
  | date _ modifiers => modifiers.acceptsAbsence
  | enumeration _ modifiers => modifiers.acceptsAbsence
  | object shape => shape.modifiers.acceptsAbsence
  | array _ _ modifiers => modifiers.acceptsAbsence
  | tuple _ _ modifiers => modifiers.acceptsAbsence
  | union _ modifiers => modifiers.acceptsAbsence
  | optional _ _ => true
  | lazy _ _ modifiers => modifiers.acceptsAbsence

/-- The findings of a schema about absent input. -/
def missing (s : Schema) (path : Path) : List Issue :=
  if s.acceptsAbsence then [] else [.required path]

theorem mem_missing {s : Schema} {path : Path} {issue : Issue} (h : issue ∈ s.missing path) :
    issue = .required path := by
  unfold missing at h
  split at h
  · cases h
  · exact List.mem_singleton.1 h

/-- Absent input depends on the modifiers alone, except at a wrapper. -/
theorem issues_absent (env : Env) (s : Schema) (path : Path) :
    ((s.validator env).absent path).issues = s.missing path := by
  cases s with
  | object shape =>
    rw [validator_object]
    exact (Checked.issues_map ..).trans (shape.modifiers.issues_absent path)
  | tuple kind items modifiers =>
    rw [validator_tuple]
    exact (Checked.issues_map ..).trans (modifiers.issues_absent path)
  | union alternatives modifiers =>
    rw [validator_union]
    exact (Checked.issues_map ..).trans (modifiers.issues_absent path)
  | optional inner modifiers =>
    rw [validator_optional, Validator.optional]
    cases modifiers.fallback <;> rfl
  | text _ modifiers | number _ modifiers | boolean _ modifiers | date _ modifiers
  | enumeration _ modifiers | array _ _ modifiers | lazy _ _ modifiers =>
    exact (Checked.issues_map ..).trans (modifiers.issues_absent path)

/-! ## A recursive schema

The parts of a machine consist of parts. The schema is small and has a lazy
node inside an array inside an object. -/

/-- A part that a part consists of, at most two levels below it. -/
def subpart : Schema := lazy ⟨"part", none⟩ 2 {}

/-- The mass of a part, which may be given as a text. -/
def mass : Schema :=
  number (({} : NumberRule).constrain .finite) ({} : Modifiers Binary64).coerce

/-- A part has a name and a mass, and it may have parts. -/
def part (modifiers : Modifiers Members) : Schema := object
  { fields := [("name", text {} {}), ("mass", mass), ("parts", orAbsent (array subpart {} {}))]
    modifiers }

/-- A plate shows the name and the colour of a part, and a mark that it need not have. -/
def plate : ObjectShape Schema where
  fields := [("name", text {} {}), ("colour", text {} {}),
    ("spare", boolean {} { fallback := some false })]

/-- What holds at the nodes of the schema of a part holds at every node. -/
theorem every_part {p : Schema → Prop} {modifiers : Modifiers Members} (hpart : p (part modifiers))
    (hname : p (text {} {})) (hmass : p mass) (hparts : p (orAbsent (array subpart {} {})))
    (harray : p (array subpart {} {})) (hsubpart : p subpart) : (part modifiers).Every p := by
  refine .object hpart fun name child hmem => ?_
  simp only [List.mem_cons, Prod.mk.injEq, List.not_mem_nil, or_false] at hmem
  rcases hmem with ⟨-, rfl⟩ | ⟨-, rfl⟩ | ⟨-, rfl⟩
  · exact .text hname
  · exact .number hmass
  · exact .optional hparts (.array harray (.lazy hsubpart))

end Schema

/-- The family in which everything is a part. -/
def Family.machines (modifiers : Modifiers Members) : Family := fun _ => .part modifiers

/-- Inside a lazy node of that family, with one more level to go. -/
def Schema.inMachine : Env := Family.env (Family.machines {}) 0 ⟨1, 2⟩

/-- A part without a name, with a colour, and with parts that are no parts. -/
def Value.scrap : Value := .object
  [("mass", .null), ("colour", .string "red"),
    ("parts", .array [.boolean true, .object [("name", .string "axle"), ("mass", .null),
      ("parts", .array [.object [("name", .null), ("mass", .array []),
        ("parts", .array [.null])]])]])]

/-! ## Building -/

theorem EnumerationRule.isOption_of_ofList {options : List Value} {rule : EnumerationRule}
    (h : ofList options = .ok rule) : ∀ option ∈ rule.options, isOption option = true := by
  cases options with
  | nil => cases h
  | cons first rest =>
    unfold ofList at h
    dsimp only at h
    split at h
    · cases h
    · rename_i hnone
      obtain rfl := Except.ok.inj h
      intro option hoption
      simpa using List.find?_eq_none.1 hnone option hoption

namespace ObjectShape

variable {σ : Type}

/-- Setting a child adds its name unless it is there. -/
theorem map_fst_putField (fields : List (String × σ)) (name : String) (child : σ) :
    (putField fields name child).map Prod.fst =
      if name ∈ fields.map Prod.fst then fields.map Prod.fst else fields.map Prod.fst ++ [name] := by
  induction fields with
  | nil => simp [putField]
  | cons field rest ih =>
    obtain ⟨key, old⟩ := field
    by_cases hkey : key = name
    · simp [putField, hkey]
    · have hne : ¬ name = key := fun h => hkey h.symm
      simp only [putField, hkey, if_false, List.map_cons, ih, List.mem_cons, hne, false_or]
      split <;> simp

/-- Declaring a field keeps the names different. -/
theorem nodup_keys_field {s : ObjectShape σ} (h : s.keys.Nodup) (name : String) (child : σ) :
    (s.field name child).keys.Nodup := by
  unfold keys field at *
  rw [map_fst_putField]
  split
  · exact h
  · rename_i hname
    rw [List.nodup_append]
    exact ⟨h, by simp, fun a ha b hb hab => hname (by simp_all)⟩

end ObjectShape

end Conform
