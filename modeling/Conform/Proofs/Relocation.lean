import Conform.Proofs.Correspondence.Schema
import Conform.Proofs.Location
/-!
# Relocation — a run at another path

The path at which a run starts is not looked at. It is handed on to the
parts, each one step further, and ends up in issues. So a run at a path is
the run at the root with that path put in front of the path of every issue,
at any depth, and nothing else changed.

Custom checks are handed the path as well. They must not look at it for
anything but the places of their issues.
-/


namespace Conform

/-- One input, at a path and at the same path below a base. -/
def relocation (base : Path) : Correspondence where
  value := Eq
  path p p' := p = base ++ p'
  left := id
  right := Issue.under base
  sameForm {a a'} h := by
    subst h
    cases a with
    | array items => exact .array rfl fun _ _ _ => rfl
    | object members =>
      refine .object (.refl _) fun key => ?_
      cases Members.get? members key with
      | none => exact .none
      | some value => exact .some rfl
    | _ => exact .scalar rfl
  scalar _ := rfl
  push s hp := by
    rw [hp]
    exact congrArg Path.mk (List.append_assoc ..)
  issue kind code message expected hp hv hsub := by
    rw [Issue.under_mk, hp, ← hsub, List.map_id]
    cases hv with
    | none => rfl
    | some h => rw [h]; rfl
  unknownKeys keep hp ha := by
    rw [hp, Value.object.inj ha]
    exact (Issue.under_mk base _ _ _ _ _ _ []).symm
  enumeration r strict hp ha := by
    rw [hp, ha, Checked.mapIssues_id]
    unfold EnumerationRule.check
    cases r.find? _ with
    | some option => rfl
    | none => exact congrArg Checked.fail (Issue.under_mk base _ _ _ _ _ _ []).symm

variable {base : Path}

/-- A custom check reports issues only at the path that it is given, and does not
look at the path otherwise. -/
def Modifiers.IsPathBlind {α : Type} (m : Modifiers α) : Prop :=
  ∀ check, m.custom = some check → ∀ output path,
    check output path = (check output .root).mapIssues (Issue.placedAt path)

/-- The modifiers of the node do not look at the path. -/
def Schema.IsPathBlind (s : Schema) : Prop := s.HasModifiers fun m => m.IsPathBlind

theorem Modifiers.IsPathBlind.preserves {α : Type} {m : Modifiers α} (h : m.IsPathBlind) :
    (relocation base).Preserves m where
  prepare f _ a a' ha := congrArg f ha
  custom check hcheck output p p' hp := by
    obtain rfl : p = base ++ p' := hp
    show (check output (base ++ p')).mapIssues id = (check output p').mapIssues (Issue.under base)
    have hmove : Issue.under base ∘ Issue.placedAt p' = Issue.placedAt (base ++ p') :=
      funext fun issue => Issue.under_placedAt base p' issue
    rw [Checked.mapIssues_id, h check hcheck output (base ++ p'), h check hcheck output p',
      Checked.mapIssues_mapIssues, hmove]

theorem Schema.IsPathBlind.isPreserving {s : Schema} (h : s.IsPathBlind) :
    s.IsPreserving (relocation base) := by
  cases s with
  | object shape => exact ⟨Modifiers.IsPathBlind.preserves h, fun _ _ _ ha => ha⟩
  | _ => exact ⟨Modifiers.IsPathBlind.preserves h, trivial⟩

/-- A requirement on the output is reported at the path, whatever it is. -/
theorem Modifiers.IsPathBlind.refine {α : Type} {m : Modifiers α} (h : m.IsPathBlind)
    (accepts : α → Bool) (message : String) : (m.refine accepts message).IsPathBlind := by
  have hrefinement (output : α) (path : Path) : refinement accepts message output path =
      (refinement accepts message output .root).mapIssues (Issue.placedAt path) := by
    unfold refinement
    split <;> rfl
  intro check hcheck output path
  obtain rfl := Option.some.inj hcheck
  cases hcustom : m.custom with
  | none => exact hrefinement output path
  | some earlier =>
    dsimp only
    rw [h earlier hcustom output path]
    cases earlier output .root with
    | ok output => exact hrefinement output path
    | error found => rfl

namespace Correspondence.Respects

variable {v : Validator}

/-- The elements of an array are where the array is, one step further. -/
theorem parseArray (hv : (relocation base).Respects v) (value : Value) (path : Path) :
    (relocation base).Agree (v.parseArray value (base ++ path)) (v.parseArray value path) := by
  have hpath : (relocation base).path (base ++ path) path := rfl
  cases value with
  | array items =>
    refine agree_collect ?_
    rw [Validator.onItems_eq_positions, Validator.onItems_eq_positions]
    refine map_positions_eq (fun child hchild => ?_) rfl (fun _ _ _ => rfl) hpath
    rw [List.eq_of_mem_replicate hchild]
    exact hv
  | _ => exact agree_fail (left_typeMismatch rfl hpath "array" none)

/-- The members of an object are where the object is, one step further. -/
theorem parseRecord (hv : (relocation base).Respects v) (value : Value) (path : Path) :
    (relocation base).Agree (v.parseRecord value (base ++ path)) (v.parseRecord value path) := by
  have hpath : (relocation base).path (base ++ path) path := rfl
  cases value with
  | object members =>
    refine agree_collect ?_
    rw [List.map_map, List.map_map]
    refine List.map_congr_left fun member _ => ?_
    exact (hv.present rfl ((relocation base).push (.field member.1) hpath)).map _
  | _ => exact agree_fail (left_typeMismatch rfl hpath "record" none)

end Correspondence.Respects

namespace Family

variable {family : Family} {today : Int} {s : Schema}

/-- **Moving the start of a run moves its issues.** A run at a path is the run
at the root with the path put in front of the path of every issue, at any
depth. This holds of possibly absent input, of all elements of an array and
of all members of an object. -/
theorem parse_eq_under (hfamily : ∀ target, (family target).Every Schema.IsPathBlind)
    (hs : s.Every Schema.IsPathBlind) (path : Path) :
    (∀ input, (family.validator today s).parse input path =
        ((family.validator today s).parse input .root).mapIssues (Issue.under path)) ∧
      (∀ value, (family.validator today s).parseArray value path =
        ((family.validator today s).parseArray value .root).mapIssues (Issue.under path)) ∧
      ∀ value, (family.validator today s).parseRecord value path =
        ((family.validator today s).parseRecord value .root).mapIssues (Issue.under path) := by
  have hrespects : (relocation path).Respects (family.validator today s) :=
    respects (fun target => (hfamily target).mono fun _ => Schema.IsPathBlind.isPreserving) .outside
      (hs.mono fun _ => Schema.IsPathBlind.isPreserving)
  have hroot : path = path ++ Path.root := congrArg Path.mk (List.append_nil path.segments).symm
  have hleft {α : Type} {moved result : Checked α} (h : (relocation path).Agree moved result) :
      moved = result.mapIssues (Issue.under path) :=
    (Checked.mapIssues_id moved).symm.trans h
  refine ⟨fun input => hleft (hrespects.parse ?_ hroot), fun value => ?_, fun value => ?_⟩
  · cases input with
    | none => exact .none
    | some value => exact .some rfl
  · have hmoved := hleft (hrespects.parseArray value .root)
    rwa [← hroot] at hmoved
  · have hmoved := hleft (hrespects.parseRecord value .root)
    rwa [← hroot] at hmoved

/-- What is wrong with a piece of scrap in a yard is what is wrong with it
anywhere. -/
theorem parse_scrap_in_yard :
    (∀ target, (machines (fewMembers 2) target).Every Schema.IsPathBlind) ∧
      (Schema.part (fewMembers 2)).Every Schema.IsPathBlind ∧
      (validator (machines (fewMembers 2)) 0 (Schema.part (fewMembers 2))).parse (some .scrap)
          (Path.root.field "yard") =
        ((validator (machines (fewMembers 2)) 0 (Schema.part (fewMembers 2))).parse (some .scrap)
          .root).mapIssues (Issue.under (Path.root.field "yard")) ∧
      ((validator (machines (fewMembers 2)) 0 (Schema.part (fewMembers 2))).parse (some .scrap)
        .root).passed = false := by
  have hpart : (Schema.part (fewMembers 2)).Every Schema.IsPathBlind := by
    apply Schema.every_part
    · exact Modifiers.IsPathBlind.refine nofun _ _
    all_goals exact nofun
  have hfamily : ∀ target, (machines (fewMembers 2) target).Every Schema.IsPathBlind :=
    fun _ => hpart
  exact ⟨hfamily, hpart, (parse_eq_under hfamily hpart (Path.root.field "yard")).1 _, rfl⟩

end Family

end Conform
