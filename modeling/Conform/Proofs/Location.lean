import Conform.Proofs.Issue.Tree
import Conform.Proofs.Report
/-!
# Location — every reported place exists

An issue names a place by a path, and every composite makes the paths of its
parts on its own. `Issue.LocatedAt` says what a path promises: it goes on
from the path of the input by steps that lead to a value in the input, or,
for a missing value, to an object that lacks the key. An aggregate carries
the value its path leads to.

The main result is that this holds of all issues at any depth of a failure,
as long as preparing does not change the input and a custom check reports
about the value it is given.
-/


namespace Conform

/-- The value that steps lead to: names of fields are keys of objects, and
positions are positions in arrays. -/
def Value.at? : Value → List Segment → Option Value
  | value, [] => some value
  | .object members, .field name :: rest =>
    (Members.get? members name).bind fun value => value.at? rest
  | .array items, .index i :: rest => items[i]?.bind fun value => value.at? rest
  | _, _ :: _ => none

namespace Issue

/-- What the path of an issue promises about the input. The issue stands the
steps below the path of the input. -/
structure LocatedAt (value : Value) (path : Path) (steps : List Segment) (issue : Issue) :
    Prop where
  path_eq : issue.path = path ++ ⟨steps⟩
  /-- Except where something is missing, a value stands there. -/
  present : issue.kind ≠ .required → ∃ found, value.at? steps = some found
  /-- Where something is missing, an object lacks the key. -/
  missing : issue.kind = .required → ∃ before name members,
    steps = before ++ [.field name] ∧ value.at? before = some (.object members) ∧
      Members.get? members name = none
  /-- An aggregate is about the value that stands there. -/
  relayed : issue.kind = .aggregate → issue.value = value.at? steps

/-- The path of an issue is right about the input. -/
def Located (value : Value) (path : Path) (issue : Issue) : Prop :=
  ∃ steps, issue.LocatedAt value path steps

variable {value part : Value} {path : Path} {issue : Issue}

theorem append_root (path : Path) : path ++ (⟨[]⟩ : Path) = path :=
  congrArg Path.mk (List.append_nil path.segments)

theorem push_append (path : Path) (s : Segment) (steps : List Segment) :
    path.push s ++ (⟨steps⟩ : Path) = path ++ (⟨s :: steps⟩ : Path) :=
  congrArg Path.mk (List.append_assoc path.segments [s] steps)

/-- A finding about the input itself stands at its path. -/
theorem DirectAt.located (h : issue.DirectAt path) (value : Value) : issue.Located value path := by
  have hkind : issue.kind ≠ .required ∧ issue.kind ≠ .aggregate := by
    rcases h.kind_eq with hkind | hkind <;> simp [hkind]
  exact ⟨[], by rw [append_root, h.path_eq], fun _ => ⟨value, rfl⟩,
    fun hrequired => absurd hrequired hkind.1, fun haggregate => absurd haggregate hkind.2⟩

/-- An aggregate about the input stands at its path. -/
theorem located_of_relays (hpath : issue.path = path) (hkind : issue.kind = .aggregate)
    (hvalue : issue.value = some value) : issue.Located value path := by
  refine ⟨[], by rw [append_root, hpath], fun _ => ⟨value, rfl⟩, fun hrequired => ?_, fun _ => hvalue⟩
  rw [hkind] at hrequired
  cases hrequired

/-- A key that an object lacks is missing one step below it. -/
theorem located_required {members : Members} {name : String}
    (h : Members.get? members name = none) (path : Path) :
    (required (path.field name)).Located (.object members) path := by
  refine ⟨[.field name], ?_, fun hkind => absurd rfl hkind, fun _ => ?_, nofun⟩
  · rfl
  · exact ⟨[], name, members, rfl, rfl, h⟩

/-- What is right about a part is right about the whole, one step further. -/
theorem Located.step {s : Segment} (h : issue.Located part (path.push s))
    (hpart : ∀ steps, value.at? (s :: steps) = part.at? steps) : issue.Located value path := by
  obtain ⟨steps, hlocated⟩ := h
  refine ⟨s :: steps, ?_, ?_, ?_, ?_⟩
  · rw [hlocated.path_eq, push_append]
  · rw [hpart]
    exact hlocated.present
  · intro hkind
    obtain ⟨before, name, members, rfl, hbefore, hname⟩ := hlocated.missing hkind
    exact ⟨s :: before, name, members, rfl, by rw [hpart, hbefore], hname⟩
  · rw [hpart]
    exact hlocated.relayed

theorem Located.field {members : Members} {name : String}
    (h : issue.Located part (path.field name)) (hpart : Members.get? members name = some part) :
    issue.Located (.object members) path :=
  h.step fun steps => by rw [Value.at?, hpart, Option.bind_some]

theorem Located.index {items : List Value} {i : Nat} (hi : i < items.length)
    (h : issue.Located items[i] (path.index i)) : issue.Located (.array items) path :=
  h.step fun steps => by rw [Value.at?, List.getElem?_eq_getElem hi, Option.bind_some]

/-- All issues of a tree stand where they say. -/
def TreeLocated (value : Value) (path : Path) (root : Issue) : Prop :=
  ∀ issue ∈ root.nodes, issue.Located value path

theorem DirectAt.treeLocated (h : issue.DirectAt path) (value : Value) :
    issue.TreeLocated value path := by
  intro other hother
  rcases mem_nodes_iff.1 hother with rfl | ⟨sub, hsub, -⟩
  · exact h.located value
  · rw [h.sub_eq] at hsub
    cases hsub

/-- A relaying issue is as right as the issues it relays. -/
theorem treeLocated_of_relays (hpath : issue.path = path) (hkind : issue.kind = .aggregate)
    (hvalue : issue.value = some value) (hsub : ∀ root ∈ issue.sub, root.TreeLocated value path) :
    issue.TreeLocated value path := by
  intro other hother
  rcases mem_nodes_iff.1 hother with rfl | ⟨root, hroot, hmem⟩
  · exact located_of_relays hpath hkind hvalue
  · exact hsub root hroot other hmem

end Issue

/-- Places are handed on: a place in a part is a place in the whole. -/
theorem inherited_treeLocated : Issue.Inherited fun value path root => root.TreeLocated value path where
  direct h := h.treeLocated _
  missing h issue hissue := by
    rcases Issue.mem_nodes_iff.1 hissue with rfl | ⟨sub, hsub, -⟩
    · exact Issue.located_required h _
    · cases hsub
  field hmember h issue hissue := (h issue hissue).field hmember
  index hi h issue hissue := (h issue hissue).index hi
  relays h := Issue.treeLocated_of_relays h.path_eq h.kind_eq h.value_eq

/-! ## Schemas -/

/-- The failures of a step are right about its input. -/
def Locates {α : Type} (step : Value → Path → Checked α) : Prop :=
  ∀ ⦃value path found⦄, step value path = .error found →
    ∀ root ∈ found.toList, root.TreeLocated value path

/-- The modifiers do not change the input before the step, and the issues of the
custom check are about the value at the path it is given. -/
structure Modifiers.InPlace {α : Type} (m : Modifiers α) : Prop where
  prepare : m.prepare = none
  custom : ∀ check, m.custom = some check → ∀ output path found,
    check output path = .error found → ∀ issue ∈ found.toList, issue.DirectAt path

/-- The modifiers of the node leave places right. -/
def Schema.IsInPlace (s : Schema) : Prop := s.HasModifiers fun m => m.InPlace

theorem Modifiers.InPlace.keeps {α : Type} {m : Modifiers α} (hm : m.InPlace) :
    m.Keeps fun value path root => root.TreeLocated value path where
  prepare {value} _ _ h := by
    have hprepared : m.prepared value = value := by simp [prepared, hm.prepare]
    rwa [hprepared] at h
  custom := hm.custom

theorem Schema.IsInPlace.keeps {s : Schema} (h : s.IsInPlace) :
    s.Keeps fun value path root => root.TreeLocated value path := by
  cases s <;> exact Modifiers.InPlace.keeps h

namespace Family

variable {family : Family} {today : Int} {s : Schema}

/-- **Places are right.** Inside any number of lazy nodes, every issue of a
failure stands where its path says. -/
theorem locates (hfamily : ∀ target, (family target).Every Schema.IsInPlace) (scope : Scope)
    (hs : s.Every Schema.IsInPlace) : Locates (s.validator (family.env today scope)).present :=
  failsWith inherited_treeLocated (fun target => (hfamily target).mono fun _ => Schema.IsInPlace.keeps)
    scope (hs.mono fun _ => Schema.IsInPlace.keeps)

/-- **Every place exists.** Where present input fails, every issue at any depth
has a path that goes on from the path of the input by steps to a value in
the input, or to a key that an object in the input lacks if the issue says
that something is missing. An aggregate carries the value its steps lead
to. -/
theorem located_of_parse_eq_error
    (hfamily : ∀ target, (family target).Every Schema.IsInPlace) (hs : s.Every Schema.IsInPlace)
    {value : Value} {path : Path} {found : Issues}
    (hfound : (family.validator today s).parse (some value) path = .error found) :
    ∀ issue ∈ Issue.nodesOf found.toList, issue.Located value path := by
  rw [Validator.parse_some, Checked.map_eq_error_iff] at hfound
  intro issue hissue
  rw [Issue.nodesOf_eq_flatMap] at hissue
  obtain ⟨root, hroot, hmem⟩ := List.mem_flatMap.1 hissue
  exact locates hfamily .outside hs hfound root hroot issue hmem

/-- A part may have at most so many members. -/
def fewMembers (most : Nat) : Modifiers Members :=
  ({} : Modifiers Members).refine (fun members => members.length ≤ most) "too many members"

theorem inPlace_fewMembers (most : Nat) : (fewMembers most).InPlace where
  prepare := rfl
  custom := by
    intro check hcheck members path found hfound issue hissue
    obtain rfl := Option.some.inj hcheck
    replace hfound : Modifiers.refinement _ _ members path = .error found := hfound
    unfold Modifiers.refinement at hfound
    split at hfound
    · cases hfound
    · obtain rfl := Checked.fail_eq_error_iff.1 hfound
      rw [List.mem_singleton.1 hissue]
      exact ⟨rfl, rfl, .inr rfl⟩

/-- Every place in the report about a piece of scrap exists. -/
theorem located_scrap :
    (∀ target, (machines (fewMembers 3) target).Every Schema.IsInPlace) ∧
      (Schema.part (fewMembers 3)).Every Schema.IsInPlace ∧
      ∃ found, (validator (machines (fewMembers 3)) 0 (Schema.part (fewMembers 3))).parse
          (some .scrap) (Path.root.field "yard") = .error found ∧
        ∀ issue ∈ Issue.nodesOf found.toList, issue.Located .scrap (Path.root.field "yard") := by
  have hpart : (Schema.part (fewMembers 3)).Every Schema.IsInPlace := by
    apply Schema.every_part
    · exact inPlace_fewMembers 3
    all_goals exact ⟨rfl, nofun⟩
  have hfamily : ∀ target, (machines (fewMembers 3) target).Every Schema.IsInPlace :=
    fun _ => hpart
  refine ⟨hfamily, hpart, ?_⟩
  have hfails : ((validator (machines (fewMembers 3)) 0 (Schema.part (fewMembers 3))).parse
      (some .scrap) (Path.root.field "yard")).passed = false := rfl
  cases hresult : (validator (machines (fewMembers 3)) 0 (Schema.part (fewMembers 3))).parse
      (some .scrap) (Path.root.field "yard") with
  | ok output =>
    rw [hresult] at hfails
    cases hfails
  | error found => exact ⟨found, rfl, located_of_parse_eq_error hfamily hpart hresult⟩

end Family

end Conform
