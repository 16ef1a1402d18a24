import Conform.Proofs.Correspondence
/-!
# Schema — every rule keeps a correspondence

One lemma for each rule: on inputs that correspond, at paths that
correspond, its results agree if those of its children do. A rule hardly
looks at the input itself. Where it does, to count elements or to find
undeclared keys, inputs of the same outer form look alike.

The main result puts the rules together. It is proved once for all
correspondences and goes through lazy nodes.
-/


namespace Conform

namespace Correspondence

variable {C : Correspondence} {a a' : Value} {p p' : Path}

/-! ## Leaves -/

/-- A number is written as a number, or as null. -/
theorem isScalar_toValue (n : Binary64) : n.toValue.isScalar = true := by
  unfold Binary64.toValue
  split
  · split <;> rfl
  · rfl

theorem respectsStep_text (r : TextRule) (strict : Bool) : C.RespectsStep (r.check strict) := by
  refine respectsStep_of_scalar "string" r.constraints.typeMessage (fun _ _ => rfl)
    (fun _ _ => rfl) fun a p p' ha hp => ?_
  have hmismatch := left_typeMismatch (C.scalar ha) hp "string" r.constraints.typeMessage
  have hread : C.Agree (r.read strict a p) (r.read strict a p') := by
    cases a with
    | string s => exact agree_ok s
    | number n =>
      cases strict with
      | true => exact agree_fail hmismatch
      | false => exact agree_ok n.text
    | boolean b =>
      cases strict with
      | true => exact agree_fail hmismatch
      | false => exact agree_ok _
    | _ => exact agree_fail hmismatch
  refine hread.bind fun s => agree_verify fun c message => ?_
  unfold TextConstraint.issue?
  cases c.holds (r.transform s) with
  | true => rfl
  | false => exact congrArg some (left_refinement (C.scalar rfl) hp _ _ _)

theorem respectsStep_number (r : NumberRule) (strict : Bool) : C.RespectsStep (r.check strict) := by
  refine respectsStep_of_scalar "number" r.constraints.typeMessage (fun _ _ => rfl)
    (fun _ _ => rfl) fun a p p' ha hp => ?_
  have hmismatch : C.Agree (NumberRule.read.mismatch r a p) (NumberRule.read.mismatch r a p') :=
    agree_fail (left_typeMismatch (C.scalar ha) hp "number" r.constraints.typeMessage)
  have hread : C.Agree (r.read strict a p) (r.read strict a p') := by
    unfold NumberRule.read
    dsimp only
    split
    · split
      · exact hmismatch
      · exact agree_ok _
    · exact hmismatch
  refine hread.bind fun n => agree_verify fun c message => ?_
  have hvalue : ((r.transform n).toValue).isScalar = true := isScalar_toValue _
  unfold NumberConstraint.issue?
  cases c.holds (r.transform n) with
  | true => rfl
  | false =>
    cases c.isTypeConstraint with
    | true => exact congrArg some (left_typeMismatch (C.scalar hvalue) hp _ _)
    | false => exact congrArg some (left_refinement (C.scalar hvalue) hp _ _ _)

theorem respectsStep_boolean (r : BooleanRule) (strict : Bool) :
    C.RespectsStep (r.check strict) := by
  refine respectsStep_of_scalar "boolean" none (fun _ _ => rfl) (fun _ _ => rfl)
    fun a p p' ha hp => ?_
  unfold BooleanRule.check
  cases BooleanRule.read? strict a with
  | none => exact agree_fail (left_typeMismatch (C.scalar ha) hp "boolean" none)
  | some b =>
    cases r.wanted with
    | none => exact agree_ok b
    | some wanted =>
      dsimp only
      by_cases hwanted : wanted = b
      · rw [if_pos hwanted, if_pos hwanted]
        exact agree_ok b
      · rw [if_neg hwanted, if_neg hwanted]
        cases wanted <;> exact agree_fail (left_refinement (C.scalar ha) hp _ _ none)

theorem respectsStep_date (r : DateRule) (today : Int) (strict : Bool) :
    C.RespectsStep (r.check today strict) := by
  refine respectsStep_of_scalar "date" none (fun _ _ => rfl) (fun _ _ => rfl)
    fun a p p' ha hp => ?_
  unfold DateRule.check
  cases DateRule.read? strict a with
  | none => exact agree_fail (left_typeMismatch (C.scalar ha) hp "date" none)
  | some t =>
    cases hshifted : r.shifted? t with
    | none =>
      simp only [hshifted]
      exact agree_fail (left_refinement (C.scalar ha) hp _ _ none)
    | some t =>
      simp only [hshifted]
      have hissue (c : DateConstraint) :
          (c.issue? today t p).map C.left = (c.issue? today t p').map C.right := by
        unfold DateConstraint.issue?
        cases c.holds today t with
        | true => rfl
        | false => exact congrArg some (left_refinement (C.scalar rfl) hp _ _ _)
      exact agree_unless t (map_findSome?_eq hissue r.constraints)

/-! ## Objects -/

/-- Where undeclared keys are copied, inputs that correspond are the same. -/
def CopiesSame (C : Correspondence) (mode : UnknownKeys) : Prop :=
  mode = .loose → ∀ ⦃a a'⦄, C.value a a' → a = a'

section Fields

variable {fields : List (String × Validator)} {g g' : String × Validator → Checked (Option Value)}

/-- Fields that agree one by one have the same outputs. -/
theorem fieldOutputs_eq (h : ∀ field ∈ fields, C.Agree (g field) (g' field)) :
    ObjectShape.fieldOutputs (fields.map fun field => (field.1, g field)) =
      ObjectShape.fieldOutputs (fields.map fun field => (field.1, g' field)) := by
  induction fields with
  | nil => rfl
  | cons field rest ih =>
    have hrest := ih fun other hother => h other (List.mem_cons_of_mem _ hother)
    unfold ObjectShape.fieldOutputs at hrest ⊢
    rw [List.map_cons, List.map_cons, List.filterMap_cons, List.filterMap_cons, hrest]
    rcases agree_iff.1 (h field List.mem_cons_self) with
      ⟨output, hleft, hright⟩ | ⟨found, found', hleft, hright, -⟩ <;> rw [hleft, hright]

/-- Their issues become the same. -/
theorem map_fieldIssues_eq (h : ∀ field ∈ fields, C.Agree (g field) (g' field)) :
    (ObjectShape.fieldIssues (fields.map fun field => (field.1, g field))).map C.left =
      (ObjectShape.fieldIssues (fields.map fun field => (field.1, g' field))).map C.right := by
  induction fields with
  | nil => rfl
  | cons field rest ih =>
    have hrest := ih fun other hother => h other (List.mem_cons_of_mem _ hother)
    unfold ObjectShape.fieldIssues at hrest ⊢
    rw [List.map_cons, List.map_cons, List.flatMap_cons, List.flatMap_cons, List.map_append,
      List.map_append, hrest, (h field List.mem_cons_self).issues_map_eq]

end Fields

theorem keys_unknownMembers {σ : Type} (s : ObjectShape σ) (members : Members) :
    (s.unknownMembers members).keys = members.keys.filter fun key => !s.declares key := by
  unfold ObjectShape.unknownMembers Members.keys
  rw [List.filter_map]
  rfl

/-- Objects with the same keys have the same undeclared ones, in some order. -/
theorem map_unknownIssues_eq {σ : Type} (s : ObjectShape σ) {members members' : Members}
    (ha : C.value (.object members) (.object members')) (hkeys : members.keys.Perm members'.keys)
    (hp : C.path p p') :
    (s.unknownIssues (s.unknownMembers members) p).map C.left =
      (s.unknownIssues (s.unknownMembers members') p').map C.right := by
  have hissue := C.unknownKeys (fun key => !s.declares key) hp ha
  have hunknown := hkeys.filter fun key => !s.declares key
  rw [← keys_unknownMembers, ← keys_unknownMembers] at hissue hunknown
  unfold ObjectShape.unknownIssues
  cases s.unknownKeys with
  | loose => rfl
  | strip => rfl
  | strict =>
    cases hleft : s.unknownMembers members <;> cases hright : s.unknownMembers members' <;>
      rw [hleft, hright] at hissue hunknown
    · rfl
    · exact absurd hunknown.length_eq (by simp [Members.keys])
    · exact absurd hunknown.length_eq (by simp [Members.keys])
    · exact congrArg (fun issue => [issue]) hissue

theorem respectsStep_object {s : ObjectShape Validator}
    (hfields : ∀ name child, (name, child) ∈ s.fields → C.Respects child)
    (hmode : C.CopiesSame s.unknownKeys) : C.RespectsStep s.check := by
  intro a a' p p' ha hp
  have hmismatch := left_typeMismatch ha hp "object" s.typeMessage
  cases C.sameForm ha with
  | scalar hscalar =>
    cases a with
    | object => cases hscalar
    | _ => exact agree_fail hmismatch
  | array => exact agree_fail hmismatch
  | @object members members' hkeys hget =>
    have hresults : ∀ field ∈ s.fields,
        C.Agree (field.2.parse (members.get? field.1) (p.field field.1))
          (field.2.parse (members'.get? field.1) (p'.field field.1)) := fun field hfield =>
      (hfields field.1 field.2 hfield).parse (hget field.1) (C.push _ hp)
    have houtput : s.unknownOutput (s.unknownMembers members) =
        s.unknownOutput (s.unknownMembers members') := by
      unfold ObjectShape.unknownOutput
      cases hloose : s.unknownKeys with
      | loose => rw [Value.object.inj (hmode hloose ha)]
      | strict => rfl
      | strip => rfl
    show C.Agree (s.conclude members p _) (s.conclude members' p' _)
    unfold ObjectShape.conclude
    dsimp only
    rw [show ObjectShape.fieldOutputs (s.fieldResults members p) =
      ObjectShape.fieldOutputs (s.fieldResults members' p') from fieldOutputs_eq hresults, houtput]
    refine (agree_settle ?_).wrap fun sub sub' hsub =>
      left_aggregate ha hp hsub fun n => s!"Object validation failed with {n} issue(s)"
    rw [List.map_append, List.map_append, map_unknownIssues_eq s ha hkeys hp]
    exact congrArg (· ++ _) (map_fieldIssues_eq hresults)

/-! ## Arrays and tuples -/

theorem map_positions_eq {children : List Validator} {items items' : List Value}
    (hchildren : ∀ child ∈ children, C.Respects child) (hlength : items.length = items'.length)
    (hitems : ∀ (i : Nat) (h : i < items.length) (h' : i < items'.length), C.value items[i] items'[i])
    (hp : C.path p p') :
    (Tuple.positions children items p).map (Checked.mapIssues C.left) =
      (Tuple.positions children items' p').map (Checked.mapIssues C.right) := by
  refine List.ext_getElem (by simp [Tuple.positions, hlength]) fun i hi hi' => ?_
  have hchild : i < children.length := by simp [Tuple.positions] at hi; omega
  have hitem : i < items.length := by simp [Tuple.positions] at hi; omega
  rw [List.getElem_map, List.getElem_map, Tuple.getElem_positions _ hchild hitem,
    Tuple.getElem_positions _ hchild (hlength ▸ hitem)]
  exact (hchildren _ (List.getElem_mem hchild)).present (hitems i hitem (hlength ▸ hitem)) (C.push _ hp)

theorem map_lengthIssues_eq (r : ArrayRule) (length : Nat) (ha : C.value a a') (hp : C.path p p') :
    (r.lengthIssues length a p).map C.left = (r.lengthIssues length a' p').map C.right := by
  unfold ArrayRule.lengthIssues
  rw [List.map_flatMap, List.map_flatMap]
  congr 1
  funext ⟨constraint, message⟩
  cases constraint with
  | unique => rfl
  | uniqueBy => rfl
  | minLength | maxLength | length =>
    simp only [ArrayConstraint.lengthIssues]
    split
    · rfl
    · exact congrArg (fun issue => [issue]) (left_refinement ha hp _ _ _)

theorem map_uniquenessIssues_eq (r : ArrayRule) (outputs : List Value) (ha : C.value a a')
    (hp : C.path p p') :
    (r.uniquenessIssues outputs a p).map C.left = (r.uniquenessIssues outputs a' p').map C.right := by
  unfold ArrayRule.uniquenessIssues
  rw [List.map_flatMap, List.map_flatMap]
  congr 1
  funext ⟨constraint, message⟩
  dsimp only [ArrayConstraint.uniquenessIssues]
  split
  · rw [List.map_map, List.map_map]
    exact congrArg (List.map · _) (funext fun indices => left_refinement ha hp _ _ none)
  · rfl

theorem respectsStep_array (r : ArrayRule) {item : Validator} (hitem : C.Respects item) :
    C.RespectsStep (r.check item) := by
  intro a a' p p' ha hp
  have hmismatch := left_typeMismatch ha hp "array" r.typeMessage
  cases C.sameForm ha with
  | scalar hscalar =>
    cases a with
    | array => cases hscalar
    | _ => exact agree_fail hmismatch
  | object => exact agree_fail hmismatch
  | @array items items' hlength hitems =>
    have hresults : (item.onItems items p).map (Checked.mapIssues C.left) =
        (item.onItems items' p').map (Checked.mapIssues C.right) := by
      rw [Validator.onItems_eq_positions, Validator.onItems_eq_positions, ← hlength]
      refine map_positions_eq (fun child hchild => ?_) hlength hitems hp
      rw [List.eq_of_mem_replicate hchild]
      exact hitem
    have hissues := map_lengthIssues_eq r items.length ha hp
    show C.Agree (r.conclude items p _) (r.conclude items' p' _)
    unfold ArrayRule.conclude
    rw [← hlength]
    rcases agree_iff.1 (agree_collect hresults) with
      ⟨outputs, hleft, hright⟩ | ⟨sub, sub', hleft, hright, hsub⟩
    · rw [hleft, hright]
      refine agree_settle ?_
      rw [List.map_append, List.map_append, hissues, map_uniquenessIssues_eq r outputs ha hp]
    · rw [hleft, hright]
      refine agree_settle ?_
      rw [List.map_append, List.map_append, hissues]
      exact congrArg (fun issue => _ ++ [issue])
        (left_aggregate ha hp hsub fun n => s!"Array validation failed with {n} issue(s)")

theorem respectsStep_tuple (kind : TupleKind) {children : List Validator}
    (hchildren : ∀ child ∈ children, C.Respects child) : C.RespectsStep (Tuple.check kind children) := by
  intro a a' p p' ha hp
  have hmismatch := left_typeMismatch ha hp "array" none
  cases C.sameForm ha with
  | scalar hscalar =>
    cases a with
    | array => cases hscalar
    | _ => exact agree_fail hmismatch
  | object => exact agree_fail hmismatch
  | @array items items' hlength hitems =>
    show C.Agree (if items.length = children.length then _ else _)
      (if items'.length = children.length then _ else _)
    unfold Tuple.lengthIssue
    rw [← hlength]
    by_cases harity : items.length = children.length
    · rw [if_pos harity, if_pos harity]
      unfold Tuple.conclude
      rw [Tuple.combine_eq_collect, Tuple.combine_eq_collect]
      refine (agree_collect (map_positions_eq hchildren hlength hitems hp)).wrap
        fun sub sub' hsub =>
          left_aggregate ha hp hsub fun n => s!"Tuple validation failed with {n} issue(s)"
    · rw [if_neg harity, if_neg harity]
      exact agree_fail (left_refinement ha hp _ _ _)

/-! ## Unions and wrappers -/

/-- Both attempts have the same output, or both have issues that become the same. -/
theorem exists_of_mapError_eq {result result' : Except (List Issue) Value}
    (h : result.mapError (List.map C.left) = result'.mapError (List.map C.right)) :
    (∃ output, result = .ok output ∧ result' = .ok output) ∨
      ∃ list list', result = .error list ∧ result' = .error list' ∧
        list.map C.left = list'.map C.right := by
  cases result <;> cases result'
  · exact .inr ⟨_, _, rfl, rfl, Except.error.inj h⟩
  · nomatch h
  · nomatch h
  · obtain rfl := Except.ok.inj h
    exact .inl ⟨_, rfl, rfl⟩

theorem mapError_firstOutput_eq {alternatives : List Validator}
    (h : ∀ alternative ∈ alternatives, C.Respects alternative) (ha : C.value a a')
    (hp : C.path p p') :
    (Union.firstOutput alternatives a p).mapError (List.map C.left) =
      (Union.firstOutput alternatives a' p').mapError (List.map C.right) := by
  induction alternatives with
  | nil => rfl
  | cons first rest ih =>
    have hrest := ih fun other hother => h other (List.mem_cons_of_mem _ hother)
    rw [Union.firstOutput, Union.firstOutput]
    rcases agree_iff.1 ((h first List.mem_cons_self).present ha hp) with
      ⟨output, hleft, hright⟩ | ⟨found, found', hleft, hright, hfound⟩
    · rw [hleft, hright]
      rfl
    · rw [hleft, hright]
      rcases exists_of_mapError_eq hrest with
        ⟨output, hl, hr⟩ | ⟨list, list', hl, hr, hlist⟩ <;> simp only [hl, hr]
      · rfl
      · refine congrArg Except.error ?_
        rw [List.map_append, List.map_append, hlist]
        exact congrArg (· ++ _) (congrArg Issues.toList hfound)

theorem left_failure (count : Nat) (ha : C.value a a') (hp : C.path p p') {sub sub' : List Issue}
    (hsub : sub.map C.left = sub'.map C.right) :
    C.left (Union.failure count p a sub) = C.right (Union.failure count p' a' sub') := by
  unfold Union.failure
  cases sub <;> cases sub' <;> simp only [List.map_nil, List.map_cons, reduceCtorEq] at hsub
  · exact left_refinement ha hp _ _ none
  · exact C.issue _ _ _ _ hp (.some ha) hsub

theorem respectsStep_union {alternatives : List Validator}
    (h : ∀ alternative ∈ alternatives, C.Respects alternative) :
    C.RespectsStep (Union.check alternatives) := by
  intro a a' p p' ha hp
  unfold Union.check
  rcases exists_of_mapError_eq (mapError_firstOutput_eq h ha hp) with
    ⟨output, hl, hr⟩ | ⟨list, list', hl, hr, hlist⟩ <;> rw [hl, hr]
  · exact agree_ok output
  · exact agree_fail (left_failure _ ha hp hlist)

theorem respects_optional {modifiers : Modifiers Value} (hm : C.Preserves modifiers)
    {inner : Validator} (hinner : C.Respects inner) :
    C.Respects (.optional modifiers inner) where
  absent := by
    intro p p' hp
    unfold Validator.optional
    cases modifiers.fallback with
    | some output => exact agree_ok _
    | none =>
      -- a wrapper says nothing of how its child refuses absence
      rcases agree_iff.1 (hinner.absent hp) with
        ⟨output, hleft, hright⟩ | ⟨found, found', hleft, hright, -⟩ <;>
      · simp only [hleft, hright]
        exact agree_ok _
  present := (hm.validator hinner.present id).present

end Correspondence

/-! ## Schemas -/

/-- The modifiers of the node preserve the correspondence, and an object that
copies undeclared keys finds the same ones. -/
def Schema.IsPreserving (C : Correspondence) (s : Schema) : Prop :=
  s.HasModifiers (fun m => C.Preserves m) ∧
    match s with
    | object shape => C.CopiesSame shape.unknownKeys
    | _ => True

namespace Family

open Correspondence

variable {C : Correspondence} {family : Family} {today : Int}

/-- **Runs that correspond agree.** Inside any number of lazy nodes, a schema
whose modifiers preserve a correspondence keeps it. -/
theorem respects (hfamily : ∀ target, (family target).Every (Schema.IsPreserving C)) (scope : Scope)
    {s : Schema} (hs : s.Every (Schema.IsPreserving C)) :
    C.Respects (s.validator (family.env today scope)) := by
  refine induction (motive := fun scope s => C.Respects (s.validator (family.env today scope)))
    hfamily ?_ scope hs
  intro scope s hs resolved
  induction hs with
  | text h => exact Preserves.validator h.1 (respectsStep_text ..) _
  | number h => exact Preserves.validator h.1 (respectsStep_number ..) _
  | boolean h => exact Preserves.validator h.1 (respectsStep_boolean ..) _
  | date h => exact Preserves.validator h.1 (respectsStep_date ..) _
  | enumeration h =>
    exact Preserves.validator h.1 (fun _ _ _ _ ha hp => C.enumeration _ _ hp ha) _
  | object h _ ih =>
    rw [Schema.validator_object]
    exact Preserves.validator h.1
      (respectsStep_object (ObjectShape.forall_fields_mapChildren ih) h.2) _
  | array h _ ih => exact Preserves.validator h.1 (respectsStep_array _ ih) _
  | tuple h _ ih =>
    rw [Schema.validator_tuple]
    exact Preserves.validator h.1 (respectsStep_tuple _ (List.forall_mem_map.2 ih)) _
  | union h _ ih =>
    rw [Schema.validator_union]
    exact Preserves.validator h.1 (respectsStep_union (List.forall_mem_map.2 ih)) _
  | optional h _ ih => exact respects_optional h.1 ih
  | @lazy target limit modifiers h =>
    refine Preserves.validator h.1 ?_ id
    by_cases hdepth : scope.depth < scope.limitAt limit
    · show C.RespectsStep (family.resolve today scope target limit)
      rw [resolve_of_lt hdepth]
      exact (resolved target limit hdepth).present
    · intro a a' p p' ha hp
      show C.Agree (family.resolve today scope target limit a p)
        (family.resolve today scope target limit a' p')
      rw [resolve_of_not_lt hdepth, resolve_of_not_lt hdepth]
      exact agree_fail (left_refinement ha hp _ _ none)

end Family

end Conform
