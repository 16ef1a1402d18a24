import Conform.Proofs.Induction
import Conform.Proofs.Composite
/-!
# Limit — what a higher limit adds

A lazy node that is stopped fails, and in a schema without unions a failure
is never made good: it fails the whole run, because wrappers only excuse
absent input, which no lazy node resolves. So a run that passes was stopped
nowhere, and higher limits leave it as it is. `Validator.Extends` says this of
a validator and another one that has higher limits in it; every rule but that
of unions hands it on from the parts to the whole.
-/


namespace Conform

/-! ## Extending a validator -/

/-- The second validator treats absent input alike and passes where the first does, with
the same output. -/
structure Validator.Extends (v wide : Validator) : Prop where
  absent : wide.absent = v.absent
  present : Widens v.present wide.present

theorem Validator.Extends.parse {v wide : Validator} (h : v.Extends wide) {input output : Option Value}
    {path : Path} (hparse : v.parse input path = .ok output) : wide.parse input path = .ok output := by
  cases input with
  | none =>
    rw [parse_none, h.absent]
    exact hparse
  | some value =>
    obtain ⟨result, hresult, rfl⟩ := Checked.map_eq_ok_iff.1 hparse
    rw [parse_some, h.present hresult]
    rfl

/-- Modifiers hand it on from the step. -/
theorem Modifiers.extends_validator {α : Type} (m : Modifiers α)
    {step wide : Value → Path → Checked α} (h : Widens step wide) (toValue : α → Value) :
    (m.validator step toValue).Extends (m.validator wide toValue) where
  absent := rfl
  present value path output hpresent := by
    rw [validator_present, Checked.map_eq_ok_iff] at hpresent ⊢
    obtain ⟨a, ha, rfl⟩ := hpresent
    refine ⟨a, ?_, rfl⟩
    obtain ⟨b, c, hstep, hchecked, hfinished⟩ := conclude_eq_ok_iff.1 ha
    exact conclude_eq_ok_iff.2 ⟨b, c, h hstep, hchecked, hfinished⟩

/-! ## Rules -/

theorem ArrayRule.widens_check (r : ArrayRule) {item wide : Validator} (h : item.Extends wide) :
    Widens (r.check item) (r.check wide) := by
  intro value path output hcheck
  cases value with
  | array items =>
    obtain ⟨outputs, houtputs, hrest⟩ := conclude_eq_ok_iff.1 hcheck
    obtain ⟨hlength, hpass⟩ := Validator.onItems_eq_map_ok_iff.1 houtputs
    refine conclude_eq_ok_iff.2 ⟨outputs, Validator.onItems_eq_map_ok_iff.2 ⟨hlength, ?_⟩, hrest⟩
    exact fun i hitem houtput => h.present (hpass i hitem houtput)
  | _ => exact hcheck

theorem Tuple.widens_check (kind : TupleKind) {children wides : List Validator}
    (hlength : children.length = wides.length)
    (h : ∀ (i : Nat) (hi : i < children.length) (hi' : i < wides.length),
      children[i].Extends wides[i]) :
    Widens (check kind children) (check kind wides) := by
  intro value path outputs hcheck
  obtain ⟨items, rfl, hitems, houtputs, hpass⟩ := check_eq_ok_iff.1 hcheck
  refine check_eq_ok_iff.2 ⟨items, rfl, hitems.trans hlength, hlength.symm.trans houtputs, ?_⟩
  intro i hchild hitem houtput
  have hi : i < children.length := hlength ▸ hchild
  exact (h i hi hchild).present (hpass i hi hitem houtput)

theorem Validator.extends_optional (m : Modifiers Value) {inner wide : Validator}
    (h : inner.Extends wide) : (Validator.optional m inner).Extends (.optional m wide) where
  absent := by
    unfold optional
    rw [h.absent]
  present := (m.extends_validator h.present id).present

namespace ObjectShape

variable {s wide : ObjectShape Validator} {members : Members} {path : Path}

/-- Where all fields pass, wider children in their place have the same results. -/
theorem fieldResults_eq_of_extends (hkeys : s.keys = wide.keys)
    (h : ∀ (i : Nat) (hi : i < s.fields.length) (hi' : i < wide.fields.length),
      s.fields[i].2.Extends wide.fields[i].2)
    (hissues : fieldIssues (s.fieldResults members path) = []) :
    wide.fieldResults members path = s.fieldResults members path := by
  have hlength : wide.fields.length = s.fields.length := by
    simpa [keys] using (congrArg List.length hkeys).symm
  refine List.ext_getElem (by simpa [fieldResults] using hlength) fun i hi' hi => ?_
  have hi : i < s.fields.length := by simpa [fieldResults] using hi
  have hi' : i < wide.fields.length := hlength ▸ hi
  have hname : s.fields[i].1 = wide.fields[i].1 := by
    have hkey := List.getElem_of_eq hkeys (by simpa [keys] using hi)
    simpa [keys] using hkey
  have hpass : (s.fields[i].2.parse (members.get? s.fields[i].1) (path.field s.fields[i].1)).issues =
      [] := by
    rw [fieldIssues_eq_flatMap, List.flatMap_eq_nil_iff] at hissues
    exact hissues _ (List.mem_map_of_mem (List.getElem_mem hi))
  obtain ⟨output, houtput⟩ := Checked.issues_eq_nil_iff.1 hpass
  simp only [fieldResults, List.getElem_map, ← hname, houtput, (h i hi hi').parse houtput]

theorem widens_check (hkeys : s.keys = wide.keys) (hmode : s.unknownKeys = wide.unknownKeys)
    (h : ∀ (i : Nat) (hi : i < s.fields.length) (hi' : i < wide.fields.length),
      s.fields[i].2.Extends wide.fields[i].2) :
    Widens s.check wide.check := by
  intro value path output hcheck
  cases value with
  | object members =>
    have hissues : fieldIssues (s.fieldResults members path) = [] := (conclude_eq_ok_iff.1 hcheck).1
    show wide.conclude members path (wide.fieldResults members path) = .ok output
    rw [fieldResults_eq_of_extends hkeys h hissues, ← conclude_congr hkeys hmode]
    exact hcheck
  | _ => cases hcheck

end ObjectShape

/-! ## Schemas -/

/-- Lazy nodes pass where they did before with the same output, and so do those with a
higher limit. -/
structure Env.Extends (env wide : Env) : Prop where
  today : wide.today = env.today
  resolve : ∀ target {limit limit' : Nat}, limit ≤ limit' →
    Widens (env.resolve target limit) (wide.resolve target limit')

namespace Schema

/-- The second schema is the first but for the limits of lazy nodes, which may be higher. -/
inductive Raised : Schema → Schema → Prop
  | text {rule modifiers} : Raised (.text rule modifiers) (.text rule modifiers)
  | number {rule modifiers} : Raised (.number rule modifiers) (.number rule modifiers)
  | boolean {rule modifiers} : Raised (.boolean rule modifiers) (.boolean rule modifiers)
  | date {rule modifiers} : Raised (.date rule modifiers) (.date rule modifiers)
  | enumeration {rule modifiers} :
      Raised (.enumeration rule modifiers) (.enumeration rule modifiers)
  | object {shape : ObjectShape Schema} {fields : List (String × Schema)} :
      shape.fields.map Prod.fst = fields.map Prod.fst →
      (∀ (i : Nat) (hi : i < shape.fields.length) (hi' : i < fields.length),
        Raised shape.fields[i].2 fields[i].2) →
      Raised (.object shape) (.object { shape with fields := fields })
  | array {item item' rule modifiers} : Raised item item' →
      Raised (.array item rule modifiers) (.array item' rule modifiers)
  | tuple {kind modifiers} {items items' : List Schema} : items.length = items'.length →
      (∀ (i : Nat) (hi : i < items.length) (hi' : i < items'.length), Raised items[i] items'[i]) →
      Raised (.tuple kind items modifiers) (.tuple kind items' modifiers)
  | union {modifiers} {alternatives alternatives' : List Schema} :
      alternatives.length = alternatives'.length →
      (∀ (i : Nat) (hi : i < alternatives.length) (hi' : i < alternatives'.length),
        Raised alternatives[i] alternatives'[i]) →
      Raised (.union alternatives modifiers) (.union alternatives' modifiers)
  | optional {inner inner' modifiers} : Raised inner inner' →
      Raised (.optional inner modifiers) (.optional inner' modifiers)
  | lazy {target limit limit' modifiers} : limit ≤ limit' →
      Raised (.lazy target limit modifiers) (.lazy target limit' modifiers)

/-- Limits may stay as they are. -/
theorem Raised.refl (s : Schema) : s.Raised s := by
  induction Every.of_forall (p := fun _ => True) (fun _ => trivial) s with
  | text => exact .text
  | number => exact .number
  | boolean => exact .boolean
  | date => exact .date
  | enumeration => exact .enumeration
  | object _ _ ih => exact .object rfl fun i hi _ => ih _ _ (List.getElem_mem hi)
  | array _ _ ih => exact .array ih
  | tuple _ _ ih => exact .tuple rfl fun i hi _ => ih _ (List.getElem_mem hi)
  | union _ _ ih => exact .union rfl fun i hi _ => ih _ (List.getElem_mem hi)
  | optional _ _ ih => exact .optional ih
  | lazy => exact .lazy (Nat.le_refl _)

/-- The node is no union. -/
def IsNoUnion : Schema → Prop
  | union _ _ => False
  | _ => True

variable {env wide : Env}

/-- **One level.** A schema without unions extends to the schema with higher limits, if what
its lazy nodes do extends. -/
theorem Raised.extends (henv : env.Extends wide) {s s' : Schema} (h : s.Raised s')
    (hunion : s.Every IsNoUnion) : (s.validator env).Extends (s'.validator wide) := by
  induction h with
  | text | number | boolean | enumeration =>
    rw [validator, validator]
    exact ⟨rfl, fun _ _ _ h => h⟩
  | date =>
    rw [validator, validator, henv.today]
    exact ⟨rfl, fun _ _ _ h => h⟩
  | @object shape fields hkeys hchildren ih =>
    cases hunion with
    | object _ hfields =>
      have hwidens : Widens (shape.mapChildren (validator env)).check
          (ObjectShape.mapChildren { shape with fields } (validator wide)).check := by
        have hmode (fields : List (String × Schema)) (env : Env) :
            (ObjectShape.mapChildren { shape with fields } (validator env)).unknownKeys =
              shape.unknownKeys := rfl
        refine ObjectShape.widens_check ?_ ((hmode shape.fields env).trans (hmode fields wide).symm)
          fun i hi hi' => ?_
        · rw [ObjectShape.keys_mapChildren, ObjectShape.keys_mapChildren]
          exact hkeys
        · simp only [ObjectShape.mapChildren, List.length_map] at hi hi'
          simpa [ObjectShape.mapChildren] using ih i hi hi' (hfields _ _ (List.getElem_mem hi))
      rw [validator_object, validator_object]
      exact shape.modifiers.extends_validator hwidens .object
  | array hitem ih =>
    cases hunion with
    | array _ hunion => exact Modifiers.extends_validator _ (ArrayRule.widens_check _ (ih hunion)) _
  | tuple hlength hchildren ih =>
    cases hunion with
    | tuple _ hitems =>
      rw [validator_tuple, validator_tuple]
      refine Modifiers.extends_validator _ (Tuple.widens_check _ (by simpa using hlength) ?_) _
      intro i hi hi'
      simp only [List.length_map] at hi hi'
      simpa using ih i hi hi' (hitems _ (List.getElem_mem hi))
  | union hlength hchildren ih =>
    cases hunion with
    | union hnone _ => exact hnone.elim
  | optional hinner ih =>
    cases hunion with
    | optional _ hunion => exact Validator.extends_optional _ (ih hunion)
  | lazy hlimit => exact Modifiers.extends_validator _ (henv.resolve _ hlimit) _

end Schema

/-! ## Families -/

namespace Family

variable {family family' : Family}

/-- **All levels.** The induction is on what remains of the lower limit: a run that passes
enters its target, and so does the run with higher limits, one level deeper on both sides. -/
theorem widens_resolve (hunions : ∀ target, (family target).Every Schema.IsNoUnion)
    (hraised : ∀ target, (family target).Raised (family' target)) (today : Int)
    {scope scope' : Scope} (hdepth : scope.depth = scope'.depth)
    (hscope : scope.limit ≤ scope'.limit) (target : Deferred) {limit limit' : Nat}
    (hlimit : limit ≤ limit') :
    Widens (family.resolve today scope target limit) (family'.resolve today scope' target limit') := by
  induction hn : scope.remaining using Nat.strongRecOn
    generalizing scope scope' target limit limit' with
  | ind n ih =>
    subst hn
    intro value path output h
    by_cases hlt : scope.depth < scope.limitAt limit
    · have hle : scope.limitAt limit ≤ scope'.limitAt limit' := by
        unfold Scope.limitAt
        omega
      have hlt' : scope'.depth < scope'.limitAt limit' := by omega
      have henv : (family.env today (scope.enter limit)).Extends
          (family'.env today (scope'.enter limit')) :=
        ⟨rfl, fun target _ _ hle' => ih _ (Scope.remaining_enter_lt hlt)
          (congrArg Nat.succ hdepth) hle target hle' rfl⟩
      rw [resolve_of_lt hlt] at h
      rw [resolve_of_lt hlt']
      exact ((hraised target).extends henv (hunions target)).present h
    · rw [resolve_of_not_lt hlt] at h
      cases h

/-- **Raising a limit never spoils a success.** Take a family without unions, and let the
limits of its lazy nodes stay or be raised. What a lazy node accepts, it accepts with the
same output when its own limit is raised, inside any number of lazy nodes. -/
theorem parse_raised (hunions : ∀ target, (family target).Every Schema.IsNoUnion)
    (hraised : ∀ target, (family target).Raised (family' target)) (today : Int) (scope : Scope)
    (target : Deferred) (modifiers : Modifiers Value) {limit limit' : Nat} (hlimit : limit ≤ limit')
    (input : Option Value) (path : Path) {output : Option Value}
    (h : ((Schema.lazy target limit modifiers).validator (family.env today scope)).parse input path =
      .ok output) :
    ((Schema.lazy target limit' modifiers).validator (family'.env today scope)).parse input path =
      .ok output := by
  have henv : (family.env today scope).Extends (family'.env today scope) :=
    ⟨rfl, fun target _ _ hle => widens_resolve hunions hraised today rfl (Nat.le_refl _) target hle⟩
  exact ((Schema.Raised.lazy hlimit).extends henv (.lazy trivial)).parse h

end Family

/-- A link of a chain has a name, and it may hold another link. -/
def Schema.link (limit : Nat) : Schema := object
  { fields := [("name", text {} {}), ("next", orAbsent (lazy ⟨"link", none⟩ limit {}))] }

/-- The family in which everything is a link. -/
def Family.chains (limit : Nat) : Family := fun _ => .link limit

/-- A chain of two links. -/
def Value.twoLinks : Value := .object
  [("name", .string "first"), ("next", .object [("name", .string "second")])]

theorem Schema.every_link_isNoUnion (limit : Nat) : (link limit).Every IsNoUnion := by
  refine .object trivial fun name child hmem => ?_
  simp only [List.mem_cons, Prod.mk.injEq, List.not_mem_nil, or_false] at hmem
  rcases hmem with ⟨-, rfl⟩ | ⟨-, rfl⟩
  · exact .text trivial
  · exact .optional trivial (.lazy trivial)

theorem Schema.raised_link {limit limit' : Nat} (h : limit ≤ limit') :
    (link limit).Raised (link limit') := by
  refine .object rfl fun i hi _ => ?_
  match i, hi with
  | 0, _ => exact .text
  | 1, _ => exact .optional (.lazy h)

/-- A chain that just stays within two levels is accepted with more of them. -/
theorem Family.parse_twoLinks :
    (∀ target, (chains 3 target).Every Schema.IsNoUnion) ∧
      (∀ target, (chains 3 target).Raised (chains 8 target)) ∧ 2 ≤ 5 ∧
      ((Schema.lazy ⟨"link", none⟩ 2 {}).validator ((chains 3).env 0 .outside)).parse
          (some .twoLinks) .root = .ok (some .twoLinks) ∧
      ((Schema.lazy ⟨"link", none⟩ 5 {}).validator ((chains 8).env 0 .outside)).parse
          (some .twoLinks) .root = .ok (some .twoLinks) := by
  have hunions : ∀ target, (chains 3 target).Every Schema.IsNoUnion :=
    fun _ => Schema.every_link_isNoUnion 3
  have hraised : ∀ target, (chains 3 target).Raised (chains 8 target) :=
    fun _ => Schema.raised_link (by decide)
  have hparse : ((Schema.lazy ⟨"link", none⟩ 2 {}).validator ((chains 3).env 0 .outside)).parse
      (some .twoLinks) .root = .ok (some .twoLinks) := by
    have hlevel : (chains 3).resolve 0 .outside ⟨"link", none⟩ 2 .twoLinks .root = .ok .twoLinks := by
      rw [resolve_of_lt (by decide), env_eq]
      rfl
    have hpresent : ((Schema.lazy ⟨"link", none⟩ 2 {}).validator
        ((chains 3).env 0 .outside)).present .twoLinks .root = .ok .twoLinks := by
      have hhooks : ({} : Modifiers Value).HookFree := ⟨rfl, rfl, rfl⟩
      rw [Schema.validator, hhooks.validator_present]
      exact (congrFun Except.map_id _).trans hlevel
    rw [Validator.parse_some, hpresent]
    rfl
  exact ⟨hunions, hraised, by decide, hparse, parse_raised hunions hraised 0 .outside _ _
    (by decide) _ _ hparse⟩

end Conform
