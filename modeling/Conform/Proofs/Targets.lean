import Conform.Proofs.Induction
import Conform.Session
/-!
# Targets — what is built is what would be built

Lazy nodes share a target because one is a copy of the other, so all nodes
of a handle refer to the same definition. `Session.IsNamed` says this of a
session, together with what follows for the targets built so far: each is
what a fresh node of the handle would build.

A call keeps this, and it makes the targets invisible: the main result of
this module is that a call has the same answer in the session and in one
in which no target has been built.
-/


namespace Conform

namespace Schema

/-- A lazy node refers to something with the property. -/
def Refers (p : Deferred → Prop) : Schema → Prop
  | lazy target _ _ => p target
  | _ => True

variable {p : Deferred → Prop} {env env' : Env} {opens : Opens}

/-! ## Lazy nodes decide what a schema means -/

/-- Where lazy nodes do the same with what a schema refers to, the schema has the
same meaning. -/
theorem validator_congr (htoday : env.today = env'.today)
    (hresolve : ∀ target limit, p target → env.resolve target limit = env'.resolve target limit)
    {s : Schema} (hs : s.Every (Refers p)) : s.validator env = s.validator env' := by
  induction hs with
  | text | number | boolean | enumeration => rfl
  | date => rw [validator, validator, htoday]
  | @object shape _ _ ih =>
    rw [validator_object, validator_object, ObjectShape.mapChildren_congr ih]
  | array _ _ ih => rw [validator_array, validator_array, ih]
  | tuple _ _ ih => rw [validator_tuple, validator_tuple, List.map_congr_left ih]
  | union _ _ ih => rw [validator_union, validator_union, List.map_congr_left ih]
  | optional _ _ ih => rw [validator_optional, validator_optional, ih]
  | @lazy target limit _ h => rw [validator, validator, hresolve target limit h]

/-! ## What is needed -/

theorem fieldNeeds_eq_flatMap (fields : List (String × Schema)) (members : Members) (path : Path) :
    fieldNeeds env opens fields members path = fields.flatMap fun field =>
      field.2.needs env opens (members.get? field.1) (path.field field.1) := by
  induction fields with
  | nil => rfl
  | cons field rest ih => rw [fieldNeeds, ih, List.flatMap_cons]

theorem positionNeeds_eq_flatMap (items : List Schema) (values : List Value) (i : Nat)
    (path : Path) : positionNeeds env opens items values i path =
      ((items.zip values).zipIdx i).flatMap fun x =>
        x.1.1.needs env opens (some x.1.2) (path.index x.2) := by
  induction items generalizing values i with
  | nil => rfl
  | cons s rest ih =>
    cases values with
    | nil => rfl
    | cons value values =>
      rw [positionNeeds, ih, List.zip_cons_cons, List.zipIdx_cons, List.flatMap_cons]

theorem alternativeNeeds_cons (s : Schema) (rest : List Schema) (value : Value) (path : Path) :
    alternativeNeeds env opens (s :: rest) value path = s.needs env opens (some value) path ++
      if ((s.validator env).present value path).passed then []
      else alternativeNeeds env opens rest value path := by
  rw [alternativeNeeds]
  cases rest with
  | nil => rw [List.isEmpty_nil, Bool.true_or, if_pos rfl, alternativeNeeds, ite_self]
  | cons => rw [List.isEmpty_cons, Bool.false_or]

theorem exists_of_mem_alternativeNeeds {alternatives : List Schema} {value : Value}
    {path : Path} {d : Deferred} (h : d ∈ alternativeNeeds env opens alternatives value path) :
    ∃ child ∈ alternatives, ∃ input path, d ∈ child.needs env opens input path := by
  induction alternatives with
  | nil => simp [alternativeNeeds] at h
  | cons s rest ih =>
    rw [alternativeNeeds_cons] at h
    rcases List.mem_append.1 h with h | h
    · exact ⟨s, List.mem_cons_self, _, _, h⟩
    · split at h
      · cases h
      · obtain ⟨child, hchild, hneeds⟩ := ih h
        exact ⟨child, List.mem_cons_of_mem _ hchild, hneeds⟩

/-- What a schema needs has the property of what it refers to, if what its lazy nodes need
has it. -/
theorem refers_of_mem_needs
    (hopens : ∀ target limit value path, p target → ∀ d ∈ opens target limit value path, p d)
    {s : Schema} (hs : s.Every (Refers p)) {input : Option Value} {path : Path} {d : Deferred}
    (h : d ∈ s.needs env opens input path) : p d := by
  induction hs generalizing input path with
  | text | number | boolean | date | enumeration => simp [needs] at h
  | @object shape _ _ ih =>
    obtain ⟨fields, unknownKeys, typeMessage, modifiers⟩ := shape
    cases input with
    | none => simp [needs] at h
    | some value =>
      rw [needs] at h
      split at h
      · rw [fieldNeeds_eq_flatMap] at h
        obtain ⟨field, hfield, h⟩ := List.mem_flatMap.1 h
        exact ih field.1 field.2 hfield h
      · cases h
  | @array item rule modifiers _ _ ih =>
    cases input with
    | none => simp [needs] at h
    | some value =>
      rw [needs] at h
      split at h
      · obtain ⟨x, -, h⟩ := List.mem_flatMap.1 h
        exact ih h
      · cases h
  | @tuple kind items modifiers _ _ ih =>
    cases input with
    | none => simp [needs] at h
    | some value =>
      rw [needs] at h
      split at h
      · split at h
        · rw [positionNeeds_eq_flatMap] at h
          obtain ⟨⟨⟨child, x⟩, i⟩, hmem, h⟩ := List.mem_flatMap.1 h
          exact ih child (List.of_mem_zip (List.fst_mem_of_mem_zipIdx hmem)).1 h
        · cases h
      · cases h
  | @union alternatives modifiers _ _ ih =>
    cases input with
    | none => simp [needs] at h
    | some value =>
      rw [needs] at h
      obtain ⟨child, hchild, input, path, h⟩ := exists_of_mem_alternativeNeeds h
      exact ih child hchild h
  | optional _ _ ih =>
    cases input with
    | none =>
      rw [needs] at h
      split at h
      · cases h
      · exact ih h
    | some value =>
      rw [needs] at h
      exact ih h
  | @lazy target limit modifiers hp =>
    cases input with
    | none =>
      rw [needs] at h
      split at h
      · exact List.mem_singleton.1 h ▸ hp
      · cases h
    | some value =>
      rw [needs] at h
      exact hopens target limit _ path hp d h

end Schema

/-- What a call needs has the property of what its schema refers to. -/
theorem Call.refers_of_mem_needs {p : Deferred → Prop} {env : Env} {opens : Opens}
    (hopens : ∀ target limit value path, p target → ∀ d ∈ opens target limit value path, p d)
    {s : Schema} (hs : s.Every (Schema.Refers p)) {c : Call} {d : Deferred}
    (h : d ∈ c.needs env opens s) : p d := by
  cases c with
  | parse input path => exact Schema.refers_of_mem_needs hopens hs h
  | parseArray value path =>
    cases value with
    | array items =>
      obtain ⟨x, -, h⟩ := List.mem_flatMap.1 h
      exact Schema.refers_of_mem_needs hopens hs h
    | _ => cases h
  | parseRecord value path =>
    cases value with
    | object members =>
      obtain ⟨x, -, h⟩ := List.mem_flatMap.1 h
      exact Schema.refers_of_mem_needs hopens hs h
    | _ => cases h

namespace Family

variable {p : Deferred → Prop} {family family' : Family}

/-- Families that give the same for what occurs in them give schemas the same
meaning. -/
theorem validator_env_congr (hfamily : ∀ target, p target → family target = family' target)
    (hevery : ∀ target, (family' target).Every (Schema.Refers p)) (today : Int) (scope : Scope)
    {s : Schema} (hs : s.Every (Schema.Refers p)) :
    s.validator (family.env today scope) = s.validator (family'.env today scope) := by
  refine induction (motive := fun scope s =>
    s.validator (family.env today scope) = s.validator (family'.env today scope)) hevery ?_ scope hs
  intro scope s hs targets
  have htoday : (family.env today scope).today = (family'.env today scope).today := rfl
  refine Schema.validator_congr htoday (fun target limit htarget => ?_) hs
  show family.resolve today scope target limit = family'.resolve today scope target limit
  by_cases hdepth : scope.depth < scope.limitAt limit
  · rw [resolve_of_lt hdepth, resolve_of_lt hdepth, hfamily target htarget,
      targets target limit hdepth]
  · funext value path
    rw [resolve_of_not_lt hdepth, resolve_of_not_lt hdepth]

theorem opens_of_lt {today : Int} {scope : Scope} {target : Deferred} {limit : Nat} {value : Value}
    {path : Path} (h : scope.depth < scope.limitAt limit) :
    family.opens today scope target limit value path =
      target :: (family target).needs (family.env today (scope.enter limit))
        (family.opens today (scope.enter limit)) (some value) path := by
  rw [opens, if_pos h]

theorem opens_of_not_lt {today : Int} {scope : Scope} {target : Deferred} {limit : Nat}
    {value : Value} {path : Path} (h : ¬scope.depth < scope.limitAt limit) :
    family.opens today scope target limit value path = [] := by
  rw [opens, if_neg h]

/-- What lazy nodes need has the property if what the targets refer to has it. -/
theorem refers_of_mem_opens (hfamily : ∀ target, p target → (family target).Every (Schema.Refers p))
    {today : Int} {scope : Scope} (target : Deferred) (limit : Nat) (value : Value) (path : Path)
    (htarget : p target) : ∀ d ∈ family.opens today scope target limit value path, p d := by
  fun_induction opens family today scope target limit value path with
  | case1 scope target limit value path hdepth inner ih =>
    intro d hd
    rcases List.mem_cons.1 hd with rfl | hd
    · exact htarget
    · exact Schema.refers_of_mem_needs
        (fun target' limit' value path h => ih target' limit' value path h) (hfamily target htarget) hd
  | case2 => exact nofun

end Family

/-! ## Names of handles -/

/-- The node has the name of its handle. -/
def Deferred.IsNamed (names : Nat → String) (d : Deferred) : Prop :=
  ∀ handle, d.handle = some handle → d.name = names handle

/-- All lazy nodes of a schema have the names of their handles. -/
def Schema.IsNamed (names : Nat → String) (s : Schema) : Prop :=
  s.Every (Refers (Deferred.IsNamed names))

namespace Session

/-- Nodes of one handle have one name, and what has been built for a handle is
what its name stands for. -/
structure IsNamed (names : Nat → String) (session : Session) : Prop where
  definitions : ∀ name, (session.definitions.schema name).IsNamed names
  targets : ∀ handle built, session.targets.lookup handle = some built →
    built = session.definitions.schema (names handle)

/-- The session with nothing built. -/
def cleared (session : Session) : Session := { session with targets := [] }

variable {names : Nat → String} {session : Session} {d : Deferred}

theorem target_cleared (session : Session) (d : Deferred) :
    session.cleared.target d = session.definitions.schema d.name := by
  obtain ⟨name, handle⟩ := d
  cases handle <;> rfl

/-- **A target is as good as a fresh one.** -/
theorem IsNamed.target_eq (h : session.IsNamed names) (hd : d.IsNamed names) :
    session.target d = session.cleared.target d := by
  rw [target_cleared, target]
  cases hhandle : d.handle with
  | none => rfl
  | some handle =>
    rw [Option.bind_some]
    cases hlookup : session.targets.lookup handle with
    | none => rfl
    | some built => rw [h.targets handle built hlookup, hd handle hhandle]

/-- All lazy nodes of a target have the names of their handles. -/
theorem IsNamed.every_target (h : session.IsNamed names) (d : Deferred) :
    (session.target d).IsNamed names := by
  unfold target
  split
  · rename_i built hbuilt
    obtain ⟨handle, -, hlookup⟩ := Option.bind_eq_some_iff.1 hbuilt
    rw [h.targets handle built hlookup]
    exact h.definitions _
  · exact h.definitions _

/-! ## Building keeps the names -/

@[simp] theorem cleared_build (session : Session) (d : Deferred) :
    (session.build d).cleared = session.cleared := by
  unfold build
  split
  · split <;> rfl
  · rfl

theorem IsNamed.build (h : session.IsNamed names) (hd : d.IsNamed names) :
    (session.build d).IsNamed names := by
  unfold Session.build
  split
  · rename_i handle hhandle
    split
    · exact h
    · refine ⟨h.definitions, fun other built hlookup => ?_⟩
      rw [List.lookup_cons] at hlookup
      split at hlookup
      · rename_i heq
        obtain rfl := Option.some.inj hlookup
        rw [eq_of_beq heq, h.target_eq hd, target_cleared, hd handle hhandle]
      · exact h.targets other built hlookup
  · exact h

/-- What was built before a call does not change what the schema means. -/
theorem IsNamed.validator_eq (h : session.IsNamed names) {s : Schema} (hs : s.IsNamed names) :
    s.validator session.env = s.validator session.cleared.env :=
  Family.validator_env_congr (fun _ hd => h.target_eq hd)
    (fun target => session.target_cleared target ▸ h.definitions target.name) _ _ hs

/-- **A call is answered as if nothing had been built.** -/
theorem IsNamed.call_eq (h : session.IsNamed names) {s : Schema} (hs : s.IsNamed names)
    (c : Call) : (session.call s c).1 = (session.cleared.call s c).1 :=
  congrArg c.answer (h.validator_eq hs)

/-- It only builds targets. -/
theorem IsNamed.after_call (h : session.IsNamed names) {s : Schema} (hs : s.IsNamed names) (c : Call) :
    (session.call s c).2.IsNamed names ∧ (session.call s c).2.cleared = session.cleared := by
  have hneeds : ∀ d ∈ c.needs session.env session.opens s, d.IsNamed names := fun d hd =>
    c.refers_of_mem_needs (Family.refers_of_mem_opens fun d _ => h.every_target d) hs hd
  rw [Session.call]
  dsimp only
  generalize c.needs session.env session.opens s = list at hneeds
  induction list generalizing session with
  | nil => exact ⟨h, rfl⟩
  | cons d rest ih =>
    rw [List.foldl_cons, ← cleared_build session d]
    exact ih (h.build (hneeds d List.mem_cons_self)) fun other hother =>
      hneeds other (List.mem_cons_of_mem d hother)

end Session

end Conform
