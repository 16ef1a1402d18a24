import Conform.Proofs.Composite
import Conform.Proofs.Machine
import Conform.Proofs.Targets
/-!
# Answer — the machine does what the session says

`Schema.validator` gives the result of a run at once, `Schema.needs` says
which targets the run needs, and neither knows of steps and of memory. Here
they are connected. A run `Gives` a result and builds some targets if the
machine always arrives at that result with just these targets built,
whatever was built before and whatever follows, and with the counter where
it stood.

Each rule gives the result of its validator and builds what it needs, if
its children do. Lazy nodes are the only ones that touch the memory. A lazy
node that is opened builds its target, which is as good as a fresh one, and
puts the counter back when the target has run.
-/


namespace Conform

namespace Machine

variable {α : Type}

theorem steps_add (n k : Nat) (m : Machine α) : m.steps (n + k) = (m.steps n).steps k := by
  induction n generalizing m with
  | zero => rw [Nat.zero_add, steps]
  | succ n ih => rw [Nat.add_right_comm, steps, ih, steps]

/-- What is finished stays as it is. -/
theorem steps_finished (n : Nat) (memory : Memory) (answer : α) :
    (finished memory answer).steps n = finished memory answer := by
  induction n with
  | zero => rfl
  | succ n ih => exact ih

/-- There is one answer, whenever one looks. -/
theorem finished_unique {m : Machine α} {n n' : Nat} {memory memory' : Memory}
    {answer answer' : α} (h : m.steps n = finished memory answer)
    (h' : m.steps n' = finished memory' answer') : memory = memory' ∧ answer = answer' := by
  have hboth : finished memory answer = finished memory' answer' := by
    calc finished memory answer
        = m.steps (n + n') := by rw [steps_add, h, steps_finished]
      _ = m.steps (n' + n) := by rw [Nat.add_comm]
      _ = finished memory' answer' := by rw [steps_add, h', steps_finished]
  obtain ⟨hmemory, -, hrun⟩ := Machine.mk.inj hboth
  exact ⟨hmemory, Run.done.inj hrun⟩

end Machine

namespace Session

/-- A session that has only built targets since an earlier moment. -/
structure Since (names : Nat → String) (session earlier : Session) : Prop where
  named : session.IsNamed names
  earlier_named : earlier.IsNamed names
  cleared_eq : session.cleared = earlier.cleared

variable {names : Nat → String} {earlier session : Session} {d : Deferred}

theorem IsNamed.since (h : session.IsNamed names) : session.Since names session := ⟨h, h, rfl⟩

theorem Since.build (h : session.Since names earlier) (hd : d.IsNamed names) :
    (session.build d).Since names earlier :=
  ⟨h.named.build hd, h.earlier_named, (session.cleared_build d).trans h.cleared_eq⟩

theorem Since.target_eq (h : session.Since names earlier) (hd : d.IsNamed names) :
    session.target d = earlier.target d := by
  rw [h.named.target_eq hd, h.earlier_named.target_eq hd, h.cleared_eq]

theorem Since.today_eq (h : session.Since names earlier) : session.today = earlier.today :=
  (congrArg Session.today h.cleared_eq : session.cleared.today = earlier.cleared.today)

/-- The meaning of schemas in the session, inside a number of lazy nodes. -/
def envAt (session : Session) (scope : Scope) : Env := Family.env session.target session.today scope

/-- What lazy nodes need in the session, inside a number of lazy nodes. -/
def opensAt (session : Session) (scope : Scope) : Opens :=
  Family.opens session.target session.today scope

/-- The session when some targets have been built, one after the other. -/
def buildAll (session : Session) (built : List Deferred) : Session := built.foldl build session

theorem buildAll_append (session : Session) (built more : List Deferred) :
    session.buildAll (built ++ more) = (session.buildAll built).buildAll more :=
  List.foldl_append

end Session

/-! ## Runs that give a result -/

section Gives

variable {names : Nat → String} {earlier : Session} {scope : Scope} {α β : Type}
  {built more : List Deferred}

/-- The machine arrives at the result and builds the targets, whatever was built before
and whatever follows, and the counter is where it was. -/
def Run.Gives (names : Nat → String) (earlier : Session) (scope : Scope) (run : Run α) (a : α)
    (built : List Deferred) : Prop :=
  ∀ ⦃β : Type⦄ (next : α → Run β) (active : List Nat) ⦃session : Session⦄,
    session.Since names earlier →
    ∃ n, (session.buildAll built).Since names earlier ∧
      (Machine.mk ⟨session, scope⟩ active (run.bind next)).steps n =
        ⟨⟨session.buildAll built, scope⟩, active, next a⟩

namespace Run

theorem gives_done (a : α) : (done a).Gives names earlier scope a [] :=
  fun _ _ _ _ h => ⟨0, h, rfl⟩

/-- The second run starts where the first has left the memory. -/
theorem Gives.bind {run : Run α} {f : α → Run β} {a : α} {b : β}
    (hrun : run.Gives names earlier scope a built) (hf : (f a).Gives names earlier scope b more) :
    (run.bind f).Gives names earlier scope b (built ++ more) := by
  intro γ next active session h
  obtain ⟨n, hmiddle, hn⟩ := hrun (fun a => (f a).bind next) active h
  obtain ⟨k, hafter, hk⟩ := hf next active hmiddle
  rw [← Session.buildAll_append] at hafter hk
  refine ⟨n + k, hafter, ?_⟩
  rw [bind_bind, Machine.steps_add, hn, hk]

/-- What is made of the result in the end builds nothing. -/
theorem Gives.bind_of_eq_done {run : Run α} {f : α → Run β} {a : α} {b : β}
    (hrun : run.Gives names earlier scope a built) (hf : f a = done b) :
    (run.bind f).Gives names earlier scope b built := by
  have hbind := hrun.bind (f := f) (hf ▸ gives_done b)
  rwa [List.append_nil] at hbind

theorem Gives.map {run : Run α} {a : α} (hrun : run.Gives names earlier scope a built)
    (f : α → β) : (run.bind fun a => done (f a)).Gives names earlier scope (f a) built :=
  hrun.bind_of_eq_done rfl

theorem gives_mapM {f : α → Run β} {g : α → β} {builds : α → List Deferred} {list : List α}
    (h : ∀ a ∈ list, (f a).Gives names earlier scope (g a) (builds a)) :
    (list.mapM f).Gives names earlier scope (list.map g) (list.flatMap builds) := by
  induction list with
  | nil => exact gives_done _
  | cons a rest ih =>
    rw [List.mapM_cons, List.map_cons, List.flatMap_cons]
    have hrest := ih fun b hb => h b (List.mem_cons_of_mem a hb)
    exact (h a List.mem_cons_self).bind (hrest.map _)

end Run

/-- A run of the schema gives what the validator does and builds what the schema needs. -/
structure Schema.Gives (names : Nat → String) (earlier : Session) (scope : Scope) (s : Schema) :
    Prop where
  present : ∀ value path, (Run.present s value path .done).Gives names earlier scope
    ((s.validator (earlier.envAt scope)).present value path)
    (s.needs (earlier.envAt scope) (earlier.opensAt scope) (some value) path)
  absent : ∀ path, (Run.absent s path .done).Gives names earlier scope
    ((s.validator (earlier.envAt scope)).absent path)
    (s.needs (earlier.envAt scope) (earlier.opensAt scope) none path)

namespace Schema

open Run

variable {s : Schema}

/-- One step leads from the request to the layer that answers it. -/
theorem Gives.of_layer
    (hpresent : ∀ value path, (s.onPresent earlier.today value path).Gives names earlier scope
      ((s.validator (earlier.envAt scope)).present value path)
      (s.needs (earlier.envAt scope) (earlier.opensAt scope) (some value) path))
    (habsent : ∀ path, (s.onAbsent path).Gives names earlier scope
      ((s.validator (earlier.envAt scope)).absent path)
      (s.needs (earlier.envAt scope) (earlier.opensAt scope) none path)) :
    s.Gives names earlier scope where
  present value path := by
    intro β next active session h
    obtain ⟨n, hafter, hn⟩ := hpresent value path next active h
    refine ⟨n + 1, hafter, ?_⟩
    rw [← h.today_eq] at hn
    exact hn
  absent path := by
    intro β next active session h
    obtain ⟨n, hafter, hn⟩ := habsent path next active h
    exact ⟨n + 1, hafter, hn⟩

theorem Gives.parse (h : s.Gives names earlier scope) (input : Option Value) (path : Path) :
    (Run.parse s input path).Gives names earlier scope
      ((s.validator (earlier.envAt scope)).parse input path)
      (s.needs (earlier.envAt scope) (earlier.opensAt scope) input path) := by
  cases input with
  | some value => exact (h.present value path).map fun result => result.map some
  | none => exact h.absent path

/-! ## Rules -/

/-- Modifiers add nothing to a run but what they make of its result. -/
theorem gives_running {m : Modifiers α} {step : Value → Path → Run (Checked α)}
    {step' : Value → Path → Checked α} (toValue : α → Value) {builds : Value → Path → List Deferred}
    (h : ∀ value path, (step value path).Gives names earlier scope (step' value path)
      (builds value path)) (value : Value) (path : Path) :
    (m.running step toValue value path).Gives names earlier scope
      ((m.validator step' toValue).present value path) (builds (m.prepared value) path) :=
  (h (m.prepared value) path).map _

/-- Absent input of a node whose modifiers say all about it. -/
theorem gives_missing (m : Modifiers α) (step : Value → Path → Checked α) (toValue : α → Value)
    (path : Path) : (m.missing toValue path).Gives names earlier scope
      ((m.validator step toValue).absent path) [] :=
  gives_done _

/-- A leaf is done at once. -/
theorem gives_leaf (m : Modifiers α) (step : Value → Path → Checked α) (toValue : α → Value)
    (value : Value) (path : Path) :
    (m.running (fun value path => .done (step value path)) toValue value path).Gives names earlier
      scope ((m.validator step toValue).present value path) [] :=
  (gives_done _).map _

/-- The object's own step, on the value as it is prepared. -/
theorem gives_object_running {shape : ObjectShape Schema}
    (h : ∀ name child, (name, child) ∈ shape.fields → child.Gives names earlier scope)
    (value : Value) (path : Path) : (shape.running value path).Gives names earlier scope
      ((shape.mapChildren (validator (earlier.envAt scope))).check value path)
      (match value with
        | .object members =>
          fieldNeeds (earlier.envAt scope) (earlier.opensAt scope) shape.fields members path
        | _ => []) := by
  cases value with
  | object members =>
    have hfields : (shape.fields.mapM fun field : String × Schema => do
        let result ← Run.parse field.2 (Members.get? members field.1) (path.field field.1)
        return (field.1, result)).Gives names earlier scope
        ((shape.mapChildren (validator (earlier.envAt scope))).fieldResults members path)
        (fieldNeeds (earlier.envAt scope) (earlier.opensAt scope) shape.fields members path) := by
      rw [ObjectShape.fieldResults, ObjectShape.mapChildren, List.map_map,
        fieldNeeds_eq_flatMap]
      refine gives_mapM fun field hfield => ?_
      exact ((h field.1 field.2 hfield).parse _ _).map _
    have hconclude := hfields.map fun results => shape.conclude members path results
    -- the results are put together by the names of the fields
    rw [← ObjectShape.conclude_congr ObjectShape.keys_mapChildren rfl] at hconclude
    exact hconclude
  | _ => exact gives_done _

theorem gives_object {shape : ObjectShape Schema}
    (h : ∀ name child, (name, child) ∈ shape.fields → child.Gives names earlier scope) :
    (object shape).Gives names earlier scope := by
  refine .of_layer (fun value path => ?_) fun path => ?_ <;> rw [validator_object]
  · exact gives_running .object (gives_object_running h) value path
  · exact gives_missing ..

theorem gives_array {item : Schema} {rule : ArrayRule} {modifiers : Modifiers (List Value)}
    (h : item.Gives names earlier scope) :
    (array item rule modifiers).Gives names earlier scope := by
  refine .of_layer (fun value path => ?_) fun path => ?_ <;> rw [validator_array]
  · rw [needs]
    refine Run.Gives.map ?_ _
    cases modifiers.prepared value with
    | array items =>
      refine Run.Gives.map (gives_mapM ?_) _
      rintro ⟨x, i⟩ -
      exact h.present x (path.index i)
    | _ => exact gives_done _
  · exact gives_missing ..

theorem gives_tuple {kind : TupleKind} {items : List Schema} {modifiers : Modifiers (List Value)}
    (h : ∀ child ∈ items, child.Gives names earlier scope) :
    (tuple kind items modifiers).Gives names earlier scope := by
  refine .of_layer (fun value path => ?_) fun path => ?_ <;> rw [validator_tuple]
  · rw [needs]
    refine Run.Gives.map ?_ _
    cases modifiers.prepared value with
    | array values =>
      simp only [Tuple.check, Tuple.running, List.length_map]
      by_cases hlength : values.length = items.length
      · rw [if_pos hlength, if_pos hlength, if_pos hlength, positionNeeds_eq_flatMap]
        refine Run.Gives.map ?_ _
        rw [Tuple.positions, List.zip_map_left, List.zipIdx_map, List.map_map]
        refine gives_mapM ?_
        rintro ⟨⟨child, x⟩, i⟩ hmem
        exact (h child (List.of_mem_zip (List.fst_mem_of_mem_zipIdx hmem)).1).present x (path.index i)
      · rw [if_neg hlength, if_neg hlength, if_neg hlength]
        exact gives_done _
    | _ => exact gives_done _
  · exact gives_missing ..

theorem gives_runningFirst {alternatives : List Schema}
    (h : ∀ child ∈ alternatives, child.Gives names earlier scope) (value : Value) (path : Path) :
    (Union.runningFirst alternatives value path).Gives names earlier scope
      (Union.firstOutput (alternatives.map (validator (earlier.envAt scope))) value path)
      (alternativeNeeds (earlier.envAt scope) (earlier.opensAt scope) alternatives value path) := by
  induction alternatives with
  | nil => exact gives_done _
  | cons s rest ih =>
    rw [List.map_cons, Union.firstOutput, alternativeNeeds_cons]
    refine Run.Gives.bind ((h s List.mem_cons_self).present value path) ?_
    cases (s.validator (earlier.envAt scope)).present value path with
    | ok output => exact gives_done _
    | error issues =>
      have hrest := ih fun child hchild => h child (List.mem_cons_of_mem s hchild)
      refine hrest.bind_of_eq_done ?_
      cases Union.firstOutput (rest.map (validator (earlier.envAt scope))) value path <;> rfl

theorem gives_union {alternatives : List Schema} {modifiers : Modifiers Value}
    (h : ∀ child ∈ alternatives, child.Gives names earlier scope) :
    (union alternatives modifiers).Gives names earlier scope := by
  refine .of_layer (fun value path => ?_) fun path => ?_ <;> rw [validator_union]
  · rw [needs]
    refine gives_running id (fun value path => ?_) value path
    rw [Union.check, List.length_map]
    exact (gives_runningFirst h value path).map _
  · exact gives_missing ..

theorem gives_optional {inner : Schema} {modifiers : Modifiers Value}
    (h : inner.Gives names earlier scope) :
    (optional inner modifiers).Gives names earlier scope := by
  refine .of_layer (fun value path => ?_) fun path => ?_ <;> rw [validator_optional, needs]
  · exact gives_running id h.present value path
  · unfold onAbsent Validator.optional
    dsimp only
    cases modifiers.fallback with
    | some output => exact gives_done _
    | none => exact (h.absent path).map _

/-- **A lazy node restores the counter.** It gives the result of its target one
level deeper, or the failure to go there. -/
theorem gives_resolve {target : Deferred} {limit : Nat} (htarget : target.IsNamed names)
    (h : scope.depth < scope.limitAt limit →
      (earlier.target target).Gives names earlier (scope.enter limit)) (value : Value)
    (path : Path) : (Run.resolve target limit value path .done).Gives names earlier scope
      (Family.resolve earlier.target earlier.today scope target limit value path)
      (earlier.opensAt scope target limit value path) := by
  intro β next active session hsession
  by_cases hdepth : scope.depth < scope.limitAt limit
  · -- after the target, one more step closes the node
    obtain ⟨n, hafter, hn⟩ := (h hdepth).present value path
      (fun result => .close scope (next result)) (limit :: active) (hsession.build htarget)
    rw [Session.opensAt, Family.opens_of_lt hdepth]
    refine ⟨n + 1 + 1, hafter, ?_⟩
    rw [Family.resolve_of_lt hdepth, Machine.steps, Run.bind, Machine.step_resolve_of_lt hdepth,
      hsession.target_eq htarget, Machine.steps_add]
    exact congrArg Machine.step hn
  · rw [Session.opensAt, Family.opens_of_not_lt hdepth]
    refine ⟨1, hsession, ?_⟩
    rw [Family.resolve_of_not_lt hdepth]
    exact Machine.step_resolve_of_not_lt hdepth

theorem gives_lazy {target : Deferred} {limit : Nat} {modifiers : Modifiers Value}
    (htarget : target.IsNamed names)
    (h : scope.depth < scope.limitAt limit →
      (earlier.target target).Gives names earlier (scope.enter limit)) :
    (lazy target limit modifiers).Gives names earlier scope := by
  refine .of_layer (fun value path => ?_) fun path => ?_
  · rw [needs]
    exact gives_running id (gives_resolve htarget h) value path
  · have hmissing : (modifiers.missing id path).Gives names earlier scope
        (((lazy target limit modifiers).validator (earlier.envAt scope)).absent path) [] :=
      gives_missing modifiers ((earlier.envAt scope).resolve target limit) id path
    rw [needs]
    unfold onAbsent
    dsimp only
    split
    · -- the default needs the target, so it is built
      intro β next active session hsession
      obtain ⟨n, hafter, hn⟩ := hmissing next active (hsession.build htarget)
      exact ⟨n + 1, hafter, hn⟩
    · exact hmissing

/-- **Every schema gives what its validator does.** It builds what it needs. -/
theorem gives (h : earlier.IsNamed names) (scope : Scope) {s : Schema} (hs : s.IsNamed names) :
    s.Gives names earlier scope := by
  refine Family.induction (motive := fun scope s => s.Gives names earlier scope) h.every_target ?_
    scope hs
  intro scope s hs targets
  induction hs with
  | text | number | boolean | date | enumeration =>
    exact .of_layer (gives_leaf _ _ _) (gives_missing _ _ _)
  | object _ _ ih => exact gives_object ih
  | array _ _ ih => exact gives_array ih
  | tuple _ _ ih => exact gives_tuple ih
  | union _ _ ih => exact gives_union ih
  | optional _ _ ih => exact gives_optional ih
  | @lazy target limit _ h => exact gives_lazy h (targets target limit)

end Schema

/-- A call gives what its answer is and builds what it needs. -/
theorem Call.gives {s : Schema} (h : s.Gives names earlier scope) (c : Call) :
    (c.running s).Gives names earlier scope (c.answer (s.validator (earlier.envAt scope)))
      (c.needs (earlier.envAt scope) (earlier.opensAt scope) s) := by
  cases c with
  | parse input path => exact h.parse input path
  | parseArray value path =>
    cases value with
    | array items =>
      refine Run.Gives.map (Run.gives_mapM ?_) _
      rintro ⟨x, i⟩ -
      exact h.present x (path.index i)
    | _ => exact Run.gives_done _
  | parseRecord value path =>
    cases value with
    | object members =>
      refine Run.Gives.map (Run.gives_mapM ?_) _
      rintro ⟨key, x⟩ -
      exact (h.present x (path.field key)).map _
    | _ => exact Run.gives_done _

end Gives

namespace Machine

variable {names : Nat → String} {session : Session}

/-- **The machine answers a call as the session does.** It leaves the session that the call
leaves, and the counter stands outside of all lazy nodes again. -/
theorem answers (h : session.IsNamed names) {s : Schema} (hs : s.IsNamed names) (c : Call) :
    ∃ n, (start ⟨session, .outside⟩ s c).steps n =
      finished ⟨(session.call s c).2, .outside⟩ (session.call s c).1 := by
  obtain ⟨n, -, hn⟩ := c.gives (Schema.gives h .outside hs) .done [] h.since
  rw [Run.bind_done] at hn
  exact ⟨n, hn⟩

end Machine

end Conform
