import Conform.Proofs.Counter
import Conform.Proofs.Machine.Answer
/-!
# Termination — every call on the machine ends

Input does not have to shrink while a schema runs: a lazy node may hand its
target the very value it was given, and preparing may make the value
larger. What shrinks is the distance from the depth to the limit when a
lazy node is opened, and the schema in every other step down. So no call
goes on for ever, on whatever memory it is begun.

`Run.Asks` lists what a run can ask for, after any answers to what it asked
for before. `Visit.Calls` is read off it: which visit of a schema calls
which. The second result is about the open lazy nodes: there are never
more of them than the smallest of their limits.
-/


namespace Conform

/-! ## What a run asks for -/

/-- What a run can ask for. -/
inductive Request where
  | visit (s : Schema)
  | resolve (target : Deferred) (limit : Nat)
  | close

namespace Run

variable {α β : Type} {q : Request}

/-- The run asks for this, after some answers to what it asked for before. -/
def Asks : Run α → Request → Prop
  | done _, _ => False
  | absent s _ next, q => q = .visit s ∨ ∃ r, (next r).Asks q
  | present s _ _ next, q => q = .visit s ∨ ∃ r, (next r).Asks q
  | build _ next, q => next.Asks q
  | resolve target limit _ _ next, q => q = .resolve target limit ∨ ∃ r, (next r).Asks q
  | close _ next, q => q = .close ∨ next.Asks q

theorem asks_bind {run : Run α} {f : α → Run β} (h : (run.bind f).Asks q) :
    run.Asks q ∨ ∃ a, (f a).Asks q := by
  induction run with
  | done result => exact .inr ⟨result, h⟩
  | absent s path next ih | present s value path next ih | resolve target limit value path next ih =>
    rcases h with rfl | ⟨r, h⟩
    · exact .inl (.inl rfl)
    · exact (ih r h).imp_left fun h => .inr ⟨r, h⟩
  | build target next ih => exact ih h
  | close previous next ih =>
    rcases h with rfl | h
    · exact .inl (.inl rfl)
    · exact (ih h).imp_left .inr

/-- What is made of the result in the end asks for nothing. -/
theorem asks_of_bind_done {run : Run α} {f : α → β} (h : (run.bind fun a => done (f a)).Asks q) :
    run.Asks q :=
  (asks_bind h).resolve_right fun ⟨_, h⟩ => h.elim

/-- A loop asks for what one of its rounds asks for. -/
theorem asks_mapM {f : α → Run β} {list : List α} (h : (list.mapM f).Asks q) :
    ∃ a ∈ list, (f a).Asks q := by
  induction list with
  | nil => exact h.elim
  | cons a rest ih =>
    rw [List.mapM_cons] at h
    rcases asks_bind h with h | ⟨b, h⟩
    · exact ⟨a, List.mem_cons_self, h⟩
    · rcases asks_bind h with h | ⟨bs, h⟩
      · obtain ⟨other, hother, h⟩ := ih h
        exact ⟨other, List.mem_cons_of_mem a hother, h⟩
      · exact h.elim

theorem asks_parse {s : Schema} {input : Option Value} {path : Path}
    (h : (parse s input path).Asks q) : q = .visit s := by
  cases input <;> exact h.resolve_right fun ⟨r, h⟩ => h.elim

/-- A run of one schema and nothing else asks for that schema. -/
theorem asks_present {s : Schema} {value : Value} {path : Path} {f : Checked Value → α}
    (h : (present s value path fun r => done (f r)).Asks q) : q = .visit s :=
  h.resolve_right fun ⟨_, h⟩ => h.elim

end Run

/-! ## Requests are about children -/

namespace Schema

mutual

/-- The number of nodes of a schema. The targets of lazy nodes do not count. -/
def size : Schema → Nat
  | object ⟨fields, _, _, _⟩ => fieldSizes fields + 1
  | array item _ _ => size item + 1
  | tuple _ items _ => sizes items + 1
  | union alternatives _ => sizes alternatives + 1
  | optional inner _ => size inner + 1
  | _ => 1

/-- The number of nodes of the schemas of a list. -/
def sizes : List Schema → Nat
  | [] => 0
  | s :: rest => size s + sizes rest

/-- The number of nodes of the fields of an object. -/
def fieldSizes : List (String × Schema) → Nat
  | [] => 0
  | (_, s) :: rest => size s + fieldSizes rest

end

theorem size_le_sizes {child : Schema} {items : List Schema} (h : child ∈ items) :
    child.size ≤ sizes items := by
  induction items with
  | nil => cases h
  | cons s rest ih =>
    rw [sizes]
    rcases List.mem_cons.1 h with rfl | h
    · omega
    · have := ih h
      omega

theorem size_le_fieldSizes {field : String × Schema} {fields : List (String × Schema)}
    (h : field ∈ fields) : field.2.size ≤ fieldSizes fields := by
  induction fields with
  | nil => cases h
  | cons first rest ih =>
    obtain ⟨name, s⟩ := first
    rw [fieldSizes]
    rcases List.mem_cons.1 h with rfl | h
    · exact Nat.le_add_right ..
    · have := ih h
      omega

/-- A request of a schema is about a child of it, or it is a lazy node's own. -/
def Within (s : Schema) (q : Request) : Prop :=
  (∃ child, q = .visit child ∧ child.size < s.size) ∨
    ∃ target limit modifiers, q = .resolve target limit ∧ s = .lazy target limit modifiers

variable {s : Schema} {q : Request}

theorem within_of_size_lt {child : Schema} (h : child.size < s.size) : s.Within (.visit child) :=
  .inl ⟨child, rfl, h⟩

/-- Modifiers ask for nothing. -/
theorem asks_running {α : Type} {m : Modifiers α} {step : Value → Path → Run (Checked α)}
    {toValue : α → Value} {value : Value} {path : Path}
    (h : (m.running step toValue value path).Asks q) : (step (m.prepared value) path).Asks q :=
  Run.asks_of_bind_done h

theorem asks_object {shape : ObjectShape Schema} {value : Value} {path : Path}
    (h : (shape.running value path).Asks q) : (object shape).Within q := by
  cases value with
  | object members =>
    have h := Run.asks_of_bind_done h
    obtain ⟨field, hfield, h⟩ := Run.asks_mapM h
    have h := Run.asks_of_bind_done h
    obtain rfl := Run.asks_parse h
    obtain ⟨fields, _, _, _⟩ := shape
    exact within_of_size_lt (Nat.lt_succ_of_le (size_le_fieldSizes hfield))
  | _ => exact h.elim

theorem asks_array {item : Schema} {rule : ArrayRule} {modifiers : Modifiers (List Value)}
    {value : Value} {path : Path} (h : (rule.running item value path).Asks q) :
    (array item rule modifiers).Within q := by
  cases value with
  | array items =>
    have h := Run.asks_of_bind_done h
    obtain ⟨x, -, h⟩ := Run.asks_mapM h
    obtain rfl := Run.asks_present h
    exact within_of_size_lt (Nat.lt_succ_self _)
  | _ => exact h.elim

theorem asks_tuple {kind : TupleKind} {items : List Schema} {modifiers : Modifiers (List Value)}
    {value : Value} {path : Path} (h : (Tuple.running kind items value path).Asks q) :
    (tuple kind items modifiers).Within q := by
  cases value with
  | array values =>
    unfold Tuple.running at h
    dsimp only at h
    split at h
    · have h := (Run.asks_bind h).resolve_right fun ⟨_, h⟩ => h.elim
      obtain ⟨⟨⟨child, x⟩, i⟩, hmem, h⟩ := Run.asks_mapM h
      obtain rfl := Run.asks_present h
      have hchild := (List.of_mem_zip (List.fst_mem_of_mem_zipIdx hmem)).1
      exact within_of_size_lt (Nat.lt_succ_of_le (size_le_sizes hchild))
    · exact h.elim
  | _ => exact h.elim

theorem asks_runningFirst {alternatives : List Schema} {value : Value} {path : Path}
    (h : (Union.runningFirst alternatives value path).Asks q) :
    ∃ child ∈ alternatives, q = .visit child := by
  induction alternatives with
  | nil => exact h.elim
  | cons first rest ih =>
    rcases h with rfl | ⟨r, h⟩
    · exact ⟨first, List.mem_cons_self, rfl⟩
    · cases r with
      | ok output => exact h.elim
      | error issues =>
        rcases Run.asks_bind h with h | ⟨result, h⟩
        · obtain ⟨child, hchild, rfl⟩ := ih h
          exact ⟨child, List.mem_cons_of_mem first hchild, rfl⟩
        · cases result <;> exact h.elim

theorem asks_union {alternatives : List Schema} {modifiers : Modifiers Value} {value : Value}
    {path : Path} (h : (Union.running alternatives value path).Asks q) :
    (union alternatives modifiers).Within q := by
  have h := Run.asks_of_bind_done h
  obtain ⟨child, hchild, rfl⟩ := asks_runningFirst h
  exact within_of_size_lt (Nat.lt_succ_of_le (size_le_sizes hchild))

theorem within_of_asks_onPresent {today : Int} {value : Value} {path : Path}
    (h : (s.onPresent today value path).Asks q) : s.Within q := by
  cases s with
  | text | number | boolean | date | enumeration =>
    rw [onPresent] at h
    exact (asks_running h).elim
  | object shape => exact asks_object (asks_running h)
  | array item rule modifiers => exact asks_array (asks_running h)
  | tuple kind items modifiers => exact asks_tuple (asks_running h)
  | union alternatives modifiers => exact asks_union (asks_running h)
  | optional inner modifiers =>
    rw [onPresent] at h
    obtain rfl := Run.asks_present (asks_running h)
    exact within_of_size_lt (Nat.lt_succ_self _)
  | lazy target limit modifiers =>
    rw [onPresent] at h
    have h := (asks_running h).resolve_right fun ⟨r, h⟩ => h.elim
    exact .inr ⟨target, limit, modifiers, h, rfl⟩

theorem within_of_asks_onAbsent {path : Path} (h : (s.onAbsent path).Asks q) : s.Within q := by
  cases s with
  | optional inner modifiers =>
    unfold onAbsent at h
    dsimp only at h
    split at h
    · exact h.elim
    · obtain rfl := h.resolve_right fun ⟨r, h⟩ => h.elim
      exact within_of_size_lt (Nat.lt_succ_self _)
  | lazy target limit modifiers =>
    unfold onAbsent at h
    dsimp only at h
    split at h <;> exact h.elim
  | _ => exact h.elim

/-- Absent input only leads to children. -/
theorem exists_of_asks_onAbsent {path : Path} (h : (s.onAbsent path).Asks q) :
    ∃ child, q = .visit child := by
  cases s with
  | optional inner modifiers =>
    unfold onAbsent at h
    dsimp only at h
    split at h
    · exact h.elim
    · exact ⟨inner, h.resolve_right fun ⟨r, h⟩ => h.elim⟩
  | lazy target limit modifiers =>
    unfold onAbsent at h
    dsimp only at h
    split at h <;> exact h.elim
  | _ => exact h.elim

end Schema

/-! ## Calls shrink -/

/-- A schema that runs inside a number of open lazy nodes. -/
structure Visit where
  scope : Scope
  schema : Schema

namespace Visit

/-- One visit calls another: it asks for the run of a schema, or it opens a lazy
node within the limit, whatever the memory holds as its target. -/
inductive Calls : Visit → Visit → Prop
  | present {scope : Scope} {s child : Schema} (today : Int) (value : Value) (path : Path) :
      (s.onPresent today value path).Asks (.visit child) → Calls ⟨scope, s⟩ ⟨scope, child⟩
  | absent {scope : Scope} {s child : Schema} (path : Path) :
      (s.onAbsent path).Asks (.visit child) → Calls ⟨scope, s⟩ ⟨scope, child⟩
  | target {scope : Scope} {s : Schema} {target : Deferred} {limit : Nat} (today : Int)
      (value : Value) (path : Path) (session : Session) :
      (s.onPresent today value path).Asks (.resolve target limit) →
      scope.depth < scope.limitAt limit →
      Calls ⟨scope, s⟩ ⟨scope.enter limit, session.target target⟩

/-- How many more lazy nodes can be opened, and how large the schema is. -/
def measure (visit : Visit) : Nat × Nat := (visit.scope.remaining, visit.schema.size)

/-- The order of measures: what remains of the limit counts first. -/
def Less : Nat × Nat → Nat × Nat → Prop := Prod.Lex (· < ·) (· < ·)

theorem wellFounded_less : WellFounded Less := (Prod.lex Nat.lt_wfRel Nat.lt_wfRel).wf

theorem less_of_visit {scope : Scope} {s child : Schema} (h : s.Within (.visit child)) :
    Less (measure ⟨scope, child⟩) (measure ⟨scope, s⟩) := by
  rcases h with ⟨other, heq, hsize⟩ | ⟨target, limit, modifiers, heq, -⟩
  · obtain rfl := Request.visit.inj heq
    exact .right _ hsize
  · cases heq

/-- **Every call shrinks.** -/
theorem Calls.less {caller callee : Visit} (h : caller.Calls callee) :
    Less callee.measure caller.measure := by
  cases h with
  | present today value path h => exact less_of_visit (Schema.within_of_asks_onPresent h)
  | absent path h => exact less_of_visit (Schema.within_of_asks_onAbsent h)
  | target today value path session h hdepth => exact .left _ _ (Scope.remaining_enter_lt hdepth)

end Visit

/-! ## The machine stops -/

namespace Machine

variable {α β : Type} {session : Session} {scope : Scope} {active : List Nat}

/-- After some steps the machine is done. -/
def Halts (m : Machine α) : Prop := ∃ n answer, (m.steps n).run = .done answer

theorem Halts.of_step {m : Machine α} (h : m.step.Halts) : m.Halts := by
  obtain ⟨n, answer, h⟩ := h
  exact ⟨n + 1, answer, h⟩

/-- Every run of the schema inside these lazy nodes ends, if it ends for all
answers to it. -/
structure Ends (scope : Scope) (s : Schema) : Prop where
  present : ∀ ⦃α : Type⦄ (session : Session) (active : List Nat) (value : Value) (path : Path)
    (next : Checked Value → Run α),
    (∀ r session', Halts ⟨⟨session', scope⟩, active, next r⟩) →
    Halts ⟨⟨session, scope⟩, active, .present s value path next⟩
  absent : ∀ ⦃α : Type⦄ (session : Session) (active : List Nat) (path : Path)
    (next : Checked (Option Value) → Run α),
    (∀ r session', Halts ⟨⟨session', scope⟩, active, next r⟩) →
    Halts ⟨⟨session, scope⟩, active, .absent s path next⟩

/-- A request whose run ends. -/
def Answered (scope : Scope) : Request → Prop
  | .visit s => Ends scope s
  | .resolve target limit => scope.depth < scope.limitAt limit →
      ∀ session : Session, Ends (scope.enter limit) (session.target target)
  | .close => False

/-- A run whose requests are answered goes on to what follows it. -/
theorem halts_bind {run : Run α} (hrun : ∀ q, run.Asks q → Answered scope q) {next : α → Run β}
    (hnext : ∀ a session', Halts ⟨⟨session', scope⟩, active, next a⟩) (session : Session) :
    Halts ⟨⟨session, scope⟩, active, run.bind next⟩ := by
  induction run generalizing session with
  | done result => exact hnext result session
  | absent s path rest ih =>
    have hs : Ends scope s := hrun _ (.inl rfl)
    exact hs.absent session active path _ fun r session' =>
      ih r (fun q h => hrun q (.inr ⟨r, h⟩)) session'
  | present s value path rest ih =>
    have hs : Ends scope s := hrun _ (.inl rfl)
    exact hs.present session active value path _ fun r session' =>
      ih r (fun q h => hrun q (.inr ⟨r, h⟩)) session'
  | build target rest ih => exact Halts.of_step (ih hrun (session.build target))
  | resolve target limit value path rest ih =>
    have hrest (r : Checked Value) (session' : Session) :
        Halts ⟨⟨session', scope⟩, active, (rest r).bind next⟩ :=
      ih r (fun q h => hrun q (.inr ⟨r, h⟩)) session'
    refine Halts.of_step ?_
    by_cases hdepth : scope.depth < scope.limitAt limit
    · have htarget : Ends (scope.enter limit) (session.target target) :=
        hrun _ (.inl rfl) hdepth session
      rw [Run.bind, step_resolve_of_lt hdepth]
      -- the target ends, and then the counter is put back
      exact htarget.present _ _ value path _ fun r session' => Halts.of_step (hrest r session')
    · rw [Run.bind, step_resolve_of_not_lt hdepth]
      exact hrest _ session
  | close previous rest ih => exact (hrun _ (.inl rfl)).elim

/-- Requests on present input are answered if all calls end. -/
theorem answered_of_onPresent {s : Schema} {today : Int} {value : Value} {path : Path}
    {q : Request} (ih : ∀ callee, Visit.Calls ⟨scope, s⟩ callee → Ends callee.scope callee.schema)
    (h : (s.onPresent today value path).Asks q) : Answered scope q := by
  cases q with
  | visit child => exact ih _ (.present today value path h)
  | resolve target limit => exact fun hdepth session => ih _ (.target today value path session h hdepth)
  | close => rcases Schema.within_of_asks_onPresent h with ⟨_, heq, -⟩ | ⟨_, _, _, heq, -⟩ <;> cases heq

/-- Requests on absent input open no lazy node. -/
theorem answered_of_onAbsent {s : Schema} {path : Path} {q : Request}
    (ih : ∀ callee, Visit.Calls ⟨scope, s⟩ callee → Ends callee.scope callee.schema)
    (h : (s.onAbsent path).Asks q) : Answered scope q := by
  obtain ⟨child, rfl⟩ := Schema.exists_of_asks_onAbsent h
  exact ih _ (.absent path h)

/-- Every run of every schema ends. -/
theorem ends (visit : Visit) : Ends visit.scope visit.schema := by
  induction visit using (InvImage.wf Visit.measure Visit.wellFounded_less).induction with
  | _ visit ih =>
    obtain ⟨scope, s⟩ := visit
    have hcalls callee (h : Visit.Calls ⟨scope, s⟩ callee) : Ends callee.scope callee.schema :=
      ih callee h.less
    constructor
    · intro α session active value path next hnext
      exact Halts.of_step (halts_bind (fun q h => answered_of_onPresent hcalls h) hnext session)
    · intro α session active path next hnext
      exact Halts.of_step (halts_bind (fun q h => answered_of_onAbsent hcalls h) hnext session)

/-- A call asks for nothing but its schema. -/
theorem eq_visit_of_asks_running {s : Schema} {c : Call} {q : Request} (h : (c.running s).Asks q) :
    q = .visit s := by
  cases c with
  | parse input path => exact Run.asks_parse h
  | parseArray value path =>
    cases value with
    | array items =>
      obtain ⟨x, -, h⟩ := Run.asks_mapM (Run.asks_of_bind_done h)
      exact Run.asks_present h
    | _ => exact h.elim
  | parseRecord value path =>
    cases value with
    | object members =>
      obtain ⟨x, -, h⟩ := Run.asks_mapM (Run.asks_of_bind_done h)
      exact Run.asks_present h
    | _ => exact h.elim

theorem halts_start (memory : Memory) (s : Schema) (c : Call) : (start memory s c).Halts := by
  have hrun : ∀ q, (c.running s).Asks q → Answered memory.scope q := by
    intro q h
    obtain rfl := eq_visit_of_asks_running h
    exact ends ⟨memory.scope, s⟩
  have hdone (answer : Checked (Option Value)) (session : Session) :
      Halts ⟨⟨session, memory.scope⟩, [], .done answer⟩ := ⟨0, answer, rfl⟩
  have hbind := halts_bind hrun hdone memory.session
  rw [Run.bind_done] at hbind
  exact hbind

end Machine

/-! ## How many lazy nodes are open -/

namespace Run

variable {α β : Type}

/-- The run closes the open lazy nodes, from the innermost: each puts back the
counter for the nodes around it. -/
def Closes : Run α → List Nat → Prop
  | done _, active => active = []
  | absent _ _ next, active => ∀ r, (next r).Closes active
  | present _ _ _ next, active => ∀ r, (next r).Closes active
  | build _ next, active => next.Closes active
  | resolve _ _ _ _ next, active => ∀ r, (next r).Closes active
  | close previous next, active => ∃ limit rest, active = limit :: rest ∧
      previous = Scope.inside rest.reverse ∧ next.Closes rest

/-- What closes nothing leaves it to what follows. -/
theorem closes_bind {run : Run α} (hrun : ¬ run.Asks .close) {next : α → Run β} {active : List Nat}
    (hnext : ∀ a, (next a).Closes active) : (run.bind next).Closes active := by
  induction run with
  | done result => exact hnext result
  | absent s path rest ih | present s value path rest ih | resolve target limit value path rest ih =>
    exact fun r => ih r fun h => hrun (.inr ⟨r, h⟩)
  | build target rest ih => exact ih hrun
  | close previous rest ih => exact absurd (.inl rfl) hrun

end Run

namespace Scope

theorem inside_reverse_cons (limit : Nat) (active : List Nat) :
    inside (limit :: active).reverse = (inside active.reverse).enter limit := by
  rw [inside, List.reverse_cons, List.foldl_append]
  rfl

theorem depth_inside_reverse (active : List Nat) : (inside active.reverse).depth = active.length := by
  rw [inside, depth_foldl_enter, List.length_reverse]
  exact Nat.zero_add _

/-- The limit in force is not above that of any open node. -/
theorem limit_inside_le {active : List Nat} : ∀ limit ∈ active, (inside active.reverse).limit ≤ limit := by
  induction active with
  | nil => nofun
  | cons first rest ih =>
    intro limit hlimit
    rw [inside_reverse_cons]
    rcases List.mem_cons.1 hlimit with rfl | hlimit
    · exact Nat.min_le_right ..
    · exact Nat.le_trans (Nat.min_le_left ..) (ih limit hlimit)

end Scope

namespace Machine

variable {α : Type} {m : Machine α}

/-- The counter stands at the open lazy nodes, there are not more of them than
any of their limits allows, and the run will close them all. -/
structure Balanced (m : Machine α) : Prop where
  scope_eq : m.memory.scope = Scope.inside m.active.reverse
  length_le : ∀ limit ∈ m.active, m.active.length ≤ limit
  closes : m.run.Closes m.active

/-- **A step keeps the balance.** -/
theorem Balanced.step (h : m.Balanced) : m.step.Balanced := by
  obtain ⟨⟨session, scope⟩, active, run⟩ := m
  obtain ⟨hscope, hlength, hcloses⟩ := h
  cases run with
  | done answer => exact ⟨hscope, hlength, hcloses⟩
  | absent s path next =>
    refine ⟨hscope, hlength, Run.closes_bind (fun h => ?_) hcloses⟩
    obtain ⟨child, heq⟩ := Schema.exists_of_asks_onAbsent h
    cases heq
  | present s value path next =>
    refine ⟨hscope, hlength, Run.closes_bind (fun h => ?_) hcloses⟩
    rcases Schema.within_of_asks_onPresent h with ⟨_, heq, -⟩ | ⟨_, _, _, heq, -⟩ <;> cases heq
  | build target next => exact ⟨hscope, hlength, hcloses⟩
  | resolve target limit value path next =>
    by_cases hdepth : scope.depth < scope.limitAt limit
    · rw [step_resolve_of_lt hdepth]
      obtain rfl : scope = Scope.inside active.reverse := hscope
      refine ⟨(Scope.inside_reverse_cons limit active).symm, fun other hother => ?_,
        fun r => ⟨limit, active, rfl, rfl, hcloses r⟩⟩
      -- the depth is below the limit in force, and that is below all limits
      rw [Scope.depth_inside_reverse, Scope.limitAt] at hdepth
      show (limit :: active).length ≤ other
      rw [List.length_cons]
      rcases List.mem_cons.1 hother with rfl | hother
      · omega
      · have := Scope.limit_inside_le other hother
        omega
    · rw [step_resolve_of_not_lt hdepth]
      exact ⟨hscope, hlength, hcloses _⟩
  | close previous next =>
    obtain ⟨limit, rest, rfl, rfl, hrest⟩ := hcloses
    refine ⟨rfl, fun other hother => ?_, hrest⟩
    have : (limit :: rest).length ≤ other := hlength other (List.mem_cons_of_mem limit hother)
    show rest.length ≤ other
    rw [List.length_cons] at this
    omega

theorem Balanced.steps (h : m.Balanced) (n : Nat) : (m.steps n).Balanced := by
  induction n generalizing m with
  | zero => exact h
  | succ n ih => exact ih h.step

theorem balanced_start (session : Session) (s : Schema) (c : Call) :
    (start ⟨session, .outside⟩ s c).Balanced where
  scope_eq := rfl
  length_le := nofun
  closes := by
    have hrun : ¬ (c.running s).Asks .close := fun h => by
      cases eq_visit_of_asks_running h
    have hbind : ((c.running s).bind Run.done).Closes [] := Run.closes_bind hrun fun _ => rfl
    rwa [Run.bind_done] at hbind

theorem Balanced.eq_finished (h : m.Balanced) {answer : α} (hrun : m.run = .done answer) :
    m = finished ⟨m.memory.session, .outside⟩ answer := by
  obtain ⟨⟨session, scope⟩, active, run⟩ := m
  obtain ⟨hscope, -, hcloses⟩ := h
  subst hrun
  -- a run that is done has no node left to close
  obtain rfl : active = [] := hcloses
  obtain rfl : scope = .outside := hscope
  rfl

/-- **Every call ends.** Begun outside of all lazy nodes, on any session, the
machine gives an answer after some steps, and where nodes of one handle have
one name, it is the answer of the session. Every visit of a schema is smaller
than the one that calls it: less remains of the limit, or as much remains
and the schema is smaller. At any time, the counter stands at the number of
open lazy nodes, and there are at most as many as the smallest of their
limits allows. -/
theorem call_ends (session : Session) (s : Schema) (c : Call) :
    (∃ n after answer,
      (start ⟨session, .outside⟩ s c).steps n = finished ⟨after, .outside⟩ answer ∧
        ∀ names, session.IsNamed names → s.IsNamed names → answer = (session.call s c).1) ∧
      (∀ caller callee, Visit.Calls caller callee → Visit.Less callee.measure caller.measure) ∧
      ∀ n, let m := (start ⟨session, .outside⟩ s c).steps n
        m.memory.scope.depth = m.active.length ∧ ∀ limit ∈ m.active, m.active.length ≤ limit := by
  have hbalanced := (balanced_start session s c).steps
  refine ⟨?_, fun caller callee h => h.less, fun n => ⟨?_, (hbalanced n).length_le⟩⟩
  · obtain ⟨n, answer, hanswer⟩ := halts_start ⟨session, .outside⟩ s c
    have hfinished := (hbalanced n).eq_finished hanswer
    refine ⟨n, _, answer, hfinished, fun names h hs => ?_⟩
    obtain ⟨n', hn'⟩ := answers h hs c
    exact (finished_unique hfinished hn').2
  · show ((start ⟨session, .outside⟩ s c).steps n).memory.scope.depth = _
    rw [(hbalanced n).scope_eq, Scope.depth_inside_reverse]

end Machine

end Conform
