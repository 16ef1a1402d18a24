import Conform.Proofs.Machine.Answer
import Conform.Proofs.Node
/-!
# Memory — calls that follow each other

Calls share the targets that have been built and the counter of open lazy
nodes. A call that finds a target in place runs it, and a call that finds
the counter moved would have less depth. `Memory.Serves` says what the
machine answers to calls made one after the other, each on the memory that
the one before has left, and `Session.calls` says the same of a session.

The main result is that none of this shows. Every call is answered as it
would be on freshly built validators, so the order of the calls decides
nothing but the order of the answers.
-/


namespace Conform

/-- A schema that is used, and how. -/
structure Use where
  schema : Schema
  call : Call

namespace Session

/-- Answers calls one after the other, each in the session that the one before
has left. -/
def calls (session : Session) : List Use → List (Checked (Option Value)) × Session
  | [] => ([], session)
  | use :: rest =>
    let first := session.call use.schema use.call
    let others := calls first.2 rest
    (first.1 :: others.1, others.2)

/-- The answer when the validators have just been built and no call was made. -/
def answerFresh (session : Session) (use : Use) : Checked (Option Value) :=
  (session.cleared.call use.schema use.call).1

variable {names : Nat → String} {session : Session}

/-- Sessions with the same definitions have the same fresh validators. -/
theorem answerFresh_congr {other : Session} (h : other.cleared = session.cleared) :
    other.answerFresh = session.answerFresh := by
  funext use
  rw [answerFresh, h, answerFresh]

/-- A session answers calls one after the other as if each were the first. -/
theorem IsNamed.calls_eq (h : session.IsNamed names) {uses : List Use}
    (huses : ∀ use ∈ uses, use.schema.IsNamed names) :
    (session.calls uses).1 = uses.map session.answerFresh := by
  induction uses generalizing session with
  | nil => rfl
  | cons use rest ih =>
    have huse := huses use List.mem_cons_self
    obtain ⟨hafter, hcleared⟩ := h.after_call huse use.call
    have hrest := ih hafter fun other hother => huses other (List.mem_cons_of_mem use hother)
    rw [answerFresh_congr hcleared] at hrest
    rw [calls, List.map_cons, hrest, h.call_eq huse, answerFresh]

end Session

/-- The machine answers calls one after the other, each begun on the memory that
the one before has left. -/
inductive Memory.Serves : Memory → List Use → List (Checked (Option Value)) → Memory → Prop
  | nil (memory : Memory) : Serves memory [] [] memory
  | cons {memory after last : Memory} {use : Use} {rest : List Use}
      {answer : Checked (Option Value)} {answers : List (Checked (Option Value))} (n : Nat) :
      (Machine.start memory use.schema use.call).steps n = Machine.finished after answer →
      Serves after rest answers last → Serves memory (use :: rest) (answer :: answers) last

namespace Memory.Serves

variable {names : Nat → String} {session : Session} {uses : List Use}

/-- The machine gets through all calls and answers as the session does. It leaves the session
that the calls leave, and the counter outside of all lazy nodes. -/
theorem of_calls (h : session.IsNamed names) (huses : ∀ use ∈ uses, use.schema.IsNamed names) :
    Serves ⟨session, .outside⟩ uses (session.calls uses).1 ⟨(session.calls uses).2, .outside⟩ := by
  induction uses generalizing session with
  | nil => exact .nil _
  | cons use rest ih =>
    have huse := huses use List.mem_cons_self
    obtain ⟨n, hn⟩ := Machine.answers h huse use.call
    have hrest := ih (h.after_call huse use.call).1 fun other hother =>
      huses other (List.mem_cons_of_mem use hother)
    exact .cons n hn hrest

/-- There is one way to answer calls one after the other. -/
theorem unique {memory last last' : Memory} {answers answers' : List (Checked (Option Value))}
    (h : Serves memory uses answers last) (h' : Serves memory uses answers' last') :
    answers = answers' ∧ last = last' := by
  induction h generalizing answers' with
  | nil =>
    cases h'
    exact ⟨rfl, rfl⟩
  | cons n hn _ ih =>
    cases h' with
    | cons n' hn' hrest' =>
      obtain ⟨rfl, rfl⟩ := Machine.finished_unique hn hn'
      obtain ⟨rfl, rfl⟩ := ih hrest'
      exact ⟨rfl, rfl⟩

end Memory.Serves

namespace Session

variable {names : Nat → String} {session : Session} {uses : List Use}

/-- The answers of the machine are those on fresh validators. -/
theorem IsNamed.answers_eq (h : session.IsNamed names)
    (huses : ∀ use ∈ uses, use.schema.IsNamed names) {answers : List (Checked (Option Value))}
    {last : Memory} (hserves : Memory.Serves ⟨session, .outside⟩ uses answers last) :
    answers = uses.map session.answerFresh ∧ last.scope = .outside := by
  obtain ⟨rfl, rfl⟩ := hserves.unique (.of_calls h huses)
  exact ⟨h.calls_eq huses, rfl⟩

/-- **Calls leave no trace.** The machine gets through any list of calls, and
begun outside of all lazy nodes it ends there. Each call has the answer that
it has on freshly built validators, on the machine as in the session. So
other sessions with the same definitions give the same answers, whatever
they have built, and calls in another order have the same answers in that
order. Validating is asking whether the answer of a call passed. -/
theorem calls_eq_answerFresh (h : session.IsNamed names)
    (huses : ∀ use ∈ uses, use.schema.IsNamed names) :
    (session.calls uses).1 = uses.map session.answerFresh ∧
      (∃ answers last, Memory.Serves ⟨session, .outside⟩ uses answers last) ∧
      ∀ answers last, Memory.Serves ⟨session, .outside⟩ uses answers last →
        answers = uses.map session.answerFresh ∧ last.scope = .outside ∧
        ∀ other : Session, other.IsNamed names → other.cleared = session.cleared →
          ∀ uses' answers' last', uses'.Perm uses →
            Memory.Serves ⟨other, .outside⟩ uses' answers' last' →
            (uses'.zip answers').Perm (uses.zip answers) := by
  refine ⟨h.calls_eq huses, ?_, fun answers last hserves => ?_⟩
  · exact ⟨_, _, .of_calls h huses⟩
  · obtain ⟨rfl, hscope⟩ := h.answers_eq huses hserves
    refine ⟨rfl, hscope, fun other hother hcleared uses' answers' last' hperm hserves' => ?_⟩
    have huses' : ∀ use ∈ uses', use.schema.IsNamed names :=
      fun use huse => huses use (hperm.subset huse)
    obtain ⟨rfl, -⟩ := hother.answers_eq huses' hserves'
    -- a use and its answer are made of the use alone
    rw [answerFresh_congr hcleared, ← List.map_prod_left_eq_zip, ← List.map_prod_left_eq_zip]
    exact hperm.map _

/-- Definitions with a recursive one, and nothing built. -/
def workshop : Session := ⟨[("part", .part {})], 0, []⟩

/-- A wagon is used twice, with copies of a lazy node. The first copy does not let
the wagon have parts. -/
def wagonUses : List Use :=
  let wagon := Value.object [("name", .string "wagon"), ("mass", .number (.integer 90)),
    ("parts", .array [.object [("name", .string "wheel"), ("mass", .number (.integer 7))]])]
  [⟨.lazy ⟨"part", some 0⟩ 1 {}, .parse (some wagon) .root⟩,
    ⟨.lazy ⟨"part", some 0⟩ 3 {}, .parse (some wagon) .root⟩]

theorem isNamed_workshop : workshop.IsNamed fun _ => "part" := by
  have hpart : (Schema.part {}).IsNamed fun _ => "part" :=
    Schema.every_part trivial trivial trivial trivial trivial nofun
  refine ⟨fun name => ?_, nofun⟩
  rw [Definitions.schema, workshop, List.lookup_cons]
  cases name == "part" with
  | true => exact hpart
  | false => exact .union trivial nofun

/-- The call that is stopped by its limit takes nothing from the one after it. -/
theorem calls_wagon :
    workshop.IsNamed (fun _ => "part") ∧
      (∀ use ∈ wagonUses, use.schema.IsNamed fun _ => "part") ∧
      (∃ answers last, Memory.Serves ⟨workshop, .outside⟩ wagonUses answers last ∧
        answers.map Checked.passed = [false, true]) := by
  have huses : ∀ use ∈ wagonUses, use.schema.IsNamed fun _ => "part" := by
    simp only [wagonUses, List.forall_mem_cons]
    exact ⟨.lazy (fun handle _ => rfl), .lazy (fun handle _ => rfl), nofun⟩
  obtain ⟨-, ⟨answers, last, hserves⟩, hanswers⟩ := calls_eq_answerFresh isNamed_workshop huses
  refine ⟨isNamed_workshop, huses, answers, last, hserves, ?_⟩
  rw [(hanswers answers last hserves).1]
  decide +kernel

end Session

end Conform
