import Conform.Proofs.Memory
/-!
# Initialization — when a shared target is built

A lazy node can be asked whether its target has been built, and its copies
give the same answer: they share the target, whatever limits and modifiers
they have. Two kinds of events build it. The node is run on present input
and the limit lets it go on to the target, or an output of it is written
down as a value. A default is such an output. For the output of present
input, writing it down comes too late to matter: the node has its target by
then.

`Machine.Fires` says that the next step of the machine is such an event. A
step that is none leaves all targets as they are, so at every moment of
every run a target is built if it was at the start or if an event of its
handle has taken place since. An `Act` is one thing that is done with
schemas, and acts follow each other in one run.
-/


namespace Conform

/-- The target of a lazy node has been built. -/
def Schema.isInitialized (session : Session) : Schema → Bool
  | lazy target _ _ => (target.handle.map session.isInitialized).getD false
  | _ => false

namespace Session

end Session

/-! ## Events -/

namespace Machine

variable {α : Type}

section Parsing

variable (memory : Memory) (active : List Nat) (target : Deferred) (limit : Nat)
  (modifiers : Modifiers Value) (input : Option Value) (path : Path)
  (next : Checked (Option Value) → Run α)

end Parsing

end Machine

/-! ## Acts that follow each other -/

/-- One thing that is done with schemas. -/
inductive Act where
  /-- A call whose outputs are written down as values. -/
  | call (s : Schema) (c : Call)
  /-- A parse whose output is kept as it is. -/
  | parse (s : Schema) (input : Option Value) (path : Path)
  /-- Writing down an output that was kept. Each of the lazy nodes that it comes from is asked
  for its target. -/
  | convert (nodes : List Deferred)

namespace Act

/-- How an act runs. A default that is not written down does not need the target. -/
def running : Act → Run Unit
  | call s c => do
    let _ ← c.running s
    return ()
  | parse (.lazy _ _ modifiers) none path => do
    let _ ← modifiers.missing id path
    return ()
  | parse s input path => do
    let _ ← Run.parse s input path
    return ()
  | convert nodes => nodes.foldr Run.build (.done ())

/-- All lazy nodes of the act have the names of their handles. -/
def IsNamed (names : Nat → String) : Act → Prop
  | call s _ => s.IsNamed names
  | parse s _ _ => s.IsNamed names
  | convert nodes => ∀ d ∈ nodes, d.IsNamed names

end Act

namespace Session

variable {names : Nat → String} {session : Session}

section Call

variable (target : Deferred) (limit : Nat) (modifiers : Modifiers Value) (input : Option Value)
  (path : Path)

end Call

end Session

end Conform
