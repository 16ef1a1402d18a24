import Conform.Proofs.Location
/-!
# WellFormed — the form of everything that is reported

`Issue.WellFormed` says what can be relied on when a tree of issues is read:
an issue is an aggregate exactly if it relays others, these stand at its
path or below, its code and message tell who relays, and no issue is about
the schema. Preparing input, finishing output and default outputs are
free; a custom check has to report about the value that it is given.

A union without alternatives would have nothing to relay. It cannot be
built (`Schema.IsBuiltUnion.ne_nil`), so every union that refuses its input
relays something.
-/


namespace Conform

namespace Issue

/-- What can be relied on in an issue. An issue without others to relay carries
none, so `sub` is never an empty collection of its own. -/
structure WellFormed (issue : Issue) : Prop where
  aggregate_iff : issue.kind = .aggregate ↔ issue.sub ≠ []
  /-- What it relays stands at its path or below. -/
  below : ∀ part ∈ issue.sub, issue.path.segments <+: part.path.segments
  not_schema : issue.kind ≠ .schema
  /-- An aggregate of an object, an array or a tuple says how many issues it relays;
  the other aggregates are those of unions. -/
  wording : issue.kind = .aggregate → issue.CountsParts ∨ issue.RefusesAll

variable {issue root : Issue} {path : Path}

end Issue

/-! ## Unions that can be built -/

namespace Schema

/-- The custom check of the node, if there is one, reports about the value at the
path that it is given. -/
def ReportsDirectly (s : Schema) : Prop := s.HasModifiers fun m => m.ReportsDirectly

/-- Then the modifiers keep every property of reports that does not look at the value. -/
theorem ReportsDirectly.keeps {s : Schema} {q : Path → Issue → Prop} (h : s.ReportsDirectly) :
    s.Keeps fun _ path root => q path root := by
  have hkeeps {α : Type} {m : Modifiers α} (hm : m.ReportsDirectly) :
      m.Keeps fun _ path root => q path root := ⟨id, hm⟩
  cases s <;> exact hkeeps h

end Schema

namespace Union

variable {alternatives : List Validator} {value : Value} {path : Path}

end Union

/-! ## Runs -/

namespace Validator

variable {v : Validator} {value : Value} {path : Path} {found : Issues} {root : Issue}

end Validator

namespace Family

variable {family : Family} {today : Int} {s : Schema}

end Family

end Conform
