/-!
# CaseRun — how case mappings are stored

A mapping of code points is a list of runs. `mapByRuns` looks a code point
up in it; `CaseRun.preimage?` goes the other way.
-/


namespace Conform.Unicode

/-- Code points from `first` to `last`, in steps of `step`, that are all
mapped by the same distance. -/
structure CaseRun where
  first : Nat
  last : Nat
  step : Nat
  shift : Int

/-- The code points that the run maps. -/
def CaseRun.sources (run : CaseRun) : List Nat :=
  (List.range ((run.last - run.first) / run.step + 1)).map fun i => run.first + i * run.step

/-- The code point belongs to the run. -/
def CaseRun.covers (run : CaseRun) (n : Nat) : Bool :=
  run.first ≤ n && n ≤ run.last && (n - run.first) % run.step = 0

/-- Where the run maps a code point. -/
def CaseRun.image (run : CaseRun) (n : Nat) : Nat := (n + run.shift).toNat

/-- The code point that the run maps to this one. -/
def CaseRun.preimage? (run : CaseRun) (n : Nat) : Option Nat :=
  let source := (n - run.shift).toNat
  if run.covers source && run.image source = n then some source else none

/-- The image of a code point under the run that covers it. -/
def mapByRuns : List CaseRun → Nat → Option Nat
  | [], _ => none
  | run :: rest, n => if run.covers n then some (run.image n) else mapByRuns rest n

end Conform.Unicode
