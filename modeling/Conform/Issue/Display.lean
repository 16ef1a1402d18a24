import Conform.Issue
/-!
# Display — issues as text

`Issue.line` is one issue on one line. `Issues.display` shows a whole tree:
a header with the number of top-level issues, then a line for every
issue, depth first, indented two spaces for every level.
-/


namespace Conform

/-- The place, the message, and what was expected. -/
def Issue.line (issue : Issue) : String :=
  let place := if issue.path.isRoot then "(root)" else issue.path.render
  let expected := match issue.expected with
    | some expected => " (expected: " ++ expected ++ ")"
    | none => ""
  place ++ ": " ++ issue.message ++ expected

/-- The indentation of a level. -/
def indentation (level : Nat) : String := String.ofList (List.replicate (2 * level) ' ')

namespace Issue

mutual

/-- The lines of the tree of an issue at a level. -/
def lines (level : Nat) : Issue → List String
  | ⟨path, kind, code, message, value, expected, sub⟩ =>
    (indentation level ++ "- " ++ line ⟨path, kind, code, message, value, expected, []⟩) ::
      linesOf (level + 1) sub

/-- The lines of a list of issues at a level. -/
def linesOf (level : Nat) : List Issue → List String
  | [] => []
  | issue :: rest => lines level issue ++ linesOf level rest

end

end Issue

/-- The header over a number of issues. -/
def Issues.header (count : Nat) : String :=
  "Validation failed with " ++ toString count ++ " issue(s):"

/-- The tree of all issues, every line ended by a line break. -/
def Issues.display (issues : Issues) : String :=
  String.join ((Issues.header issues.length :: Issue.linesOf 1 issues.toList).map (· ++ "\n"))

end Conform
