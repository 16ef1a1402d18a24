import Conform.Issue.Display
import Conform.Proofs.Digits
import Conform.Proofs.Issue.Tree
/-!
# Display — the text of a tree of issues shows the tree

A display has a line for every issue, indented by its level, and a line begins with blanks and
then a dash. Whatever the issue itself says stands behind that dash, so the level of a line is
found by counting its blanks, even if messages begin with blanks or dashes of their own.

A `LineTree` is what a reader is meant to see: the issues as lines, each with those it relays
below it. Its `entries` are the lines with their levels, depth first, and they determine the
tree: below a line stands all that follows at a higher level (`entriesOf_append_inj`).
-/


namespace Conform

/-- A line of text, and trees of lines below it. -/
inductive LineTree where
  | node (line : String) (below : List LineTree)

namespace LineTree

/-! ## Levels -/

mutual

/-- The lines of a tree that stands at a level, each with its own level, depth first. -/
def entries (level : Nat) : LineTree → List (Nat × String)
  | node line below => (level, line) :: entriesOf (level + 1) below

/-- The lines of trees that stand at a level, in order. -/
def entriesOf (level : Nat) : List LineTree → List (Nat × String)
  | [] => []
  | tree :: rest => entries level tree ++ entriesOf level rest

end

/-- What follows the lines of trees at a level: it begins at a lower one. -/
def BeginsBelow (level : Nat) (entries : List (Nat × String)) : Prop :=
  ∀ entry ∈ entries.head?, entry.1 < level

variable {level : Nat} {rest rest' : List (Nat × String)}

theorem entriesOf_cons (line : String) (below later : List LineTree) :
    entriesOf level (node line below :: later) =
      (level, line) :: (entriesOf (level + 1) below ++ entriesOf level later) := by
  rw [entriesOf, entries, List.cons_append]

/-- Lines at a level begin below the next one. -/
theorem BeginsBelow.append (h : BeginsBelow level rest) (trees : List LineTree) :
    BeginsBelow (level + 1) (entriesOf level trees ++ rest) := by
  cases trees with
  | nil => exact fun entry hentry => Nat.lt_succ_of_lt (h entry hentry)
  | cons tree later =>
    obtain ⟨line, below⟩ := tree
    rw [entriesOf_cons]
    rintro entry ⟨⟩
    exact Nat.lt_succ_self level

/-- Where trees begin, nothing begins that follows trees of this level. -/
theorem BeginsBelow.ne_entriesOf_cons (h : BeginsBelow level rest) (tree : LineTree)
    (later : List LineTree) : rest ≠ entriesOf level (tree :: later) ++ rest' := by
  obtain ⟨line, below⟩ := tree
  rintro rfl
  rw [entriesOf_cons] at h
  exact Nat.lt_irrefl level (h (level, line) rfl)

/-- **Lines and levels determine the trees.** The recursion goes down into the first tree, whose
lines are followed by those of the other trees, and along the trees. -/
theorem entriesOf_append_inj : ∀ {level : Nat} {trees others : List LineTree}
    {rest rest' : List (Nat × String)}, BeginsBelow level rest → BeginsBelow level rest' →
      entriesOf level trees ++ rest = entriesOf level others ++ rest' →
        trees = others ∧ rest = rest'
  | _, [], [], _, _, _, _, h => ⟨rfl, h⟩
  | _, [], other :: others, _, _, hrest, _, h => absurd h (hrest.ne_entriesOf_cons other others)
  | _, tree :: trees, [], _, _, _, hrest', h =>
    absurd h.symm (hrest'.ne_entriesOf_cons tree trees)
  | level, node line below :: trees, node line' below' :: others, rest, rest', hrest, hrest', h => by
    rw [entriesOf_cons, entriesOf_cons, List.cons_append, List.cons_append, List.append_assoc,
      List.append_assoc, List.cons.injEq, Prod.mk.injEq] at h
    obtain ⟨⟨-, rfl⟩, hbehind⟩ := h
    obtain ⟨rfl, hlater⟩ := entriesOf_append_inj (hrest.append trees) (hrest'.append others) hbehind
    obtain ⟨rfl, rfl⟩ := entriesOf_append_inj hrest hrest' hlater
    exact ⟨rfl, rfl⟩

theorem entriesOf_inj {trees others : List LineTree} :
    entriesOf level trees = entriesOf level others ↔ trees = others := by
  refine ⟨fun h => ?_, congrArg _⟩
  have hnil : BeginsBelow level [] := by rintro entry ⟨⟩
  exact (entriesOf_append_inj hnil hnil (by rw [h])).1

/-! ## Indented lines -/

/-- A line as it is displayed. -/
def indented (entry : Nat × String) : String := indentation entry.1 ++ "- " ++ entry.2

theorem toList_indented (entry : Nat × String) :
    (indented entry).toList = List.replicate (2 * entry.1) ' ' ++ '-' :: ' ' :: entry.2.toList := by
  rw [indented, indentation, String.toList_append, String.toList_append, String.toList_ofList,
    List.append_assoc]
  rfl

/-- Blanks in front of something else can be counted. -/
theorem replicate_append_inj {c d : Char} (hdc : d ≠ c) {m n : Nat} {text text' : List Char}
    (h : List.replicate m c ++ d :: text = List.replicate n c ++ d :: text') :
    m = n ∧ text = text' := by
  induction m generalizing n with
  | zero =>
    cases n with
    | zero => exact ⟨rfl, (List.cons.inj h).2⟩
    | succ n => exact absurd (List.cons.inj h).1 hdc
  | succ m ih =>
    cases n with
    | zero => exact absurd (List.cons.inj h).1.symm hdc
    | succ n =>
      obtain ⟨hcount, htext⟩ := ih (List.cons.inj h).2
      exact ⟨congrArg Nat.succ hcount, htext⟩

/-- An indented line shows its level and its text. -/
theorem indented_injective : Function.Injective indented := by
  intro entry other h
  have htext := congrArg String.toList h
  rw [toList_indented, toList_indented] at htext
  obtain ⟨hcount, hrest⟩ := replicate_append_inj (by decide) htext
  refine Prod.ext (by omega) (String.toList_injective ?_)
  exact (List.cons.inj hrest).2

end LineTree

/-! ## Issues as lines -/

namespace Issue

mutual

/-- The tree of an issue as lines. -/
def lineTree : Issue → LineTree
  | ⟨path, kind, code, message, value, expected, sub⟩ =>
    .node (line ⟨path, kind, code, message, value, expected, []⟩) (lineTrees sub)

/-- The trees of a list of issues as lines. -/
def lineTrees : List Issue → List LineTree
  | [] => []
  | issue :: rest => lineTree issue :: lineTrees rest

end

open LineTree

mutual

theorem lines_eq (level : Nat) : ∀ issue : Issue,
    lines level issue = (entries level (lineTree issue)).map indented
  | ⟨path, kind, code, message, value, expected, sub⟩ => by
    rw [lines, lineTree, entries, List.map_cons, linesOf_eq (level + 1) sub, indented]

/-- Displayed are the lines with their levels. -/
theorem linesOf_eq (level : Nat) : ∀ list : List Issue,
    linesOf level list = (entriesOf level (lineTrees list)).map indented
  | [] => rfl
  | issue :: rest => by
    rw [linesOf, lineTrees, entriesOf, List.map_append, lines_eq level issue, linesOf_eq level rest]

end

mutual

theorem map_snd_entries (level : Nat) : ∀ issue : Issue,
    (entries level (lineTree issue)).map Prod.snd = issue.nodes.map line
  | ⟨path, kind, code, message, value, expected, sub⟩ => by
    rw [lineTree, entries, nodes, List.map_cons, List.map_cons, map_snd_entriesOf (level + 1) sub]
    rfl

/-- There is one line for every issue, and they are in the order of the issues. -/
theorem map_snd_entriesOf (level : Nat) : ∀ list : List Issue,
    (entriesOf level (lineTrees list)).map Prod.snd = (nodesOf list).map line
  | [] => rfl
  | issue :: rest => by
    rw [lineTrees, entriesOf, nodesOf, List.map_append, List.map_append, map_snd_entries level issue,
      map_snd_entriesOf level rest]

end

end Issue

theorem Issue.length_lineTrees (list : List Issue) : (lineTrees list).length = list.length := by
  induction list with
  | nil => rfl
  | cons issue rest ih => rw [lineTrees, List.length_cons, ih, List.length_cons]

/-! ## Lines of a text -/

theorem notMem_toList_append {c : Char} {text more : String} (h : c ∉ text.toList)
    (hmore : c ∉ more.toList) : c ∉ (text ++ more).toList := by
  rw [String.toList_append, List.mem_append, not_or]
  exact ⟨h, hmore⟩

/-- A text of lines that are each ended by a line break falls back into them, and nothing is
behind the last one. -/
theorem splitOn_terminated {lines : List String} (h : ∀ line ∈ lines, '\n' ∉ line.toList) :
    (String.join (lines.map (· ++ "\n"))).toList.splitOn '\n' = lines.map String.toList ++ [[]] := by
  have htext : (String.join (lines.map (· ++ "\n"))).toList =
      ['\n'].intercalate (lines.map String.toList ++ [[]]) := by
    induction lines with
    | nil => rfl
    | cons line rest ih =>
      rw [List.map_cons, String.join_cons, String.toList_append, String.toList_append,
        ih fun other hother => h other (List.mem_cons_of_mem _ hother), List.map_cons,
        List.cons_append, List.intercalate_cons_of_ne_nil (by simp)]
      rfl
  rw [htext, List.splitOn_intercalate '\n' ?_ (by simp)]
  intro piece hpiece
  rcases List.mem_append.1 hpiece with hpiece | hpiece
  · obtain ⟨line, hline, rfl⟩ := List.mem_map.1 hpiece
    exact h line hline
  · rw [List.mem_singleton.1 hpiece]
    exact List.not_mem_nil

namespace Issues

theorem newline_notMem_header (count : Nat) : '\n' ∉ (header count).toList := by
  have hbefore : '\n' ∉ "Validation failed with ".toList := by decide
  have hbehind : '\n' ∉ " issue(s):".toList := by decide
  have hcount : '\n' ∉ (toString count).toList := by
    rw [show (toString count).toList = Nat.toDigits 10 count from Nat.toList_repr]
    exact fun h => absurd (isAsciiDigit_of_mem_toDigits h) (by decide)
  exact notMem_toList_append (notMem_toList_append hbefore hcount) hbehind

/-- No issue of the trees has a line break in its line. -/
def IsPlain (issues : Issues) : Prop :=
  ∀ issue ∈ Issue.nodesOf issues.toList, '\n' ∉ issue.line.toList

open LineTree

variable {issues : Issues}

/-- A display is a matter of the lines. -/
theorem display_eq (issues : Issues) : issues.display =
    String.join ((header (Issue.lineTrees issues.toList).length :: (entriesOf 1
      (Issue.lineTrees issues.toList)).map indented).map (· ++ "\n")) := by
  rw [display, Issue.linesOf_eq, Issue.length_lineTrees, length]

/-- The lines of a display, the header first. -/
theorem IsPlain.splitOn_display (h : issues.IsPlain) :
    issues.display.toList.splitOn '\n' = (header issues.length :: (entriesOf 1
      (Issue.lineTrees issues.toList)).map indented).map String.toList ++ [[]] := by
  rw [display, Issue.linesOf_eq]
  refine splitOn_terminated (List.forall_mem_cons.2 ⟨newline_notMem_header _, ?_⟩)
  intro line hline
  obtain ⟨entry, hentry, rfl⟩ := List.mem_map.1 hline
  have hnode : entry.2 ∈ (Issue.nodesOf issues.toList).map Issue.line := by
    rw [← Issue.map_snd_entriesOf 1]
    exact List.mem_map_of_mem hentry
  obtain ⟨issue, hissue, heq⟩ := List.mem_map.1 hnode
  rw [toList_indented, ← heq]
  simp [h issue hissue]

/-- **A display shows the whole tree.** Let no issue of the trees have a line break in its line.
Then a display falls at its line breaks into the header and one indented line for every issue,
depth first; and two displays are equal exactly if the trees are, line by line and with the same
lines below each. -/
theorem display_shows_trees (h : issues.IsPlain) :
    issues.display.toList.splitOn '\n' = (header issues.length :: (entriesOf 1
        (Issue.lineTrees issues.toList)).map indented).map String.toList ++ [[]] ∧
      (entriesOf 1 (Issue.lineTrees issues.toList)).map Prod.snd =
        (Issue.nodesOf issues.toList).map Issue.line ∧
      ∀ {other : Issues}, other.IsPlain → (issues.display = other.display ↔
        Issue.lineTrees issues.toList = Issue.lineTrees other.toList) := by
  refine ⟨h.splitOn_display, Issue.map_snd_entriesOf 1 _, fun hother => ⟨fun hdisplay => ?_, ?_⟩⟩
  · have hpieces := congrArg (fun text : String => text.toList.splitOn '\n') hdisplay
    rw [h.splitOn_display, hother.splitOn_display] at hpieces
    have hlines := (List.map_inj_right fun _ _ h => String.toList_injective h).1
      (List.append_cancel_right hpieces)
    have hentries := (List.map_inj_right fun _ _ h => indented_injective h).1
      (List.cons.inj hlines).2
    exact entriesOf_inj.1 hentries
  · intro htrees
    rw [display_eq, display_eq, htrees]

/-- An object whose name is refused, with a message that looks like another line. -/
def refusedCard (below beside : List Issue) : Issues := .single
  { Issue.new .root .aggregate "Object validation failed" with
    sub := { Issue.new (Path.root.field "name") .refinement "  - age: too long" with
      sub := below } :: beside }

/-- A missing age. -/
def missingAge : Issue := .required (Path.root.field "age")

/-- Whether the missing age stands beside the refused name or below it can be told from the
display, although the lines say the same. -/
theorem display_refusedCard :
    (refusedCard [] [missingAge]).IsPlain ∧ (refusedCard [missingAge] []).IsPlain ∧
      (refusedCard [] [missingAge]).display.toList.splitOn '\n' =
        ["Validation failed with 1 issue(s):",
          "  - (root): Object validation failed",
          "    - name:   - age: too long",
          "    - age: expected a value, but received nothing (expected: value)"].map String.toList ++
            [[]] ∧
      (refusedCard [] [missingAge]).display ≠ (refusedCard [missingAge] []).display := by
  have hplain : (refusedCard [] [missingAge]).IsPlain := by
    unfold IsPlain
    decide +kernel
  have hplain' : (refusedCard [missingAge] []).IsPlain := by
    unfold IsPlain
    decide +kernel
  obtain ⟨hlines, -, hiff⟩ := display_shows_trees hplain
  refine ⟨hplain, hplain', hlines.trans rfl, fun heq => ?_⟩
  have htrees := (hiff hplain').1 heq
  simp [refusedCard, Issue.lineTrees, Issue.lineTree, single, toList] at htrees

/-- A message with a line break can look like an issue of its own. -/
example : (refusedCard [] [Issue.new .root .refinement "bad\n    - (root): worse"]).display =
    (refusedCard [] [Issue.new .root .refinement "bad",
      Issue.new .root .refinement "worse"]).display := by decide +kernel

end Issues

end Conform
