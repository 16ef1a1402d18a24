import Conform.Proofs.Duplicates
import Conform.Proofs.Node
import Mathlib.Data.Finset.Card
/-!
# FirstOccurrences — what an array without duplicates keeps

`dropDuplicates` looks at groups of positions and leaves out all but the first of
each. `firstOccurrences` looks at the items themselves: one stays if no earlier item
has its key. The two agree, and what is kept has every key once, in the order in
which the keys came up.

The removal can also be done with marks, one for each item, that are set at
the positions of the groups. No position is outside of the marks, so this is the
same removal once more.
-/


namespace Conform

variable {α : Type} {key : α → String} {items kept : List α} {keys : List String} {i : Nat}

/-! ## First occurrences -/

/-- The items whose key no earlier item has. -/
def firstOccurrences (key : α → String) (items : List α) : List α :=
  (items.zipIdx.filter fun (item, i) => !((items.take i).map key).contains (key item)).map Prod.fst

/-- An item at the end is kept if its key is new. -/
theorem firstOccurrences_concat (items : List α) (item : α) :
    firstOccurrences key (items ++ [item]) =
      firstOccurrences key items ++ if key item ∈ items.map key then [] else [item] := by
  -- those in front see the same earlier items as before
  have hfront : (items.zipIdx.filter fun (x, i) =>
        !(((items ++ [item]).take i).map key).contains (key x)) =
      items.zipIdx.filter fun (x, i) => !((items.take i).map key).contains (key x) := by
    refine List.filter_congr ?_
    rintro ⟨x, i⟩ hmem
    have hi : i ≤ items.length := Nat.le_of_lt (List.snd_lt_of_mem_zipIdx hmem)
    dsimp only
    rw [List.take_append_of_le_length hi]
  unfold firstOccurrences
  rw [List.zipIdx_append, List.filter_append, List.map_append, hfront]
  congr 1
  by_cases hkey : key item ∈ items.map key <;> simp [hkey]

/-- The keys of what is kept are the keys of all items, each once. -/
theorem map_firstOccurrences (items : List α) :
    (firstOccurrences key items).map key = (items.map key).eraseDups := by
  induction items using List.reverseRecOn with
  | nil => rfl
  | append_singleton items item ih =>
    rw [firstOccurrences_concat, List.map_append, List.map_append, ih, List.map_singleton,
      eraseDups_concat]
    split <;> simp

theorem firstOccurrences_sublist (items : List α) : (firstOccurrences key items).Sublist items := by
  have hsublist := (List.filter_sublist (l := items.zipIdx)
    (p := fun (item, i) => !((items.take i).map key).contains (key item))).map Prod.fst
  rwa [List.zipIdx_map_fst] at hsublist

theorem length_firstOccurrences (items : List α) :
    (firstOccurrences key items).length = (items.map key).toFinset.card := by
  have hkeys : (items.map key).toFinset = (items.map key).eraseDups.toFinset := by
    ext k
    simp
  rw [hkeys, List.toFinset_card_of_nodup (nodup_eraseDups _), ← map_firstOccurrences,
    List.length_map]

/-- Items with different keys are all kept. -/
theorem firstOccurrences_eq_self (h : (items.map key).Nodup) :
    firstOccurrences key items = items := by
  refine (firstOccurrences_sublist items).eq_of_length ?_
  rw [length_firstOccurrences, List.toFinset_card_of_nodup h, List.length_map]

/-! ## The later members of groups -/

/-- In a list that increases, the members behind the first are those above another. -/
theorem mem_drop_one_iff {indices : List Nat} (h : indices.Pairwise (· < ·)) :
    i ∈ indices.drop 1 ↔ i ∈ indices ∧ ∃ j ∈ indices, j < i := by
  cases indices with
  | nil => simp
  | cons first rest =>
    obtain ⟨hfirst, -⟩ := List.pairwise_cons.1 h
    rw [List.drop_one, List.tail_cons]
    constructor
    · intro hi
      exact ⟨List.mem_cons_of_mem _ hi, first, List.mem_cons_self, hfirst i hi⟩
    · rintro ⟨hi, j, hj, hlt⟩
      refine (List.mem_cons.1 hi).resolve_left ?_
      rintro rfl
      -- nothing is below the first
      rcases List.mem_cons.1 hj with rfl | hj
      · omega
      · have := hfirst j hj
        omega

/-- A position is a later member of a group if an earlier one has its key. -/
theorem mem_later_iff :
    i ∈ (findDuplicates keys).flatMap (fun indices => indices.drop 1) ↔
      ∃ h : i < keys.length, keys[i] ∈ keys.take i := by
  have hgroup (k : String) : i ∈ (keys.idxsOf k).drop 1 ↔
      i ∈ keys.idxsOf k ∧ ∃ j ∈ keys.idxsOf k, j < i := mem_drop_one_iff List.pairwise_idxsOf
  simp only [List.mem_flatMap, mem_findDuplicates, List.mem_take_iff_getElem]
  constructor
  · rintro ⟨_, ⟨k, rfl, -⟩, hi⟩
    obtain ⟨hi, j, hj, hlt⟩ := (hgroup k).1 hi
    obtain ⟨hlength, rfl⟩ := mem_idxsOf_iff.1 hi
    obtain ⟨hlength', hkey⟩ := mem_idxsOf_iff.1 hj
    exact ⟨hlength, j, by omega, hkey⟩
  · rintro ⟨hlength, j, hj, hkey⟩
    have hi : i ∈ (keys.idxsOf keys[i]).drop 1 :=
      (hgroup _).2 ⟨mem_idxsOf_iff.2 ⟨hlength, rfl⟩, j, mem_idxsOf_iff.2 ⟨by omega, hkey⟩, by omega⟩
    have hcount : 1 < keys.count keys[i] := by
      have hpos := List.length_pos_of_mem hi
      rw [List.length_drop, List.length_idxsOf] at hpos
      omega
    exact ⟨_, ⟨keys[i], rfl, hcount⟩, hi⟩

/-- **Leaving out the later members of groups keeps first occurrences.** -/
theorem dropDuplicates_eq (items : List α) :
    dropDuplicates items (items.map key) = firstOccurrences key items := by
  show (items.zipIdx.filter _).map Prod.fst = _
  unfold firstOccurrences
  congr 1
  refine List.filter_congr ?_
  rintro ⟨item, i⟩ hmem
  obtain ⟨hi, hitem⟩ : ∃ h : i < items.length, items[i] = item :=
    List.getElem?_eq_some_iff.1 (List.mk_mem_zipIdx_iff_getElem?.1 hmem)
  have hlater : i ∈ (findDuplicates (items.map key)).flatMap (fun indices => indices.drop 1) ↔
      key item ∈ (items.take i).map key := by
    rw [mem_later_iff]
    simp [hi, hitem]
  dsimp only
  rw [Bool.eq_iff_iff]
  simp only [Bool.not_eq_true', Bool.eq_false_iff, ne_eq, List.contains_iff_mem, hlater]

/-! ## The removal by marks -/

/-- Marks a position. There is no position outside of the list. -/
def markAt? (marks : List Bool) (i : Nat) : Option (List Bool) :=
  if i < marks.length then some (marks.set i true) else none

/-- The marks of the later members of groups. There are none if a group is empty or
has a position outside of the list. -/
def laterMarks? (length : Nat) (groups : List (List Nat)) : Option (List Bool) :=
  (groups.mapM List.tail?).bind fun later =>
    later.flatten.foldlM markAt? (List.replicate length false)

/-- The items that are not marked as later members of a group of duplicates. -/
def dropMarked? (items : List α) (keys : List String) : Option (List α) :=
  (laterMarks? items.length (findDuplicates keys)).map fun marks =>
    ((items.zip marks).filter fun (_, marked) => !marked).map Prod.fst

/-- Marking positions inside of the list marks them and leaves the others as they are. -/
theorem foldlM_markAt? {marks : List Bool} {indices : List Nat}
    (h : ∀ i ∈ indices, i < marks.length) :
    ∃ marked, indices.foldlM markAt? marks = some marked ∧ marked.length = marks.length ∧
      ∀ (i : Nat) (hi : i < marked.length) (hi' : i < marks.length),
        marked[i] = (marks[i] || indices.contains i) := by
  induction indices generalizing marks with
  | nil => exact ⟨marks, rfl, rfl, by simp⟩
  | cons first rest ih =>
    have hfirst : markAt? marks first = some (marks.set first true) := if_pos (h first (by simp))
    have hrest : ∀ i ∈ rest, i < (marks.set first true).length := by
      intro i hi
      rw [List.length_set]
      exact h i (List.mem_cons_of_mem _ hi)
    obtain ⟨marked, hmarked, hlength, hmarks⟩ := ih hrest
    refine ⟨marked, ?_, by simpa using hlength, fun i hi hi' => ?_⟩
    · rw [List.foldlM_cons, hfirst]
      exact hmarked
    · rw [hmarks i hi (by simpa using hi'), List.getElem_set]
      by_cases heq : first = i
      · simp [heq]
      · have hne : ¬ i = first := fun h => heq h.symm
        simp [heq, hne]

/-- No group is empty. -/
theorem mapM_tail?_findDuplicates (keys : List String) :
    (findDuplicates keys).mapM List.tail? =
      some ((findDuplicates keys).map fun indices => indices.drop 1) := by
  have hgroups : ∀ indices ∈ findDuplicates keys, indices.tail? = some (indices.drop 1) := by
    intro indices hmem
    obtain ⟨k, rfl, hcount⟩ := mem_findDuplicates.1 hmem
    cases hgroup : keys.idxsOf k with
    | nil =>
      have hlength : (keys.idxsOf k).length = keys.count k := List.length_idxsOf
      rw [hgroup, List.length_nil] at hlength
      omega
    | cons first rest => rfl
  generalize findDuplicates keys = groups at hgroups
  induction groups with
  | nil => rfl
  | cons first rest ih =>
    rw [List.mapM_cons, hgroups first List.mem_cons_self,
      ih fun indices hmem => hgroups indices (List.mem_cons_of_mem _ hmem)]
    rfl

/-- **Every position that is marked is one of an item**, and what stays without a mark
is what stays in the groups' way. -/
theorem dropMarked?_eq (h : items.length = keys.length) :
    dropMarked? items keys = some (dropDuplicates items keys) := by
  have hinside : ∀ i ∈ (findDuplicates keys).flatMap (fun indices => indices.drop 1),
      i < (List.replicate items.length false).length := by
    intro i hi
    obtain ⟨hlength, -⟩ := mem_later_iff.1 hi
    rw [List.length_replicate]
    omega
  obtain ⟨marks, hmarks, hlength, hmark⟩ := foldlM_markAt? hinside
  rw [List.length_replicate] at hlength
  have hlater : laterMarks? items.length (findDuplicates keys) = some marks := by
    rw [laterMarks?, mapM_tail?_findDuplicates, Option.bind_some]
    exact hmarks
  -- an item with its mark is an item with its position, read off the groups
  have hzip : items.zip marks = items.zipIdx.map fun (item, i) =>
      (item, ((findDuplicates keys).flatMap fun indices => indices.drop 1).contains i) := by
    refine List.ext_getElem (by simp [hlength]) fun i hi hi' => ?_
    have hi : i < marks.length := by simpa [hlength] using hi'
    simp [hmark i hi (by simpa [hlength] using hi)]
  rw [dropMarked?, hlater, Option.map_some, hzip, List.filter_map, List.map_map]
  rfl

/-! ## What is kept -/

/-- The items without those whose key an earlier item has. -/
structure KeepsFirst (key : α → String) (items kept : List α) : Prop where
  eq_first : kept = firstOccurrences key items
  sublist : kept.Sublist items
  distinct : (kept.map key).Nodup
  /-- Every key stays. -/
  covers : ∀ item ∈ items, key item ∈ kept.map key
  length_eq : kept.length = (items.map key).toFinset.card
  /-- Where the keys are different, nothing goes. -/
  eq_self : (items.map key).Nodup → kept = items
  /-- A second removal takes nothing away. -/
  stable : dropDuplicates kept (kept.map key) = kept
  /-- Every position that the removal marks is one of an item. -/
  marked : dropMarked? items (items.map key) = some kept

theorem keepsFirst_dropDuplicates (key : α → String) (items : List α) :
    KeepsFirst key items (dropDuplicates items (items.map key)) := by
  have hdistinct : ((firstOccurrences key items).map key).Nodup := by
    rw [map_firstOccurrences]
    exact nodup_eraseDups _
  rw [dropDuplicates_eq]
  exact {
    eq_first := rfl
    sublist := firstOccurrences_sublist items
    distinct := hdistinct
    covers := fun item hitem => by
      rw [map_firstOccurrences, List.mem_eraseDups]
      exact List.mem_map_of_mem hitem
    length_eq := length_firstOccurrences items
    eq_self := firstOccurrences_eq_self
    stable := (dropDuplicates_eq _).trans (firstOccurrences_eq_self hdistinct)
    marked := by
      rw [dropMarked?_eq (List.length_map _).symm, dropDuplicates_eq] }

namespace Schema

/-- **An array without duplicates keeps the first of its elements with each text.** Where
it accepts its input, the elements all pass, and of their outputs exactly those are
handed to the custom check, and on to the output, whose text no earlier one has. -/
theorem array_keeps_first {item : Schema} {r : ArrayRule} (hdedupe : r.dedupe = true)
    {m : Modifiers (List Value)} {env : Env} {value result : Value} {path : Path}
    (h : (array item r m).attempt env value path = .ok result) :
    ∃ items outputs kept : List Value, m.prepared value = .array items ∧
      (item.validator env).onItems items path = outputs.map .ok ∧
      KeepsFirst Value.text outputs kept ∧
      (∃ checked, m.checked kept path = .ok checked ∧ result = .array (m.finished checked)) ∧
      (m.HookFree → result = .array kept) := by
  rw [attempt, validator_array, Validator.array, Modifiers.validator_present,
    Checked.map_eq_ok_iff] at h
  obtain ⟨final, hpresent, rfl⟩ := h
  obtain ⟨kept, checked, hcheck, hchecked, rfl⟩ := Modifiers.conclude_eq_ok_iff.1 hpresent
  obtain ⟨items, hitems⟩ : ∃ items, m.prepared value = .array items := by
    cases hvalue : m.prepared value with
    | array items => exact ⟨items, rfl⟩
    | _ =>
      rw [hvalue] at hcheck
      cases hcheck
  rw [hitems] at hcheck
  obtain ⟨outputs, houtputs, -, -, rfl⟩ := ArrayRule.conclude_eq_ok_iff.1 hcheck
  have hkept : r.outputOf outputs = dropDuplicates outputs (outputs.map Value.text) :=
    if_pos hdedupe
  rw [hkept] at hchecked
  refine ⟨items, outputs, _, hitems, houtputs, keepsFirst_dropDuplicates _ _,
    ⟨checked, hchecked, rfl⟩, fun hm => ?_⟩
  have hsame : dropDuplicates outputs (outputs.map Value.text) = checked := by
    simpa [Modifiers.checked, hm.custom] using hchecked
  simp [Modifiers.finished, hm.finish, hsame]

/-- An array that leaves out duplicates. -/
def withoutDuplicates (item : Schema) : Schema := array item ({} : ArrayRule).withoutDuplicates {}

/-- Of two bolts around a nut the first is kept. -/
theorem keeps_first_bolt :
    (withoutDuplicates (text {} {})).attempt inMachine
        (.array [.string "bolt", .string "nut", .string "bolt"]) .root =
      .ok (.array [.string "bolt", .string "nut"]) ∧
    KeepsFirst Value.text [.string "bolt", .string "nut", .string "bolt"]
      [.string "bolt", .string "nut"] := by
  have hparse : (withoutDuplicates (text {} {})).attempt inMachine
      (.array [.string "bolt", .string "nut", .string "bolt"]) .root =
        .ok (.array [.string "bolt", .string "nut"]) := rfl
  obtain ⟨items, outputs, kept, hitems, houtputs, hkept, -, hresult⟩ := array_keeps_first rfl hparse
  obtain rfl := Value.array.inj hitems
  obtain rfl := Value.array.inj (hresult ⟨rfl, rfl, rfl⟩)
  have hgiven : ((text {} {}).validator inMachine).onItems
      [.string "bolt", .string "nut", .string "bolt"] .root =
        [Value.string "bolt", .string "nut", .string "bolt"].map .ok := rfl
  rw [hgiven] at houtputs
  obtain rfl : [Value.string "bolt", .string "nut", .string "bolt"] = outputs :=
    List.map_injective_iff.2 (fun _ _ => Except.ok.inj) houtputs
  exact ⟨hparse, hkept⟩

end Schema

end Conform
