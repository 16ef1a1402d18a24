import Conform.Proofs.Duplicates
/-!
# Grouping — the positions that share a key, each in one group

A position recurs if another one has its key. `findDuplicates` splits the recurring positions
into groups: those of one key are a group, every one of them is in exactly one, none of the
others is in any, and both the positions in a group and the groups among each other are in
order.

The groups can also be kept in a table under their keys, with a list of the keys beside it in
the order in which they came up. What holds after each position is `Tally.Reflects`. Taking
the groups out of the table along the list gives the same groups again.
-/


namespace Conform

variable {keys : List String} {key : String} {i : Nat}

/-! ## In order -/

theorem head?_idxsOf (h : key ∈ keys) : (keys.idxsOf key).head? = some (keys.idxOf key) := by
  have hpos : 0 < (keys.idxsOf key).length := by
    rw [List.length_idxsOf]
    exact List.count_pos_iff.2 h
  rw [List.head?_eq_getElem?, List.getElem?_eq_getElem hpos, List.getElem_zero_idxsOf_eq_idxOf]

/-- Keys are listed in the order of their first positions. -/
theorem pairwise_idxOf_eraseDups (keys : List String) :
    keys.eraseDups.Pairwise fun a b => keys.idxOf a < keys.idxOf b := by
  induction keys using List.reverseRecOn with
  | nil => exact List.Pairwise.nil
  | append_singleton keys key ih =>
    have hsame (a : String) (ha : a ∈ keys.eraseDups) : (keys ++ [key]).idxOf a = keys.idxOf a :=
      List.idxOf_append_of_mem (List.mem_eraseDups.1 ha)
    have hfront : keys.eraseDups.Pairwise fun a b =>
        (keys ++ [key]).idxOf a < (keys ++ [key]).idxOf b := by
      refine ih.imp_of_mem ?_
      intro a b ha hb hlt
      rw [hsame a ha, hsame b hb]
      exact hlt
    rw [eraseDups_concat]
    split
    · exact hfront
    · rename_i hnew
      refine List.pairwise_append.2 ⟨hfront, List.pairwise_singleton _ _, ?_⟩
      intro a ha b hb
      obtain rfl := List.mem_singleton.1 hb
      rw [hsame a ha, List.idxOf_append_of_notMem hnew]
      have hlt : keys.idxOf a < keys.length := List.idxOf_lt_length_iff.2 (List.mem_eraseDups.1 ha)
      omega

/-! ## The groups -/

/-- Another position has the same key. -/
def Recurs (keys : List String) (i : Nat) : Prop :=
  ∃ key, keys[i]? = some key ∧ ∃ j, j ≠ i ∧ keys[j]? = some key

/-- The groups are the recurring positions, split by their keys. -/
structure SplitsRecurring (keys : List String) (groups : List (List Nat)) : Prop where
  /-- The groups are the positions of one key, in order, where there are two or more. -/
  mem_iff (group : List Nat) : group ∈ groups ↔
    2 ≤ group.length ∧ group.Pairwise (· < ·) ∧ ∃ key, ∀ i, i ∈ group ↔ keys[i]? = some key
  /-- Every recurring position is in exactly one of the groups. -/
  exactly_one (i : Nat) : Recurs keys i → ∃! n : Nat, ∃ group, groups[n]? = some group ∧ i ∈ group
  /-- No other position is in any of them. -/
  no_other (i : Nat) : ¬ Recurs keys i → ∀ group ∈ groups, i ∉ group
  /-- The groups are in the order of their first positions. -/
  ordered : groups.Pairwise fun a b => ∃ i j, a.head? = some i ∧ b.head? = some j ∧ i < j

/-- Of two or more different positions, each has another one beside it. -/
theorem two_le_length_iff {positions : List Nat} (hnodup : positions.Nodup) (hi : i ∈ positions) :
    2 ≤ positions.length ↔ ∃ j, j ≠ i ∧ j ∈ positions := by
  cases positions with
  | nil => cases hi
  | cons first rest =>
    cases rest with
    | nil =>
      obtain rfl := List.mem_singleton.1 hi
      refine iff_of_false (by simp) ?_
      rintro ⟨j, hne, hj⟩
      exact hne (List.mem_singleton.1 hj)
    | cons second rest =>
      refine iff_of_true (by simp) ?_
      have hne : first ≠ second := by
        rintro rfl
        exact (List.nodup_cons.1 hnodup).1 List.mem_cons_self
      by_cases hfirst : first = i
      · exact ⟨second, fun h => hne (hfirst.trans h.symm), by simp⟩
      · exact ⟨first, hfirst, by simp⟩

theorem recurs_iff (hi : keys[i]? = some key) : Recurs keys i ↔ 1 < keys.count key := by
  have hmem : i ∈ keys.idxsOf key := mem_idxsOf_iff_getElem?.2 hi
  have htwo := two_le_length_iff List.nodup_idxsOf hmem
  rw [List.length_idxsOf] at htwo
  refine Iff.trans ?_ htwo.symm
  simp only [mem_idxsOf_iff_getElem?]
  constructor
  · rintro ⟨key', hi', j, hne, hj⟩
    obtain rfl : key = key' := Option.some.inj (hi.symm.trans hi')
    exact ⟨j, hne, hj⟩
  · rintro ⟨j, hne, hj⟩
    exact ⟨key, hi, j, hne, hj⟩

theorem mem_findDuplicates_iff {group : List Nat} : group ∈ findDuplicates keys ↔
    2 ≤ group.length ∧ group.Pairwise (· < ·) ∧ ∃ key, ∀ i, i ∈ group ↔ keys[i]? = some key := by
  rw [mem_findDuplicates]
  constructor
  · rintro ⟨key, rfl, hcount⟩
    have htwo : 2 ≤ (keys.idxsOf key).length := by
      rw [List.length_idxsOf]
      exact hcount
    exact ⟨htwo, List.pairwise_idxsOf, key, fun i => mem_idxsOf_iff_getElem?⟩
  · rintro ⟨htwo, hincreasing, key, hclass⟩
    -- two lists that increase and have the same members are one list
    have hgroup : group = keys.idxsOf key := by
      have hperm : group.Perm (keys.idxsOf key) := by
        refine (List.perm_ext_iff_of_nodup (hincreasing.imp Nat.ne_of_lt) List.nodup_idxsOf).2 ?_
        intro i
        rw [hclass i, mem_idxsOf_iff_getElem?]
      refine hperm.eq_of_pairwise ?_ hincreasing List.pairwise_idxsOf
      intro a b _ _ hab hba
      omega
    refine ⟨key, hgroup, ?_⟩
    rw [hgroup, List.length_idxsOf] at htwo
    exact htwo

theorem pairwise_findDuplicates (keys : List String) : (findDuplicates keys).Pairwise fun a b =>
    ∃ i j, a.head? = some i ∧ b.head? = some j ∧ i < j := by
  rw [findDuplicates_eq, repetitions, List.pairwise_map]
  refine ((pairwise_idxOf_eraseDups keys).filter _).imp_of_mem ?_
  intro a b ha hb hlt
  have hmem {key : String} (h : key ∈ keys.eraseDups.filter fun key => 1 < keys.count key) :
      key ∈ keys := List.mem_eraseDups.1 (List.mem_filter.1 h).1
  exact ⟨_, _, head?_idxsOf (hmem ha), head?_idxsOf (hmem hb), hlt⟩

theorem nodup_findDuplicates (keys : List String) : (findDuplicates keys).Nodup := by
  refine (pairwise_findDuplicates keys).imp ?_
  rintro group _ ⟨i, j, hi, hj, hlt⟩ rfl
  have hsame : i = j := Option.some.inj (hi.symm.trans hj)
  omega

/-- **The groups of duplicates split the recurring positions.** -/
theorem splitsRecurring_findDuplicates (keys : List String) :
    SplitsRecurring keys (findDuplicates keys) where
  mem_iff group := mem_findDuplicates_iff
  exactly_one i hrecurs := by
    obtain ⟨key, hi, -⟩ := id hrecurs
    have hmem : keys.idxsOf key ∈ findDuplicates keys :=
      mem_findDuplicates.2 ⟨key, rfl, (recurs_iff hi).1 hrecurs⟩
    obtain ⟨n, hn⟩ := List.mem_iff_getElem?.1 hmem
    refine ⟨n, ⟨_, hn, mem_idxsOf_iff_getElem?.2 hi⟩, ?_⟩
    rintro m ⟨group, hm, himem⟩
    -- the other group has the same key, so it is the same group
    obtain ⟨key', rfl, -⟩ := mem_findDuplicates.1 (List.mem_of_getElem? hm)
    obtain rfl : key = key' :=
      Option.some.inj (hi.symm.trans (mem_idxsOf_iff_getElem?.1 himem))
    obtain ⟨hmlt, -⟩ := List.getElem?_eq_some_iff.1 hm
    exact (List.getElem?_inj hmlt (nodup_findDuplicates keys)).1 (hm.trans hn.symm)
  no_other i hrecurs group hgroup hi := by
    obtain ⟨key, rfl, hcount⟩ := mem_findDuplicates.1 hgroup
    exact hrecurs ((recurs_iff (mem_idxsOf_iff_getElem?.1 hi)).2 hcount)
  ordered := pairwise_findDuplicates keys

/-! ## The groups in a table -/

/-- Groups of positions in a table under their keys, and the keys in the order in which they
came up. -/
structure Tally where
  order : List String := []
  table : Std.HashMap String (List Nat) := {}

namespace Tally

/-- Puts a position at the end of the group of its key. A key whose group is empty is new. -/
def add (t : Tally) (key : String) (i : Nat) : Tally where
  order := if t.table.getD key [] = [] then t.order ++ [key] else t.order
  table := t.table.insert key (t.table.getD key [] ++ [i])

/-- One position after the other. -/
def ofKeys (keys : List String) : Tally := keys.zipIdx.foldl (fun t (key, i) => t.add key i) {}

/-- Takes the group of each key in a list out of the table. -/
def drain (table : Std.HashMap String (List Nat)) : List String → List (List Nat)
  | [] => []
  | key :: rest =>
    match table[key]? with
    | some group => group :: drain (table.erase key) rest
    | none => drain table rest

/-- The groups with at least two members. -/
def groups (t : Tally) : List (List Nat) :=
  (drain t.table t.order).filter fun group => 1 < group.length

/-- The table has the positions of every key that has come up, and the list these keys in
order. -/
structure Reflects (t : Tally) (keys : List String) : Prop where
  order_eq : t.order = keys.eraseDups
  getElem?_eq (key : String) : t.table[key]? = if key ∈ keys then some (keys.idxsOf key) else none

variable {t : Tally}

theorem Reflects.getD_eq (h : t.Reflects keys) (key : String) :
    t.table.getD key [] = keys.idxsOf key := by
  rw [Std.HashMap.getD_eq_getD_getElem?, h.getElem?_eq]
  split
  · rfl
  · rename_i hnew
    rw [idxsOf_eq_nil_iff.2 hnew]
    rfl

/-- One more position is put where it belongs. -/
theorem Reflects.add (h : t.Reflects keys) (key : String) :
    (t.add key keys.length).Reflects (keys ++ [key]) where
  order_eq := by
    rw [eraseDups_concat, Tally.add, h.getD_eq, h.order_eq]
    dsimp only
    rw [ite_cond_congr (propext idxsOf_eq_nil_iff), ite_not]
  getElem?_eq other := by
    rw [Tally.add, Std.HashMap.getElem?_insert, h.getD_eq, h.getElem?_eq, idxsOf_concat]
    by_cases heq : key = other
    · subst heq
      simp
    · have hne : ¬ other = key := fun h => heq h.symm
      simp [heq, hne]

/-- So the table reflects all keys in the end. -/
theorem reflects_ofKeys (keys : List String) : (ofKeys keys).Reflects keys := by
  induction keys using List.reverseRecOn with
  | nil => exact ⟨rfl, fun key => by simp [ofKeys]⟩
  | append_singleton keys key ih =>
    have hstep : ofKeys (keys ++ [key]) = (ofKeys keys).add key keys.length := by
      simp [ofKeys, List.zipIdx_append]
    rw [hstep]
    exact ih.add key

/-- Each group is taken out once, since no key is listed twice. -/
theorem drain_eq_map {order : List String} {table : Std.HashMap String (List Nat)}
    {group : String → List Nat} (hnodup : order.Nodup)
    (h : ∀ key ∈ order, table[key]? = some (group key)) : drain table order = order.map group := by
  induction order generalizing table with
  | nil => rfl
  | cons key rest ih =>
    obtain ⟨hkey, hrest⟩ := List.nodup_cons.1 hnodup
    have hothers : ∀ other ∈ rest, (table.erase key)[other]? = some (group other) := by
      intro other hother
      have hne : key ≠ other := by
        rintro rfl
        exact hkey hother
      rw [Std.HashMap.getElem?_erase, beq_eq_false_iff_ne.2 hne, if_neg Bool.false_ne_true]
      exact h other (List.mem_cons_of_mem key hother)
    rw [drain, h key List.mem_cons_self, List.map_cons, ih hrest hothers]

/-- **The groups in the table are the groups of duplicates.** -/
theorem groups_ofKeys (keys : List String) : (ofKeys keys).groups = findDuplicates keys := by
  obtain ⟨horder, htable⟩ := reflects_ofKeys keys
  have hgroups : ∀ key ∈ keys.eraseDups, (ofKeys keys).table[key]? = some (keys.idxsOf key) := by
    intro key hkey
    rw [htable, if_pos (List.mem_eraseDups.1 hkey)]
  rw [groups, horder, drain_eq_map (nodup_eraseDups keys) hgroups, findDuplicates, groupIndices_eq,
    List.map_map]
  rfl

end Tally

/-- **The positions that share a key are split into their groups**, whatever the values and
the way their keys are computed. A table with a list of its keys beside it comes to the
same groups. -/
theorem groups_of_keys (values : List Value) (key : Value → Value) :
    SplitsRecurring (values.map fun value => (key value).text)
      (findDuplicates (values.map fun value => (key value).text)) ∧
    (Tally.ofKeys (values.map fun value => (key value).text)).groups =
      findDuplicates (values.map fun value => (key value).text) :=
  ⟨splitsRecurring_findDuplicates _, Tally.groups_ofKeys _⟩

example : findDuplicates ["a", "b", "a", "c", "b", "a"] = [[0, 2, 5], [1, 4]] := by decide

end Conform
