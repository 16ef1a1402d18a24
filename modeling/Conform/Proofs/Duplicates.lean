import Conform.Rule.Array
import Mathlib.Data.List.Induction
import Mathlib.Data.List.Nodup
/-!
# Duplicates — groups of equal keys

`groupIndices` collects, for every key in the order of first occurrences, all
the positions that have it. A group is one of duplicates if its key occurs
twice, so there are duplicates exactly if the keys are not all different.
-/


namespace Conform

/-! ## First occurrences -/

/-- A key at the end is new, or it has been there before. -/
theorem eraseDups_concat (keys : List String) (key : String) :
    (keys ++ [key]).eraseDups = if key ∈ keys then keys.eraseDups else keys.eraseDups ++ [key] := by
  rw [List.eraseDups_append]
  have hone : [key].eraseDups = [key] := by rw [List.eraseDups_cons]; rfl
  by_cases hkey : key ∈ keys
  · simp [hkey, List.removeAll]
  · simp [hkey, List.removeAll, hone]

theorem nodup_eraseDups (keys : List String) : keys.eraseDups.Nodup := by
  induction keys using List.reverseRecOn with
  | nil => exact List.nodup_nil
  | append_singleton keys key ih =>
    rw [eraseDups_concat]
    split
    · exact ih
    · rename_i hnew
      exact List.nodup_append.2 ⟨ih, List.nodup_singleton key, by
        rintro a ha b hb rfl
        exact hnew (List.mem_singleton.1 hb ▸ List.mem_eraseDups.1 ha)⟩

theorem idxsOf_concat (keys : List String) (last key : String) :
    (keys ++ [last]).idxsOf key = keys.idxsOf key ++ if last = key then [keys.length] else [] := by
  rw [List.idxsOf_append]
  simp [List.idxsOf_cons]

/-! ## Positions -/

theorem mem_idxsOf_iff {keys : List String} {key : String} {i : Nat} :
    i ∈ keys.idxsOf key ↔ ∃ h : i < keys.length, keys[i] = key := by
  simp

theorem mem_idxsOf_iff_getElem? {keys : List String} {key : String} {i : Nat} :
    i ∈ keys.idxsOf key ↔ keys[i]? = some key := by
  rw [mem_idxsOf_iff, List.getElem?_eq_some_iff]

theorem idxsOf_eq_nil_iff {keys : List String} {key : String} :
    keys.idxsOf key = [] ↔ key ∉ keys := by
  rw [List.eq_nil_iff_forall_not_mem, List.mem_iff_getElem?]
  simp only [mem_idxsOf_iff_getElem?, not_exists]

/-! ## Groups -/

/-- In groups with different keys, an index is put at the end of the group of its
key, or into a new one at the end. -/
theorem addToGroup_map {keys : List String} (hkeys : keys.Nodup) (group : String → List Nat)
    (key : String) (index : Nat) :
    addToGroup (keys.map fun k => (k, group k)) key index =
      if key ∈ keys then keys.map fun k => (k, if k = key then group k ++ [index] else group k)
      else keys.map (fun k => (k, group k)) ++ [(key, [index])] := by
  induction keys with
  | nil => rfl
  | cons first keys ih =>
    obtain ⟨hfirst, hrest⟩ := List.nodup_cons.1 hkeys
    rw [List.map_cons, addToGroup]
    by_cases heq : first = key
    · subst heq
      have hothers : keys.map (fun k => (k, if k = first then group k ++ [index] else group k)) =
          keys.map fun k => (k, group k) := by
        refine List.map_congr_left fun k hk => ?_
        rw [if_neg]
        rintro rfl
        exact hfirst hk
      simp [hothers]
    · have hne : ¬ key = first := fun h => heq h.symm
      rw [if_neg heq, ih hrest]
      by_cases hmem : key ∈ keys <;> simp [heq, hne, hmem]

/-- **The groups are the keys in the order of first occurrences, with all their
positions.** -/
theorem groupIndices_eq (keys : List String) :
    groupIndices keys = keys.eraseDups.map fun key => (key, keys.idxsOf key) := by
  induction keys using List.reverseRecOn with
  | nil => rfl
  | append_singleton keys key ih =>
    have hstep : groupIndices (keys ++ [key]) = addToGroup (groupIndices keys) key keys.length := by
      simp [groupIndices, List.zipIdx_append]
    rw [hstep, ih, addToGroup_map (nodup_eraseDups keys), eraseDups_concat]
    simp only [List.mem_eraseDups, idxsOf_concat]
    split
    · refine List.map_congr_left fun k _ => ?_
      by_cases hk : k = key
      · simp [hk]
      · have hne : ¬ key = k := fun h => hk h.symm
        simp [hk, hne]
    · rename_i hnew
      rw [List.map_append]
      congr 1
      · refine List.map_congr_left fun k hk => ?_
        have hne : ¬ key = k := by
          rintro rfl
          exact hnew (List.mem_eraseDups.1 hk)
        simp [hne]
      · simp [idxsOf_eq_nil_iff.2 hnew]

/-! ## Duplicates -/

/-- The positions of the keys that occur more than once, a group for each of them in the
order of their first occurrences. -/
def repetitions (keys : List String) : List (List Nat) :=
  (keys.eraseDups.filter fun key => 1 < keys.count key).map fun key => keys.idxsOf key

theorem findDuplicates_eq (keys : List String) : findDuplicates keys = repetitions keys := by
  unfold findDuplicates repetitions
  rw [groupIndices_eq, List.map_map, List.filter_map]
  congr 1
  refine List.filter_congr fun key _ => ?_
  have hlength : (keys.idxsOf key).length = keys.count key := List.length_idxsOf
  simp only [Function.comp_apply, hlength]

theorem mem_findDuplicates {keys : List String} {indices : List Nat} :
    indices ∈ findDuplicates keys ↔
      ∃ key, indices = keys.idxsOf key ∧ 1 < keys.count key := by
  rw [findDuplicates_eq, repetitions, List.mem_map]
  simp only [List.mem_filter, List.mem_eraseDups, decide_eq_true_eq]
  constructor
  · rintro ⟨key, ⟨-, hcount⟩, rfl⟩
    exact ⟨key, rfl, hcount⟩
  · rintro ⟨key, rfl, hcount⟩
    have hmem : key ∈ keys := List.count_pos_iff.1 (Nat.lt_trans Nat.zero_lt_one hcount)
    exact ⟨key, ⟨hmem, hcount⟩, rfl⟩

theorem findDuplicates_eq_nil_iff {keys : List String} : findDuplicates keys = [] ↔ keys.Nodup := by
  rw [List.eq_nil_iff_forall_not_mem, List.nodup_iff_count_le_one]
  simp only [mem_findDuplicates, not_exists, not_and, Nat.not_lt]
  exact ⟨fun h key => h _ key rfl, fun h _ key _ => h key⟩

/-- **There are duplicates if two positions have one key.** -/
theorem findDuplicates_ne_nil_iff {keys : List String} :
    findDuplicates keys ≠ [] ↔
      ∃ i j, ∃ hij : i < j, ∃ hj : j < keys.length, keys[i] = keys[j] := by
  rw [Ne, findDuplicates_eq_nil_iff, List.Nodup, List.pairwise_iff_getElem]
  constructor
  · intro h
    by_contra hnone
    exact h fun i j _ hj hij heq => hnone ⟨i, j, hij, hj, heq⟩
  · rintro ⟨i, j, hij, hj, heq⟩ hdifferent
    exact hdifferent i j (Nat.lt_trans hij hj) hj hij heq

end Conform
