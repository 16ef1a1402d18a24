import Mathlib.Data.List.Nodup
/-!
# Keyed — entries that are looked up by their keys

The fields of a shape and the members of an object are lists of entries with
keys. `only` takes the entries with some keys, in the order of the keys, and
`without` leaves the entries with some keys out, in the order of the entries.
Where no key occurs twice, these are the two halves of the list, and the list is
given by the order of its keys and by what they find.
-/


namespace Conform

namespace Keyed

variable {α β : Type} {entries others : List (String × α)} {key : String} {value : α}
variable {names : List String}

/-! ## Looking up -/

theorem lookup_cons_of_ne {key name : String} (h : key ≠ name) (value : α)
    (rest : List (String × α)) : ((name, value) :: rest).lookup key = rest.lookup key := by
  rw [List.lookup_cons, beq_eq_false_iff_ne.2 h]

theorem lookup_eq_none_iff : entries.lookup key = none ↔ key ∉ entries.map Prod.fst := by
  rw [List.lookup_eq_none_iff]
  constructor
  · intro h hmem
    obtain ⟨entry, hentry, rfl⟩ := List.mem_map.1 hmem
    simpa using h entry hentry
  · intro h entry hentry
    rw [bne_iff_ne]
    rintro rfl
    exact h (List.mem_map_of_mem hentry)

theorem exists_lookup_eq_some (h : key ∈ entries.map Prod.fst) :
    ∃ value, entries.lookup key = some value :=
  Option.ne_none_iff_exists'.1 fun hnone => lookup_eq_none_iff.1 hnone h

theorem mem_of_lookup_eq_some (h : entries.lookup key = some value) : (key, value) ∈ entries := by
  obtain ⟨before, after, rfl, -⟩ := List.lookup_eq_some_iff.1 h
  simp

/-- Where keys are different, an entry is found under its key. -/
theorem lookup_eq_some_iff (hkeys : (entries.map Prod.fst).Nodup) :
    entries.lookup key = some value ↔ (key, value) ∈ entries := by
  refine ⟨mem_of_lookup_eq_some, fun hmem => ?_⟩
  obtain ⟨before, after, rfl⟩ := List.append_of_mem hmem
  refine List.lookup_eq_some_iff.2 ⟨before, after, rfl, fun entry hentry => ?_⟩
  rw [bne_iff_ne]
  rintro rfl
  rw [List.map_append, List.nodup_append] at hkeys
  exact hkeys.2.2 _ (List.mem_map_of_mem hentry) _ List.mem_cons_self rfl

/-- Changing the values changes what is found. -/
theorem lookup_map (f : α → β) (entries : List (String × α)) (key : String) :
    (entries.map fun entry => (entry.1, f entry.2)).lookup key = (entries.lookup key).map f := by
  induction entries with
  | nil => rfl
  | cons entry rest ih =>
    obtain ⟨name, first⟩ := entry
    rw [List.map_cons, List.lookup_cons, List.lookup_cons, ih]
    cases key == name <;> rfl

/-! ## The entries with some keys, and the others -/

/-- The named entries, in the order of the names. -/
def only (entries : List (String × α)) (names : List String) : List (String × α) :=
  names.filterMap fun name => (entries.lookup name).map (Prod.mk name)

/-- The entries but the named ones. -/
def without (entries : List (String × α)) (names : List String) : List (String × α) :=
  entries.filter fun entry => !names.contains entry.1

theorem mem_only :
    (key, value) ∈ only entries names ↔ key ∈ names ∧ entries.lookup key = some value := by
  simp [only]

theorem only_append (entries : List (String × α)) (names others : List String) :
    only entries (names ++ others) = only entries names ++ only entries others :=
  List.filterMap_append

theorem mem_without :
    (key, value) ∈ without entries names ↔ (key, value) ∈ entries ∧ key ∉ names := by
  simp [without]

theorem without_eraseDups (entries : List (String × α)) (names : List String) :
    without entries names.eraseDups = without entries names := by
  unfold without
  congr 1
  funext entry
  have hsame : names.eraseDups.contains entry.1 = names.contains entry.1 := by
    simp only [List.contains_eq_mem, List.mem_eraseDups]
  rw [hsame]

theorem mem_keys_without :
    key ∈ (without entries names).map Prod.fst ↔ key ∈ entries.map Prod.fst ∧ key ∉ names := by
  simp [without]

/-- A key that is not named is looked up as before. -/
theorem lookup_without (h : key ∉ names) :
    (without entries names).lookup key = entries.lookup key := by
  induction entries with
  | nil => rfl
  | cons entry rest ih =>
    obtain ⟨name, first⟩ := entry
    unfold without at ih ⊢
    by_cases hname : key = name
    · subst hname
      rw [List.filter_cons, if_pos (by simpa using h), List.lookup_cons_self,
        List.lookup_cons_self]
    · rw [lookup_cons_of_ne hname, List.filter_cons]
      split
      · rw [lookup_cons_of_ne hname]
        exact ih
      · exact ih

/-- Names that are all there are the keys of what they name. -/
theorem map_fst_only (h : ∀ name ∈ names, name ∈ entries.map Prod.fst) :
    (only entries names).map Prod.fst = names := by
  induction names with
  | nil => rfl
  | cons name rest ih =>
    obtain ⟨value, hvalue⟩ := exists_lookup_eq_some (h name List.mem_cons_self)
    have hrest := ih fun other hother => h other (List.mem_cons_of_mem _ hother)
    unfold only at hrest ⊢
    rw [List.filterMap_cons, hvalue]
    exact congrArg (name :: ·) hrest

/-- Entries with different keys are what their own keys name. -/
theorem only_keys (hkeys : (entries.map Prod.fst).Nodup) :
    only entries (entries.map Prod.fst) = entries := by
  have hfound : ∀ entry ∈ entries, (entries.lookup entry.1).map (Prod.mk entry.1) = some entry := by
    intro entry hentry
    rw [(lookup_eq_some_iff hkeys).2 hentry]
    rfl
  rw [only, List.filterMap_map]
  exact (List.filterMap_congr hfound).trans List.filterMap_some

/-- Entries with different keys are the same as others with these keys in this order, if
every key finds the same in both. -/
theorem ext (hkeys : (entries.map Prod.fst).Nodup)
    (hsame : entries.map Prod.fst = others.map Prod.fst)
    (hlookup : ∀ key, entries.lookup key = others.lookup key) : entries = others := by
  have hkeys' : (others.map Prod.fst).Nodup := hsame ▸ hkeys
  rw [← only_keys hkeys, ← only_keys hkeys', hsame]
  exact List.filterMap_congr fun key _ => by rw [hlookup]

/-- A named entry is found as before, and no other is. -/
theorem lookup_only (entries : List (String × α)) (names : List String) (key : String) :
    (only entries names).lookup key = if key ∈ names then entries.lookup key else none := by
  induction names with
  | nil => rfl
  | cons name rest ih =>
    rw [← List.singleton_append, only_append, List.lookup_append, ih]
    by_cases hname : key = name
    · subst hname
      cases hkey : entries.lookup key <;> simp [only, hkey]
    · cases hfirst : entries.lookup name <;> simp [only, hfirst, hname, lookup_cons_of_ne]

/-- **Two halves.** The named entries and the others are all entries. -/
theorem only_append_without_perm (hkeys : (entries.map Prod.fst).Nodup) (hnames : names.Nodup) :
    (only entries names ++ without entries names).Perm entries := by
  have hentries : entries.Nodup := hkeys.of_map
  have honly : (only entries names).Nodup := by
    -- the key of an entry is the name that it was taken for
    refine hnames.filterMap fun first second entry hfirst hsecond => ?_
    obtain ⟨_, -, rfl⟩ := Option.map_eq_some_iff.1 hfirst
    obtain ⟨_, -, hsame⟩ := Option.map_eq_some_iff.1 hsecond
    exact (congrArg Prod.fst hsame).symm
  have hboth : (only entries names ++ without entries names).Nodup := by
    refine List.nodup_append.2 ⟨honly, hentries.filter _, ?_⟩
    rintro ⟨key, value⟩ hnamed _ hother rfl
    exact (mem_without.1 hother).2 (mem_only.1 hnamed).1
  refine (List.perm_ext_iff_of_nodup hboth hentries).2 fun ⟨key, value⟩ => ?_
  rw [List.mem_append, mem_only, mem_without, lookup_eq_some_iff hkeys]
  by_cases hname : key ∈ names
  · simp [hname]
  · simp [hname]

end Keyed

end Conform
