import Conform.Proofs.Splitting
/-!
# Derivation — the algebra of derived shapes

The fields of a shape are a map that keeps the order in which its keys came.
`Keyed.ext` says when two such maps are the same: their keys have one order,
and a key finds the same. So each way of deriving a shape is described by its
keys and its children, and the laws between them are checked there: extending
is associative, leaving out twice is leaving out once, and what is picked and
what is left out make the shape again.

Every derived shape is fresh: it keeps the mode of the shape that it comes
from, and neither its message nor its modifiers.
-/


namespace Conform

namespace ObjectShape

variable {σ : Type}

/-! ## Setting children -/

theorem lookup_putField (fields : List (String × σ)) (name : String) (child : σ) (key : String) :
    (putField fields name child).lookup key =
      if key = name then some child else fields.lookup key := by
  induction fields with
  | nil => by_cases hkey : key = name <;> simp [putField, hkey]
  | cons field rest ih =>
    obtain ⟨first, old⟩ := field
    by_cases hfirst : first = name
    · subst hfirst
      rw [putField, if_pos rfl]
      by_cases hkey : key = first
      · rw [hkey, List.lookup_cons_self, if_pos rfl]
      · rw [Keyed.lookup_cons_of_ne hkey, Keyed.lookup_cons_of_ne hkey, if_neg hkey]
    · rw [putField, if_neg hfirst]
      by_cases hkey : key = first
      · rw [hkey, List.lookup_cons_self, List.lookup_cons_self, if_neg hfirst]
      · rw [Keyed.lookup_cons_of_ne hkey, Keyed.lookup_cons_of_ne hkey, ih]

/-- The fields with those of `others` set one after the other. -/
def putFields (fields others : List (String × σ)) : List (String × σ) :=
  others.foldl (fun fields field => putField fields field.1 field.2) fields

variable {fields others : List (String × σ)}

theorem putFields_cons (fields : List (String × σ)) (name : String) (child : σ)
    (rest : List (String × σ)) :
    putFields fields ((name, child) :: rest) = putFields (putField fields name child) rest := rfl

/-- Names that are new are added in their order. -/
theorem map_fst_putFields (hothers : (others.map Prod.fst).Nodup) :
    (putFields fields others).map Prod.fst = fields.map Prod.fst ++
      (others.map Prod.fst).filter fun name => !(fields.map Prod.fst).contains name := by
  induction others generalizing fields with
  | nil => simp [putFields]
  | cons field rest ih =>
    obtain ⟨name, child⟩ := field
    obtain ⟨hnew, hrest⟩ := List.nodup_cons.1 hothers
    rw [putFields_cons, ih hrest, map_fst_putField, List.map_cons, List.filter_cons]
    by_cases hname : name ∈ fields.map Prod.fst
    · simp [hname]
    · -- the name is put at the end, where no later one is equal to it
      have hlater : ∀ other ∈ rest.map Prod.fst,
          (!(fields.map Prod.fst ++ [name]).contains other) =
            !(fields.map Prod.fst).contains other := by
        intro other hother
        have hne : ¬ other = name := fun heq => hnew (heq ▸ hother)
        simp [hne]
      rw [if_neg hname, List.filter_congr hlater, if_pos (by simpa using hname), List.append_assoc]
      rfl

theorem lookup_putFields (hothers : (others.map Prod.fst).Nodup) (name : String) :
    (putFields fields others).lookup name = (others.lookup name).or (fields.lookup name) := by
  induction others generalizing fields with
  | nil => rfl
  | cons field rest ih =>
    obtain ⟨first, child⟩ := field
    obtain ⟨hnew, hrest⟩ := List.nodup_cons.1 hothers
    rw [putFields_cons, ih hrest, lookup_putField]
    by_cases hname : name = first
    · subst hname
      rw [Keyed.lookup_eq_none_iff.2 hnew, if_pos rfl, List.lookup_cons_self]
      rfl
    · rw [if_neg hname, Keyed.lookup_cons_of_ne hname]

/-! ## Deriving -/

/-- The shape keeps the mode of another, and has no message and no modifiers. -/
structure DerivesFrom (s origin : ObjectShape σ) : Prop where
  unknownKeys : s.unknownKeys = origin.unknownKeys
  typeMessage : s.typeMessage = none
  modifiers : s.modifiers = {}

theorem fresh_derivesFrom (fields : List (String × σ)) (origin : ObjectShape σ) :
    (fresh fields origin.unknownKeys).DerivesFrom origin := ⟨rfl, rfl, rfl⟩

/-- A derived shape is given by its fields. -/
theorem DerivesFrom.eq {s s' origin : ObjectShape σ} (h : s.DerivesFrom origin)
    (h' : s'.DerivesFrom origin) (hfields : s.fields = s'.fields) : s = s' := by
  obtain ⟨fields, unknownKeys, typeMessage, modifiers⟩ := s
  obtain ⟨fields', unknownKeys', typeMessage', modifiers'⟩ := s'
  obtain ⟨rfl, rfl, rfl⟩ := h
  obtain ⟨rfl, rfl, rfl⟩ := h'
  exact congrArg (fun fields => fresh fields origin.unknownKeys) hfields

variable {a b c : ObjectShape σ} {names : List String}

theorem declares_eq_isSome (a : ObjectShape σ) (name : String) :
    a.declares name = (a.child? name).isSome := by
  unfold declares
  rw [Bool.eq_iff_iff, List.contains_iff_mem]
  cases hchild : a.child? name with
  | none => exact iff_of_false (Keyed.lookup_eq_none_iff.1 hchild) Bool.noConfusion
  | some child => exact iff_of_true (List.mem_map_of_mem (Keyed.mem_of_lookup_eq_some hchild)) rfl

/-! ### Extending -/

theorem extend_derivesFrom (a b : ObjectShape σ) : (a.extend b).DerivesFrom a :=
  fresh_derivesFrom _ a

/-- Extending keeps the keys and adds the new ones behind them. -/
theorem keys_extend (hb : b.keys.Nodup) :
    (a.extend b).keys = a.keys ++ b.keys.filter fun name => !a.declares name :=
  map_fst_putFields hb

/-- The shape that is added decides about the names that it declares. -/
theorem child?_extend (hb : b.keys.Nodup) (name : String) :
    (a.extend b).child? name = (b.child? name).or (a.child? name) := lookup_putFields hb name

theorem declares_extend (hb : b.keys.Nodup) (name : String) :
    (a.extend b).declares name = (a.declares name || b.declares name) := by
  unfold declares
  rw [keys_extend hb, Bool.eq_iff_iff]
  by_cases hname : name ∈ a.keys <;> simp [declares, hname]

theorem nodup_keys_extend (ha : a.keys.Nodup) (hb : b.keys.Nodup) : (a.extend b).keys.Nodup := by
  rw [keys_extend hb, List.nodup_append]
  refine ⟨ha, hb.filter _, ?_⟩
  rintro name hname _ hnew rfl
  have hundeclared := (List.mem_filter.1 hnew).2
  simp [declares, hname] at hundeclared

/-- **Extending is associative.** -/
theorem extend_extend (ha : a.keys.Nodup) (hb : b.keys.Nodup) (hc : c.keys.Nodup) :
    (a.extend b).extend c = a.extend (b.extend c) := by
  have hab := nodup_keys_extend ha hb
  have hbc := nodup_keys_extend hb hc
  have hderives : ((a.extend b).extend c).DerivesFrom a := ⟨rfl, rfl, rfl⟩
  refine hderives.eq ⟨rfl, rfl, rfl⟩ (Keyed.ext ?_ ?_ ?_)
  · exact nodup_keys_extend hab hc
  · show ((a.extend b).extend c).keys = (a.extend (b.extend c)).keys
    rw [keys_extend hc, keys_extend hb, keys_extend hbc, keys_extend hc, List.filter_append,
      List.filter_filter, List.append_assoc]
    simp only [declares_extend hb, Bool.not_or]
  · intro name
    show ((a.extend b).extend c).child? name = (a.extend (b.extend c)).child? name
    rw [child?_extend hc, child?_extend hb, child?_extend hbc, child?_extend hc, Option.or_assoc]

/-! ### Picking -/

/-- Picking stops at a name that is not declared. -/
theorem pick_go_eq_error {name : String} (h : names.find? (fun name => !a.declares name) = some name)
    (picked : List (String × σ)) : pick.go a picked names = .error (.unknownField name) := by
  induction names generalizing picked with
  | nil => cases h
  | cons first rest ih =>
    rw [List.find?_cons, declares_eq_isSome] at h
    rw [pick.go]
    cases hchild : a.child? first with
    | none =>
      rw [hchild] at h
      obtain rfl := Option.some.inj h
      rfl
    | some child =>
      rw [hchild] at h
      exact ih h _

/-- **Picking** gives the named fields, or it fails at the first name that is not declared. -/
theorem pick_eq (a : ObjectShape σ) (names : List String) :
    a.pick names = match names.find? (fun name => !a.declares name) with
      | some name => .error (.unknownField name)
      | none => .ok (a.only names.eraseDups) := by
  cases hfind : names.find? (fun name => !a.declares name) with
  | some name => exact pick_go_eq_error hfind []
  | none =>
    refine pick_eq_ok fun name hname => ?_
    simpa [declares] using List.find?_eq_none.1 hfind name hname

theorem pick_eq_ok_iff {picked : ObjectShape σ} :
    a.pick names = .ok picked ↔
      (∀ name ∈ names, name ∈ a.keys) ∧ picked = a.only names.eraseDups := by
  have hall : names.find? (fun name => !a.declares name) = none ↔ ∀ name ∈ names, name ∈ a.keys := by
    simp [declares]
  rw [pick_eq, ← hall]
  cases names.find? (fun name => !a.declares name) <;> simp [eq_comm]

theorem pick_eq_error_iff {fault : SchemaFault} :
    a.pick names = .error fault ↔
      ∃ name, names.find? (fun name => !a.declares name) = some name ∧
        fault = .unknownField name := by
  rw [pick_eq]
  cases names.find? (fun name => !a.declares name) <;> simp [eq_comm]

theorem keys_only (hnames : ∀ name ∈ names, name ∈ a.keys) : (a.only names).keys = names :=
  Keyed.map_fst_only hnames

theorem child?_only (a : ObjectShape σ) (names : List String) (name : String) :
    (a.only names).child? name = if name ∈ names then a.child? name else none :=
  Keyed.lookup_only a.fields names name

/-! ### Leaving out -/

theorem without_derivesFrom (a : ObjectShape σ) (names : List String) :
    (a.without names).DerivesFrom a := fresh_derivesFrom _ a

/-- **Leaving out twice** is leaving out all the names at once. -/
theorem without_without (a : ObjectShape σ) (names others : List String) :
    (a.without names).without others = a.without (names ++ others) := by
  have hderives : ((a.without names).without others).DerivesFrom a := ⟨rfl, rfl, rfl⟩
  refine hderives.eq ⟨rfl, rfl, rfl⟩ ?_
  show Keyed.without (Keyed.without a.fields names) others = Keyed.without a.fields (names ++ others)
  unfold Keyed.without
  rw [List.filter_filter]
  refine List.filter_congr fun field _ => ?_
  rw [List.contains_append, Bool.not_or, Bool.and_comm]

/-- **What is picked and what is left out** make up the shape: every name has the child that it had. -/
theorem child?_without_extend_only (hnames : ∀ name ∈ names, name ∈ a.keys) (hnodup : names.Nodup)
    (name : String) : ((a.without names).extend (a.only names)).child? name = a.child? name := by
  have hkeys : (a.only names).keys.Nodup := by rwa [keys_only hnames]
  rw [child?_extend hkeys, child?_only]
  by_cases hname : name ∈ names
  · obtain ⟨child, hchild⟩ := Keyed.exists_lookup_eq_some (hnames name hname)
    rw [if_pos hname, show a.child? name = some child from hchild, Option.some_or]
  · rw [if_neg hname, Option.none_or]
    exact Keyed.lookup_without hname

theorem keys_without_extend_only_perm (ha : a.keys.Nodup) (hnames : ∀ name ∈ names, name ∈ a.keys)
    (hnodup : names.Nodup) : ((a.without names).extend (a.only names)).keys.Perm a.keys := by
  have hkeys : (a.only names).keys.Nodup := by rwa [keys_only hnames]
  have hnew : ∀ name ∈ names, (!(a.without names).declares name) = true := by
    intro name hname
    have hleft : name ∉ (a.without names).keys := fun hmem =>
      (Keyed.mem_keys_without.1 hmem).2 hname
    simpa [declares] using hleft
  have hsplit := (Keyed.only_append_without_perm ha hnodup).map Prod.fst
  rw [List.map_append] at hsplit
  rw [keys_extend hkeys, keys_only hnames, List.filter_eq_self.2 hnew]
  refine List.perm_append_comm.trans ?_
  rwa [Keyed.map_fst_only hnames] at hsplit

/-! ## The laws -/

/-- **The algebra of derived shapes.** Extending one shape by another keeps its keys in their
order and adds the new ones behind them; a name that the other declares has its child there.
Extending is associative. Picking names passes exactly if all of them are
declared, and otherwise names the first that is not; what is picked has the names in the
order in which they first come, with their children. Leaving names out of what
other names were left out of leaves all of them out. Where declared names are left out and
then put back, every name has the child that it had, and the keys are those that there
were. Every derived shape keeps the mode of the first and nothing else that is not in its
fields. -/
theorem derived_shapes (ha : a.keys.Nodup) (hb : b.keys.Nodup) (hc : c.keys.Nodup)
    (names others : List String) :
    ((a.extend b).keys = a.keys ++ (b.keys.filter fun name => !a.declares name) ∧
      (∀ name, (a.extend b).child? name = (b.child? name).or (a.child? name)) ∧
      (a.extend b).DerivesFrom a) ∧
    (a.extend b).extend c = a.extend (b.extend c) ∧
    (((∃ picked, a.pick names = .ok picked) ↔ ∀ name ∈ names, name ∈ a.keys) ∧
      ∀ fault, a.pick names = .error fault ↔
        ∃ name, names.find? (fun name => !a.declares name) = some name ∧
          fault = .unknownField name) ∧
    (∀ picked, a.pick names = .ok picked →
      (picked.keys = names.eraseDups ∧
        (∀ name ∈ names, picked.child? name = a.child? name) ∧ picked.DerivesFrom a) ∧
      (∀ name, ((a.without names).extend picked).child? name = a.child? name) ∧
      ((a.without names).extend picked).keys.Perm a.keys ∧
      ((a.without names).extend picked).DerivesFrom a) ∧
    ((a.without names).without others = a.without (names ++ others) ∧
      (a.without names).DerivesFrom a) := by
  refine ⟨⟨keys_extend hb, child?_extend hb, extend_derivesFrom a b⟩, extend_extend ha hb hc,
    ⟨?_, fun fault => pick_eq_error_iff⟩, fun picked hpicked => ?_, without_without a names others,
    without_derivesFrom a names⟩
  · simp only [pick_eq_ok_iff, exists_and_left, exists_eq, and_true]
  · obtain ⟨hnames, rfl⟩ := pick_eq_ok_iff.1 hpicked
    have hdeclared : ∀ name ∈ names.eraseDups, name ∈ a.keys := by
      intro name hname
      exact hnames name (List.mem_eraseDups.1 hname)
    have hnodup := nodup_eraseDups names
    rw [← without_eraseDups]
    refine ⟨⟨keys_only hdeclared, fun name hname => ?_, fresh_derivesFrom _ a⟩,
      child?_without_extend_only hdeclared hnodup,
      keys_without_extend_only_perm ha hdeclared hnodup, fresh_derivesFrom _ a⟩
    rw [child?_only, if_pos (List.mem_eraseDups.2 hname)]

/-- What a crate says of its parts: their colour by number, and how many there are. -/
def crate : ObjectShape Schema where
  fields := [("colour", Schema.mass), ("count", Schema.mass)]

/-- What the lid of a crate says. -/
def crateLid : ObjectShape Schema where
  fields := [("count", .text {} {}), ("name", .text {} {})]

/-- A plate on a crate has the colour of the crate where it had its own. -/
theorem derived_shapes_of_plate :
    Schema.plate.keys.Nodup ∧ crate.keys.Nodup ∧ crateLid.keys.Nodup ∧
      (Schema.plate.extend crate).keys = ["name", "colour", "spare", "count"] ∧
      (Schema.plate.extend crate).child? "colour" = some Schema.mass ∧
      (Schema.plate.extend crate).extend crateLid = Schema.plate.extend (crate.extend crateLid) ∧
      Schema.plate.pick ["spare", "size", "depth"] = .error (.unknownField "size") ∧
      ∃ picked, Schema.plate.pick ["spare", "name", "spare"] = .ok picked ∧
        picked.keys = ["spare", "name"] ∧
        ((Schema.plate.without ["spare", "name", "spare"]).extend picked).keys.Perm
          Schema.plate.keys := by
  have hplate : Schema.plate.keys.Nodup := by decide
  have hcrate : crate.keys.Nodup := by decide
  have hlid : crateLid.keys.Nodup := by decide
  obtain ⟨⟨hkeys, hchild, -⟩, hextend, ⟨-, herror⟩, -⟩ :=
    derived_shapes hplate hcrate hlid ["spare", "size", "depth"] []
  obtain ⟨-, -, ⟨hpass, -⟩, hpicked, -⟩ :=
    derived_shapes hplate hcrate hlid ["spare", "name", "spare"] []
  obtain ⟨picked, hpick⟩ := hpass.2 (by decide)
  obtain ⟨⟨hnames, -⟩, -, hperm, -⟩ := hpicked picked hpick
  exact ⟨hplate, hcrate, hlid, hkeys, hchild "colour", hextend,
    (herror _).2 ⟨"size", by decide, rfl⟩, picked, hpick, hnames, hperm⟩

end ObjectShape

end Conform
