import Conform.Proofs.Requirements
import Mathlib.Data.List.TakeWhile
import Mathlib.Data.List.Pairwise
/-!
# Ranking — constraints in the stable order of their ranks

A ranked constraint is put behind those of its rank or a lower one, and a message
goes to the constraint stated last, wherever that one stands by then. So calls that are made
one after the other leave the constraints as if all of them had been collected first,
each with the last message before the next one, and then sorted by rank.

What is checked is the sorted list, and what is reported is the first of it that fails.
In terms of the calls that is the failing constraint of the least rank, and the earliest
of those.
-/


namespace Conform

/-! ## Lists in the order of ranks -/

section ByRank

variable {ε : Type} {rank : ε → Nat} {l l' before after : List ε} {e x : ε} {k : Nat}

/-- A list in the order of ranks. What has the same rank stays in its order. -/
def byRank (rank : ε → Nat) (l : List ε) : List ε := l.mergeSort fun x y => rank x ≤ rank y

/-- Puts an element behind those of its rank or a lower one. -/
def place (rank : ε → Nat) (e : ε) (l : List ε) : List ε :=
  l.takeWhile (rank · ≤ rank e) ++ e :: l.dropWhile (rank · ≤ rank e)

theorem byRank_perm : (byRank rank l).Perm l := List.mergeSort_perm _ _

theorem pairwise_byRank : (byRank rank l).Pairwise (rank · ≤ rank ·) := by
  have hsorted : (byRank rank l).Pairwise fun x y => decide (rank x ≤ rank y) = true :=
    List.pairwise_mergeSort (fun x y z => by simpa using Nat.le_trans)
      (fun x y => by simpa using Nat.le_total (rank x) (rank y)) l
  simpa using hsorted

/-- The elements of one rank are in the order of the list. -/
theorem filter_byRank (k : Nat) : (byRank rank l).filter (rank · = k) = l.filter (rank · = k) := by
  have hrank : ∀ x ∈ l.filter (rank · = k), rank x = k :=
    fun x hx => by simpa using (List.mem_filter.1 hx).2
  have hpairwise : (l.filter (rank · = k)).Pairwise fun x y => decide (rank x ≤ rank y) = true :=
    List.pairwise_of_forall_mem_list fun x hx y hy => by simp [hrank x hx, hrank y hy]
  -- they are sorted as they stand, and sorting keeps a sublist that is sorted already
  have hsublist : (l.filter (rank · = k)).Sublist (byRank rank l) :=
    List.sublist_mergeSort (fun x y z => by simpa using Nat.le_trans)
      (fun x y => by simpa using Nat.le_total (rank x) (rank y)) hpairwise List.filter_sublist
  have hkept : ((l.filter (rank · = k)).filter (rank · = k)) = l.filter (rank · = k) := by simp
  have hlength : (l.filter (rank · = k)).length = ((byRank rank l).filter (rank · = k)).length :=
    (byRank_perm.symm.filter _).length_eq
  exact ((hkept ▸ hsublist.filter (rank · = k)).eq_of_length hlength).symm

/-- In the order of ranks, the elements of each rank determine the list. -/
theorem eq_of_filter_rank_eq (hl : l.Pairwise (rank · ≤ rank ·)) (hl' : l'.Pairwise (rank · ≤ rank ·))
    (h : ∀ k, l.filter (rank · = k) = l'.filter (rank · = k)) : l = l' := by
  have hmem (x : ε) : x ∈ l ↔ x ∈ l' := by
    have hx : x ∈ l.filter (rank · = rank x) ↔ x ∈ l'.filter (rank · = rank x) := by rw [h]
    simpa using hx
  induction l generalizing l' with
  | nil =>
    cases l' with
    | nil => rfl
    | cons y rest' => exact absurd ((hmem y).2 List.mem_cons_self) List.not_mem_nil
  | cons x rest ih =>
    cases l' with
    | nil => exact absurd ((hmem x).1 List.mem_cons_self) List.not_mem_nil
    | cons y rest' =>
      -- both heads are of the least rank, so they are the first ones of the same rank
      have hle : ∀ z ∈ x :: rest, rank x ≤ rank z := by
        simpa using (List.pairwise_cons.1 hl).1
      have hle' : ∀ z ∈ y :: rest', rank y ≤ rank z := by
        simpa using (List.pairwise_cons.1 hl').1
      have hrank : rank x = rank y := Nat.le_antisymm
        (hle y ((hmem y).2 List.mem_cons_self)) (hle' x ((hmem x).1 List.mem_cons_self))
      obtain rfl : x = y := by
        have hheads := h (rank y)
        simp only [List.filter_cons, hrank, decide_true, if_true, List.cons.injEq] at hheads
        exact hheads.1
      have hrest (k : Nat) : rest.filter (rank · = k) = rest'.filter (rank · = k) := by
        have hk := h k
        by_cases hx : rank x = k <;> simpa [List.filter_cons, hx] using hk
      have hmemrest (z : ε) : z ∈ rest ↔ z ∈ rest' := by
        have hz : z ∈ rest.filter (rank · = rank z) ↔ z ∈ rest'.filter (rank · = rank z) := by
          rw [hrest]
        simpa using hz
      rw [ih (List.pairwise_cons.1 hl).2 (List.pairwise_cons.1 hl').2 hrest hmemrest]

/-- Behind the elements of a rank or a lower one, all ranks are greater. -/
theorem lt_of_mem_dropWhile (hl : l.Pairwise (rank · ≤ rank ·))
    (h : x ∈ l.dropWhile (rank · ≤ k)) : k < rank x := by
  induction l with
  | nil => exact absurd h List.not_mem_nil
  | cons y rest ih =>
    obtain ⟨hy, hrest⟩ := List.pairwise_cons.1 hl
    by_cases hk : rank y ≤ k
    · rw [List.dropWhile_cons_of_pos (by simpa using hk)] at h
      exact ih hrest h
    · rw [List.dropWhile_cons_of_neg (by simpa using hk)] at h
      have hle : rank y ≤ rank x := by
        rcases List.mem_cons.1 h with rfl | h
        · exact Nat.le_refl _
        · exact hy x h
      omega

theorem pairwise_place (hl : l.Pairwise (rank · ≤ rank ·)) :
    (place rank e l).Pairwise (rank · ≤ rank ·) := by
  have hfront : ∀ x ∈ l.takeWhile (rank · ≤ rank e), rank x ≤ rank e :=
    fun x hx => by simpa using List.mem_takeWhile_imp hx
  have hback : ∀ x ∈ l.dropWhile (rank · ≤ rank e), rank e ≤ rank x :=
    fun x hx => Nat.le_of_lt (lt_of_mem_dropWhile hl hx)
  refine List.pairwise_append.2 ⟨hl.sublist (List.takeWhile_sublist _),
    List.pairwise_cons.2 ⟨hback, hl.sublist (List.dropWhile_sublist _)⟩, fun x hx y hy => ?_⟩
  rcases List.mem_cons.1 hy with rfl | hy
  · exact hfront x hx
  · exact Nat.le_trans (hfront x hx) (hback y hy)

/-- A placed element is the last of its rank. -/
theorem filter_place (hl : l.Pairwise (rank · ≤ rank ·)) (k : Nat) :
    (place rank e l).filter (rank · = k) = (l ++ [e]).filter (rank · = k) := by
  have hsplit : l.filter (rank · = k) =
      (l.takeWhile (rank · ≤ rank e)).filter (rank · = k) ++
        (l.dropWhile (rank · ≤ rank e)).filter (rank · = k) := by
    rw [← List.filter_append, List.takeWhile_append_dropWhile]
  rw [place, List.filter_append, List.filter_append, hsplit]
  by_cases he : rank e = k
  · subst he
    have hback : (l.dropWhile (rank · ≤ rank e)).filter (rank · = rank e) = [] :=
      List.filter_eq_nil_iff.2 fun x hx => by simpa using (lt_of_mem_dropWhile hl hx).ne'
    simp only [List.filter_cons, decide_true, if_true, hback, List.append_nil, List.filter_nil]
  · simp [he]

/-- To place an element is to insert it by position. -/
theorem place_eq_take_append_drop :
    place rank e l = l.take (l.takeWhile (rank · ≤ rank e)).length ++
      e :: l.drop (l.takeWhile (rank · ≤ rank e)).length := by
  have htake : l.take (l.takeWhile (rank · ≤ rank e)).length = l.takeWhile (rank · ≤ rank e) :=
    (List.prefix_iff_eq_take.1 (List.takeWhile_prefix _)).symm
  have hboth : l.takeWhile (rank · ≤ rank e) ++ l.drop (l.takeWhile (rank · ≤ rank e)).length =
      l.takeWhile (rank · ≤ rank e) ++ l.dropWhile (rank · ≤ rank e) := by
    calc
      _ = l.take (l.takeWhile (rank · ≤ rank e)).length ++
          l.drop (l.takeWhile (rank · ≤ rank e)).length := by rw [htake]
      _ = l := List.take_append_drop _ _
      _ = _ := List.takeWhile_append_dropWhile.symm
  rw [place, htake, List.append_cancel_left hboth]

/-- Sorting can take place while a list is collected. -/
theorem byRank_concat : byRank rank (l ++ [e]) = place rank e (byRank rank l) := by
  refine eq_of_filter_rank_eq pairwise_byRank (pairwise_place pairwise_byRank) fun k => ?_
  rw [filter_byRank, filter_place pairwise_byRank, List.filter_append, List.filter_append,
    filter_byRank]

/-- Neighbours of different ranks can change places. -/
theorem byRank_swap (h : rank e ≠ rank x) :
    byRank rank (before ++ e :: x :: after) = byRank rank (before ++ x :: e :: after) := by
  refine eq_of_filter_rank_eq pairwise_byRank pairwise_byRank fun k => ?_
  rw [filter_byRank, filter_byRank, List.filter_append, List.filter_append]
  by_cases he : rank e = k
  · have hx : rank x ≠ k := fun hx => h (he.trans hx.symm)
    simp [he, hx]
  · simp [List.filter_cons, he]

/-- What comes first by rank is of the least rank, and the earliest of that rank. -/
theorem exists_first_of_byRank_eq {p : ε → Prop} (h : byRank rank l = before ++ e :: after)
    (he : p e) (hbefore : ∀ x ∈ before, ¬ p x) :
    ∃ i : Nat, l[i]? = some e ∧ ∀ (j : Nat) (x : ε), l[j]? = some x → p x →
      rank e < rank x ∨ rank e = rank x ∧ i ≤ j := by
  classical
  have hleast (x : ε) (hx : x ∈ l) (hpx : p x) : rank e ≤ rank x := by
    have hafter : ∀ y ∈ after, rank e ≤ rank y := by
      have hsorted : (before ++ e :: after).Pairwise (rank · ≤ rank ·) := h ▸ pairwise_byRank
      exact (List.pairwise_cons.1 (List.pairwise_append.1 hsorted).2.1).1
    have hmem : x ∈ before ++ e :: after := h ▸ byRank_perm.mem_iff.2 hx
    rcases List.mem_append.1 hmem with hx | hx
    · exact absurd hpx (hbefore x hx)
    · rcases List.mem_cons.1 hx with rfl | hx
      · exact Nat.le_refl _
      · exact hafter x hx
  -- among the elements of its rank it comes first in the sorted list, and so in the list
  have hfind : l.find? (fun x => rank x = rank e ∧ p x) = some e := by
    have hsorted : ((byRank rank l).filter (rank · = rank e)).find? (p ·) = some e := by
      rw [h, List.filter_append, List.filter_cons_of_pos (by simp), List.find?_append,
        List.find?_eq_none.2 fun x hx => by simpa using hbefore x (List.mem_of_mem_filter hx),
        List.find?_cons_of_pos (by simpa using he)]
      rfl
    rw [filter_byRank, List.find?_filter] at hsorted
    simpa using hsorted
  obtain ⟨-, i, hi, hget, hfirst⟩ := List.find?_eq_some_iff_getElem.1 hfind
  refine ⟨i, by rw [List.getElem?_eq_getElem hi, hget], fun j x hx hpx => ?_⟩
  obtain ⟨hj, rfl⟩ := List.getElem?_eq_some_iff.1 hx
  rcases Nat.lt_or_eq_of_le (hleast l[j] (List.getElem_mem hj) hpx) with hlt | heq
  · exact .inl hlt
  · refine .inr ⟨heq, Nat.le_of_not_lt fun hlt => ?_⟩
    have hnot := hfirst j hlt
    simp [heq, hpx] at hnot

end ByRank

/-! ## Calls in another order -/

namespace Contribution

variable {γ : Type} {rank : γ → Nat} {c : γ} {own : List String}
  {before later : List (Contribution γ)}

def isOther : Contribution γ → Bool
  | constraint _ => false
  | message _ => false
  | other => true

theorem lastMessage_filter (calls : List (Contribution γ)) :
    lastMessage (calls.filter (!·.isOther)) = lastMessage calls := by
  induction calls with
  | nil => rfl
  | cons call later ih =>
    cases call with
    | constraint c => rfl
    | message text =>
      rw [List.filter_cons_of_pos rfl, lastMessage_message, ih, lastMessage_message]
    | other =>
      rw [List.filter_cons_of_neg Bool.false_ne_true, ih, lastMessage_other]

theorem stated_filter (calls : List (Contribution γ)) :
    stated (calls.filter (!·.isOther)) = stated calls := by
  induction calls with
  | nil => rfl
  | cons call later ih =>
    cases call with
    | constraint c =>
      rw [List.filter_cons_of_pos rfl, stated_constraint, ih, lastMessage_filter, stated_constraint]
    | message text => rw [List.filter_cons_of_pos rfl, stated_message, ih, stated_message]
    | other => rw [List.filter_cons_of_neg Bool.false_ne_true, ih, stated_other]

/-- A constraint followed by messages for it. -/
def block (c : γ) (own : List String) : List (Contribution γ) := constraint c :: own.map message

theorem lastMessage_map_message_append :
    lastMessage (own.map message ++ later) = (lastMessage later).or own.getLast? := by
  induction own with
  | nil => simp
  | cons text own ih =>
    rw [List.map_cons, List.cons_append, lastMessage_message, ih, List.getLast?_cons]
    cases lastMessage later <;> cases own.getLast? <;> rfl

theorem stated_map_message_append : stated (own.map message ++ later) = stated later := by
  induction own with
  | nil => rfl
  | cons text own ih => rw [List.map_cons, List.cons_append, stated_message, ih]

theorem stated_block_append :
    stated (block c own ++ later) = (c, (lastMessage later).or own.getLast?) :: stated later := by
  rw [block, List.cons_append, stated_constraint, lastMessage_map_message_append,
    stated_map_message_append]

theorem lastMessage_append_block :
    lastMessage (before ++ (block c own ++ later)) = lastMessage before := by
  induction before with
  | nil => rfl
  | cons call before ih => cases call <;> simp [ih]

theorem stated_append_block :
    stated (before ++ (block c own ++ later)) = stated before ++ stated (block c own ++ later) := by
  induction before with
  | nil => rfl
  | cons call before ih => cases call <;> simp [ih, lastMessage_append_block]

/-- Two neighbouring constraints of different ranks, each with all messages given to it,
change places. -/
inductive Exchanged (rank : γ → Nat) : List (Contribution γ) → List (Contribution γ) → Prop
  | swap (before : List (Contribution γ)) (c : γ) (own : List String) (c' : γ) (own' : List String)
      (after : List (Contribution γ)) (hrank : rank c ≠ rank c') (hafter : lastMessage after = none) :
      Exchanged rank (before ++ (block c own ++ (block c' own' ++ after)))
        (before ++ (block c' own' ++ (block c own ++ after)))

variable {calls calls' : List (Contribution γ)}

/-- An exchange leaves the messages before the first constraint as they are, -/
theorem Exchanged.lastMessage_eq (h : Exchanged rank calls calls') :
    lastMessage calls = lastMessage calls' := by
  obtain ⟨before, c, own, c', own', after, hrank, hafter⟩ := h
  rw [lastMessage_append_block, lastMessage_append_block]

/-- and makes no difference once the constraints are in the order of their ranks. -/
theorem Exchanged.byRank_stated (h : Exchanged rank calls calls') :
    byRank (rank ·.1) (stated calls) = byRank (rank ·.1) (stated calls') := by
  obtain ⟨before, c, own, c', own', after, hrank, hafter⟩ := h
  have hstated (c : γ) (own : List String) (c' : γ) (own' : List String) :
      stated (before ++ (block c own ++ (block c' own' ++ after))) =
        stated before ++ (c, own.getLast?) :: (c', own'.getLast?) :: stated after := by
    have hnone : lastMessage (block c' own' ++ after) = none := rfl
    rw [stated_append_block, stated_block_append, stated_block_append, hnone, hafter]
    rfl
  rw [hstated, hstated]
  exact byRank_swap hrank

end Contribution

/-! ## What calls leave behind -/

namespace Ranked

variable {κ α : Type} {rank : κ → Nat} {r : Ranked κ} {c : κ} {given : Option String}
  {text : String} {before : List (κ × Option String)}

/-- The constraints after one more call. -/
def contribute (rank : κ → Nat) (r : Ranked κ) : Contribution κ → Ranked κ
  | .constraint c => r.constrain rank c
  | .message text => r.withMessage text
  | .other => r

/-- The constraint stated last, with the message it has so far and behind the others. It
is remembered where it stands. -/
structure EndsWith (rank : κ → Nat) (before : List (κ × Option String)) (c : κ)
    (given : Option String) (r : Ranked κ) : Prop where
  entries_eq : r.entries = byRank (rank ·.1) (before ++ [(c, given)])
  latest_eq : r.latest =
    some ((byRank (rank ·.1) before).takeWhile fun entry => rank entry.1 ≤ rank c).length

theorem EndsWith.constrain (h : r.entries = byRank (rank ·.1) before) :
    EndsWith rank before c none (r.constrain rank c) where
  entries_eq := by
    rw [byRank_concat, ← h]
    rw [place_eq_take_append_drop]
    rfl
  latest_eq := by rw [← h]; rfl

/-- A message is given to the constraint stated last. -/
theorem EndsWith.withMessage (h : EndsWith rank before c given r) :
    EndsWith rank before c (some text) (r.withMessage text) where
  entries_eq := by
    simp only [Ranked.withMessage, h.latest_eq, h.entries_eq, byRank_concat, place]
    simp [List.modify_eq_take_drop]
  latest_eq := by rw [Ranked.withMessage, h.latest_eq]

/-- Behind a constraint, the next message before another constraint is its own. -/
theorem EndsWith.entries_foldl {calls : List (Contribution κ)} (h : EndsWith rank before c given r) :
    (calls.foldl (contribute rank) r).entries = byRank (rank ·.1)
      (before ++ (c, (Contribution.lastMessage calls).or given) :: Contribution.stated calls) := by
  -- induction on the calls to come; a message changes what is given and not where it stands
  induction calls generalizing r before c given with
  | nil => exact h.entries_eq
  | cons call later ih =>
    rw [List.foldl_cons]
    cases call with
    | constraint c' =>
      have hnext : EndsWith rank (before ++ [(c, given)]) c' none
          (r.contribute rank (.constraint c')) := .constrain h.entries_eq
      rw [ih hnext]
      simp
    | message text =>
      have hnext : EndsWith rank before c (some text) (r.contribute rank (.message text)) :=
        h.withMessage
      rw [ih hnext]
      simp
    | other => exact ih h

/-- Behind a constraint, no message is for input of the wrong type. -/
theorem typeMessage_foldl_of_isSome {calls : List (Contribution κ)} (h : r.latest.isSome) :
    (calls.foldl (contribute rank) r).typeMessage = r.typeMessage := by
  induction calls generalizing r with
  | nil => rfl
  | cons call later ih =>
    rw [List.foldl_cons]
    cases call with
    | constraint c => exact ih rfl
    | message text =>
      obtain ⟨i, hi⟩ := Option.isSome_iff_exists.1 h
      have hstep : r.contribute rank (.message text) =
          { r with entries := r.entries.modify i fun entry => (entry.1, some text) } := by
        rw [contribute, withMessage, hi]
      rw [hstep]
      exact ih h
    | other => exact ih h

/-- Before the first constraint, messages are for input of the wrong type only. -/
theorem foldl_contribute_of_empty {calls : List (Contribution κ)} (hentries : r.entries = [])
    (hlatest : r.latest = none) :
    (calls.foldl (contribute rank) r).entries = byRank (rank ·.1) (Contribution.stated calls) ∧
      (calls.foldl (contribute rank) r).typeMessage =
        (Contribution.lastMessage calls).or r.typeMessage := by
  induction calls generalizing r with
  | nil =>
    refine ⟨?_, rfl⟩
    rw [List.foldl_nil, hentries]
    exact List.mergeSort_nil.symm
  | cons call later ih =>
    rw [List.foldl_cons]
    cases call with
    | constraint c =>
      -- from here on there is a constraint for every message
      have hnext : EndsWith rank [] c none (r.contribute rank (.constraint c)) :=
        .constrain (hentries.trans List.mergeSort_nil.symm)
      refine ⟨?_, typeMessage_foldl_of_isSome rfl⟩
      rw [hnext.entries_foldl]
      simp
    | message text =>
      have hstep : r.contribute rank (.message text) = { r with typeMessage := some text } := by
        rw [contribute, withMessage, hlatest]
      obtain ⟨ihentries, ihmessage⟩ := ih (r := r.contribute rank (.message text))
        (by rw [hstep]; exact hentries) (by rw [hstep]; exact hlatest)
      refine ⟨ihentries, ?_⟩
      rw [ihmessage, hstep, Contribution.lastMessage_message]
      cases Contribution.lastMessage later <;> rfl
    | other => exact ih hentries hlatest

/-! ## What is reported -/

/-- The constraint at a position fails. None that fails is of a lower rank, and none of
the same rank comes earlier. -/
structure Leads (rank : κ → Nat) (fails : κ → Prop) (stated : List (κ × Option String)) (i : Nat)
    (c : κ) (message : Option String) : Prop where
  stated_at : stated[i]? = some (c, message)
  fails_at : fails c
  first : ∀ (j : Nat) (c' : κ) (message' : Option String), stated[j]? = some (c', message') →
    fails c' → rank c < rank c' ∨ rank c = rank c' ∧ i ≤ j

variable {check : κ → Option String → Option Issue} {holds : κ → Prop}
  {stated : List (κ × Option String)}

theorem verify_eq_ok_iff_of_byRank (hentries : r.entries = byRank (rank ·.1) stated)
    (hcheck : ∀ c message, check c message = none ↔ holds c) {output a : α} :
    r.verify output check = .ok a ↔ (∀ c message, (c, message) ∈ stated → holds c) ∧ output = a := by
  rw [verify_eq_ok_iff, hentries]
  simp only [byRank_perm.mem_iff, hcheck, Prod.forall]

/-- What is reported is the first failing constraint by rank. -/
theorem exists_leads_of_not_holds (hentries : r.entries = byRank (rank ·.1) stated)
    (hcheck : ∀ c message, check c message = none ↔ holds c)
    (h : ∃ c message, (c, message) ∈ stated ∧ ¬ holds c) (output : α) :
    ∃ i c message issue, Leads rank (¬ holds ·) stated i c message ∧
      check c message = some issue ∧ r.verify output check = .error (.single issue) := by
  cases hfirst : r.firstIssue check with
  | none =>
    obtain ⟨c, message, hmem, hfails⟩ := h
    have hmem : (c, message) ∈ r.entries := hentries ▸ byRank_perm.mem_iff.2 hmem
    exact absurd ((hcheck c message).1 (List.findSome?_eq_none_iff.1 hfirst _ hmem)) hfails
  | some issue =>
    obtain ⟨before, ⟨c, message⟩, after, hsplit, hissue, hbefore⟩ :=
      List.findSome?_eq_some_iff.1 hfirst
    have hissue : check c message = some issue := hissue
    have hfails : ¬ holds c := fun hc => by
      rw [(hcheck c message).2 hc] at hissue
      cases hissue
    obtain ⟨i, hi, hleast⟩ := exists_first_of_byRank_eq (p := fun entry => ¬ holds entry.1)
      (hentries ▸ hsplit) hfails
      fun entry hentry => not_not_intro ((hcheck entry.1 entry.2).1 (hbefore entry hentry))
    refine ⟨i, c, message, issue, ⟨hi, hfails, fun j c' message' => hleast j (c', message')⟩,
      hissue, ?_⟩
    rw [verify, hfirst]
    rfl

end Ranked

end Conform
