import Conform.Format
import Mathlib.Data.List.Forall2
/-!
# Identifier — the grammars of identifiers in groups

Both identifiers are groups of hexadecimal digits with one separator between any two. The
functions that decide them count bytes: a UUID has its dashes at byte positions, and the groups
of a MAC address are two bytes long. All characters that they let through take one byte, so
bytes and characters are the same on every text that is accepted.

Where the separators stand among groups of given lengths is their `outline`, and a text that
fits an outline place by place is one of groups (`isGrouped_iff`).
-/


namespace Conform

namespace Format

/-! ## The grammar -/

/-- An ASCII hexadecimal digit. -/
def IsHexDigit (c : Char) : Prop :=
  '0' ≤ c ∧ c ≤ '9' ∨ 'a' ≤ c ∧ c ≤ 'f' ∨ 'A' ≤ c ∧ c ≤ 'F'

instance (c : Char) : Decidable (IsHexDigit c) := inferInstanceAs (Decidable (_ ∨ _))

/-- Groups of hexadecimal digits with the given lengths, and a separator between any two. -/
def IsGrouped (separator : Char) (lengths : List Nat) (text : List Char) : Prop :=
  ∃ groups : List (List Char), text = [separator].intercalate groups ∧
    groups.map List.length = lengths ∧ ∀ group ∈ groups, ∀ c ∈ group, IsHexDigit c

variable {separator : Char} {lengths : List Nat} {text : List Char}

/-- The first group ends where a separator stands. -/
theorem isGrouped_cons_cons {n m : Nat} : IsGrouped separator (n :: m :: lengths) text ↔
    ∃ group rest, text = group ++ separator :: rest ∧ group.length = n ∧
      (∀ c ∈ group, IsHexDigit c) ∧ IsGrouped separator (m :: lengths) rest := by
  constructor
  · rintro ⟨groups, rfl, hlengths, hdigits⟩
    obtain ⟨group, later, rfl, hgroup, hlater⟩ := List.map_eq_cons_iff.1 hlengths
    obtain ⟨next, others, rfl, -, -⟩ := List.map_eq_cons_iff.1 hlater
    obtain ⟨hfirst, hrest⟩ := List.forall_mem_cons.1 hdigits
    refine ⟨group, [separator].intercalate (next :: others), ?_, hgroup, hfirst, _, rfl, hlater,
      hrest⟩
    rw [List.intercalate_cons_cons, List.append_assoc, List.singleton_append]
  · rintro ⟨group, _, rfl, hgroup, hfirst, groups, rfl, hlengths, hrest⟩
    obtain ⟨next, others, rfl, -, -⟩ := List.map_eq_cons_iff.1 hlengths
    refine ⟨group :: next :: others, ?_, ?_, List.forall_mem_cons.2 ⟨hfirst, hrest⟩⟩
    · rw [List.intercalate_cons_cons, List.append_assoc, List.singleton_append]
    · rw [List.map_cons, hgroup, hlengths]

theorem isGrouped_singleton {n : Nat} : IsGrouped separator [n] text ↔
    text.length = n ∧ ∀ c ∈ text, IsHexDigit c := by
  constructor
  · rintro ⟨groups, rfl, hlengths, hdigits⟩
    obtain ⟨group, rfl, hgroup⟩ := List.map_eq_singleton_iff.1 hlengths
    rw [List.intercalate_singleton]
    exact ⟨hgroup, List.forall_mem_singleton.1 hdigits⟩
  · rintro ⟨hlength, hdigits⟩
    exact ⟨[text], List.intercalate_singleton.symm, congrArg (· :: []) hlength,
      List.forall_mem_singleton.2 hdigits⟩

/-! ## Outlines -/

/-- The places of groups with the given lengths: true where a separator stands. -/
def outline : List Nat → List Bool
  | [] => []
  | [n] => List.replicate n false
  | n :: m :: rest => List.replicate n false ++ true :: outline (m :: rest)

/-- What may stand at a place. -/
def Fits (separator : Char) (isSeparator : Bool) (c : Char) : Prop :=
  if isSeparator then c = separator else IsHexDigit c

/-- Places for digits are taken by as many digits. -/
theorem fits_digits_iff {n : Nat} {places : List Bool} :
    List.Forall₂ (Fits separator) (List.replicate n false ++ places) text ↔
      ∃ group rest, text = group ++ rest ∧ group.length = n ∧ (∀ c ∈ group, IsHexDigit c) ∧
        List.Forall₂ (Fits separator) places rest := by
  induction n generalizing text with
  | zero =>
    constructor
    · intro h
      exact ⟨[], text, rfl, rfl, List.forall_mem_nil _, h⟩
    · rintro ⟨group, rest, rfl, hgroup, -, h⟩
      rwa [List.length_eq_zero_iff.1 hgroup]
  | succ n ih =>
    rw [List.replicate_succ, List.cons_append, List.forall₂_cons_left_iff]
    constructor
    · rintro ⟨c, later, hc, hlater, rfl⟩
      obtain ⟨group, rest, rfl, hgroup, hdigits, hrest⟩ := ih.1 hlater
      exact ⟨c :: group, rest, rfl, congrArg Nat.succ hgroup,
        List.forall_mem_cons.2 ⟨hc, hdigits⟩, hrest⟩
    · rintro ⟨group, rest, rfl, hgroup, hdigits, hrest⟩
      obtain ⟨c, group, rfl⟩ := List.exists_cons_of_length_eq_add_one hgroup
      obtain ⟨hc, hdigits⟩ := List.forall_mem_cons.1 hdigits
      exact ⟨c, group ++ rest, hc, ih.2 ⟨group, rest, rfl, Nat.succ.inj hgroup, hdigits, hrest⟩,
        rfl⟩

/-- **A text is one of groups if it fits their outline.** -/
theorem isGrouped_iff : IsGrouped separator lengths text ↔
    List.Forall₂ (Fits separator) (outline lengths) text := by
  induction lengths using outline.induct generalizing text with
  | case1 =>
    rw [outline, List.forall₂_nil_left_iff]
    constructor
    · rintro ⟨groups, rfl, hgroups, -⟩
      rw [List.map_eq_nil_iff.1 hgroups, List.intercalate_nil]
    · rintro rfl
      exact ⟨[], List.intercalate_nil.symm, rfl, List.forall_mem_nil _⟩
  | case2 n =>
    rw [outline, isGrouped_singleton, ← List.append_nil (List.replicate n false), fits_digits_iff]
    simp only [List.forall₂_nil_left_iff]
    constructor
    · rintro ⟨hlength, hdigits⟩
      exact ⟨text, [], (List.append_nil _).symm, hlength, hdigits, rfl⟩
    · rintro ⟨group, _, rfl, hlength, hdigits, rfl⟩
      rw [List.append_nil]
      exact ⟨hlength, hdigits⟩
  | case3 n m rest ih =>
    rw [outline, isGrouped_cons_cons, fits_digits_iff]
    simp only [List.forall₂_cons_left_iff]
    constructor
    · rintro ⟨group, later, rfl, hlength, hdigits, hlater⟩
      exact ⟨group, _, rfl, hlength, hdigits, separator, later, rfl, ih.1 hlater, rfl⟩
    · rintro ⟨group, _, rfl, hlength, hdigits, _, later, rfl, hlater, rfl⟩
      exact ⟨group, later, rfl, hlength, hdigits, ih.2 hlater⟩

/-! ## Characters and bytes -/

theorem isHexDigit_iff (c : Char) : isHexDigit c = true ↔ IsHexDigit c := by
  simp only [isHexDigit, isAsciiDigit, Bool.or_eq_true, Bool.and_eq_true, decide_eq_true_eq,
    IsHexDigit, or_assoc]

/-- A hexadecimal digit takes one byte. -/
theorem IsHexDigit.utf8Size_eq {c : Char} (h : IsHexDigit c) : c.utf8Size = 1 := by
  rw [Char.utf8Size_eq_one_iff]
  have hle : c ≤ 'f' := by
    rcases h with ⟨-, h⟩ | ⟨-, h⟩ | ⟨-, h⟩
    · exact Char.le_trans h (by decide)
    · exact h
    · exact Char.le_trans h (by decide)
  exact UInt32.le_trans hle (by decide)

theorem byteLength_eq_length (h : ∀ c ∈ text, c.utf8Size = 1) : byteLength text = text.length := by
  induction text with
  | nil => rfl
  | cons c rest ih =>
    obtain ⟨hc, hrest⟩ := List.forall_mem_cons.1 h
    rw [byteLength, hc, ih hrest, List.length_cons, Nat.add_comm]

theorem withPositions_eq_zipIdx (h : ∀ c ∈ text, c.utf8Size = 1) (position : Nat) :
    withPositions position text = text.zipIdx position := by
  induction text generalizing position with
  | nil => rfl
  | cons c rest ih =>
    obtain ⟨hc, hrest⟩ := List.forall_mem_cons.1 h
    rw [withPositions, hc, ih hrest, List.zipIdx_cons]

theorem map_fst_withPositions (position : Nat) (text : List Char) :
    (withPositions position text).map Prod.fst = text := by
  induction text generalizing position with
  | nil => rfl
  | cons c rest ih => rw [withPositions, List.map_cons, ih]

/-! ## UUIDs -/

theorem outline_uuid : outline [8, 4, 4, 4, 12] = (List.range 36).map isDashPosition := by
  decide

theorem Fits.utf8Size_eq {isSeparator : Bool} {c : Char} (hseparator : separator.utf8Size = 1)
    (h : Fits separator isSeparator c) : c.utf8Size = 1 := by
  cases isSeparator with
  | true => rw [show c = separator from h, hseparator]
  | false => exact IsHexDigit.utf8Size_eq h

/-- Places that are given by their position. -/
theorem fits_range_iff {isSeparator : Nat → Bool} {n : Nat} :
    List.Forall₂ (Fits separator) ((List.range n).map isSeparator) text ↔
      text.length = n ∧ ∀ p ∈ text.zipIdx, Fits separator (isSeparator p.2) p.1 := by
  simp only [List.forall₂_iff_get, List.length_map, List.length_range, List.get_eq_getElem,
    List.getElem_map, List.getElem_range, eq_comm (a := n)]
  refine and_congr_right fun hlength => ?_
  constructor
  · rintro h ⟨c, i⟩ hmem
    obtain ⟨hi, hc⟩ := List.getElem?_eq_some_iff.1 (List.mk_mem_zipIdx_iff_getElem?.1 hmem)
    exact hc ▸ h i (hlength ▸ hi) hi
  · intro h i _ hi
    exact h (text[i], i) (List.mk_mem_zipIdx_iff_getElem?.2 (List.getElem?_eq_getElem hi))

theorem isUuid_iff (text : List Char) : isUuid text = true ↔
    IsGrouped '-' [8, 4, 4, 4, 12] text := by
  have hplace (c : Char) (i : Nat) :
      (if isDashPosition i then decide (c = '-') else isHexDigit c) = true ↔
        Fits '-' (isDashPosition i) c := by
    unfold Fits
    split
    · exact decide_eq_true_iff
    · exact isHexDigit_iff c
  have hdash : '-'.utf8Size = 1 := by decide
  rw [isGrouped_iff, outline_uuid, fits_range_iff]
  simp only [isUuid, Bool.and_eq_true, decide_eq_true_eq, List.all_eq_true, hplace]
  constructor
  · rintro ⟨hlength, hplaces⟩
    -- whatever the position is, only characters of one byte are let through
    have hbytes : ∀ c ∈ text, c.utf8Size = 1 := by
      intro c hc
      rw [← map_fst_withPositions 0 text] at hc
      obtain ⟨p, hp, rfl⟩ := List.mem_map.1 hc
      exact (hplaces p hp).utf8Size_eq hdash
    rw [byteLength_eq_length hbytes] at hlength
    rw [withPositions_eq_zipIdx hbytes] at hplaces
    exact ⟨hlength, hplaces⟩
  · rintro ⟨hlength, hplaces⟩
    have hbytes : ∀ c ∈ text, c.utf8Size = 1 := by
      intro c hc
      obtain ⟨i, hi, rfl⟩ := List.mem_iff_getElem.1 hc
      have hmem : (text[i], i) ∈ text.zipIdx :=
        List.mk_mem_zipIdx_iff_getElem?.2 (List.getElem?_eq_getElem hi)
      exact (hplaces _ hmem).utf8Size_eq hdash
    rw [byteLength_eq_length hbytes, withPositions_eq_zipIdx hbytes]
    exact ⟨hlength, hplaces⟩

/-! ## MAC addresses -/

theorem splitAt_eq_splitOn (separator : Char) (text : List Char) :
    splitAt separator text = text.splitOn separator := by
  induction text with
  | nil => rfl
  | cons c rest ih =>
    rw [splitAt, List.splitOn_cons_eq_if_modifyHead, ih]
    simp only [beq_iff_eq]
    split
    · rfl
    · cases hpieces : rest.splitOn separator with
      | nil => exact absurd hpieces (List.splitOn_ne_nil _ _)
      | cons piece others => rfl

/-- A group of digits has as many bytes as digits. -/
theorem byteLength_and_isHexDigit_iff {n : Nat} {group : List Char} :
    byteLength group = n ∧ (∀ c ∈ group, IsHexDigit c) ↔
      group.length = n ∧ ∀ c ∈ group, IsHexDigit c := by
  refine and_congr_left fun hdigits => ?_
  rw [byteLength_eq_length fun c hc => (hdigits c hc).utf8Size_eq]

/-- Groups of digits are found again by splitting at a separator that is no digit. -/
theorem splitOn_intercalate_digits {groups : List (List Char)} (hseparator : ¬ IsHexDigit separator)
    (hne : groups ≠ []) (hdigits : ∀ group ∈ groups, ∀ c ∈ group, IsHexDigit c) :
    ([separator].intercalate groups).splitOn separator = groups :=
  List.splitOn_intercalate separator
    (fun group hgroup hmem => hseparator (hdigits group hgroup separator hmem)) hne

/-- Right behind the first of several groups the separator stands. -/
theorem getElem?_intercalate (separator : Char) (first next : List Char)
    (others : List (List Char)) :
    ([separator].intercalate (first :: next :: others))[first.length]? = some separator := by
  rw [List.intercalate_cons_cons, List.append_assoc,
    List.getElem?_append_right (Nat.le_refl _), Nat.sub_self]
  rfl

theorem isMac_iff (text : List Char) : isMac text = true ↔
    ∃ separator, (separator = ':' ∨ separator = '-') ∧
      IsGrouped separator [2, 2, 2, 2, 2, 2] text := by
  have hgroups (groups : List (List Char)) : groups.map List.length = [2, 2, 2, 2, 2, 2] ↔
      groups.length = 6 ∧ ∀ group ∈ groups, group.length = 2 := by
    rw [show [2, 2, 2, 2, 2, 2] = List.replicate 6 2 from rfl, List.eq_replicate_iff,
      List.length_map, List.forall_mem_map]
  unfold isMac IsGrouped
  simp only [hgroups]
  constructor
  · intro h
    split at h
    · rename_i separator _
      simp only [Bool.and_eq_true, Bool.or_eq_true, decide_eq_true_eq, List.all_eq_true,
        splitAt_eq_splitOn, isHexDigit_iff, byteLength_and_isHexDigit_iff] at h
      obtain ⟨⟨hseparator, hlength⟩, hgroup⟩ := h
      exact ⟨separator, hseparator, text.splitOn separator,
        (List.intercalate_splitOn separator).symm,
        ⟨hlength, fun group hmem => (hgroup group hmem).1⟩, fun group hmem => (hgroup group hmem).2⟩
    · exact absurd h Bool.false_ne_true
  · rintro ⟨separator, hseparator, groups, rfl, ⟨hlength, htwo⟩, hdigits⟩
    have hnodigit : ¬ IsHexDigit separator := by
      rcases hseparator with rfl | rfl
      · decide
      · decide
    obtain ⟨first, later, rfl⟩ := List.exists_cons_of_length_eq_add_one hlength
    obtain ⟨next, others, rfl⟩ := List.exists_cons_of_length_eq_add_one (Nat.succ.inj hlength)
    have hthird : ([separator].intercalate (first :: next :: others))[2]? = some separator :=
      htwo first List.mem_cons_self ▸ getElem?_intercalate separator first next others
    rw [hthird]
    simp only [Bool.and_eq_true, Bool.or_eq_true, decide_eq_true_eq, List.all_eq_true,
      splitAt_eq_splitOn, splitOn_intercalate_digits hnodigit (List.cons_ne_nil _ _) hdigits,
      isHexDigit_iff, byteLength_and_isHexDigit_iff]
    exact ⟨⟨hseparator, hlength⟩, fun group hmem => ⟨htwo group hmem, hdigits group hmem⟩⟩

/-- **Identifiers are groups of digits.** A UUID is five groups of 8, 4, 4, 4 and 12 digits with
dashes between them, a MAC address six groups of two digits with one separator between any two,
a colon or a dash. -/
theorem identifier_grammars (text : String) :
    (uuid.accepts text = true ↔ IsGrouped '-' [8, 4, 4, 4, 12] text.toList) ∧
      (mac.accepts text = true ↔ ∃ separator, (separator = ':' ∨ separator = '-') ∧
        IsGrouped separator [2, 2, 2, 2, 2, 2] text.toList) :=
  ⟨isUuid_iff text.toList, isMac_iff text.toList⟩

/-- A character of two bytes in front moves every dash by one. -/
example : isUuid "é1234567-1234-1234-1234-12345678901".toList = false := by decide

end Format

end Conform
