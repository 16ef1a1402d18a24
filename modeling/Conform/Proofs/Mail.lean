import Conform.Format
import Conform.Pattern.Reader
import Conform.Proofs.Pattern.Meaning
import Conform.Proofs.Readable
/-!
# Mail — the grammars of mail addresses and web addresses

Both forms are described in three ways: by a grammar, by the function that decides the form,
and by a regular expression. All three accept the same texts. The expressions are taken as
written, read by `Regex.ofText?`, and understood as `Pattern.Matches` says.

The expression for a label nests an optional group with a bounded repetition; it spells the
texts of 1 to 63 characters with a letter or digit at both ends (`isLabel_iff_first_tail`).
-/


namespace Conform

open Unicode (CodeSet)
open Pattern

namespace Format

/-! ## The grammars -/

/-- An ASCII letter or digit. -/
def IsLetterOrDigit (c : Char) : Prop :=
  'a' ≤ c ∧ c ≤ 'z' ∨ 'A' ≤ c ∧ c ≤ 'Z' ∨ '0' ≤ c ∧ c ≤ '9'

instance (c : Char) : Decidable (IsLetterOrDigit c) := inferInstanceAs (Decidable (_ ∨ _))

/-- A character that may stand in front of the at sign. -/
def IsLocalChar (c : Char) : Prop :=
  IsLetterOrDigit c ∨ c ∈ ".!#$%&'*+/=?^_\x60\x7b|\x7d~-".toList

instance (c : Char) : Decidable (IsLocalChar c) := inferInstanceAs (Decidable (_ ∨ _))

/-- One to 63 letters, digits and dashes, with no dash at either end. -/
def IsLabel (label : List Char) : Prop :=
  1 ≤ label.length ∧ label.length ≤ 63 ∧ (∀ c ∈ label, IsLetterOrDigit c ∨ c = '-') ∧
    label.head? ≠ some '-' ∧ label.getLast? ≠ some '-'

/-- A local part, an at sign, and two or more labels with dots between them. -/
def IsMailAddress (text : List Char) : Prop :=
  ∃ (name : List Char) (labels : List (List Char)),
    text = name ++ '@' :: ['.'].intercalate labels ∧
      name ≠ [] ∧ (∀ c ∈ name, IsLocalChar c) ∧ 2 ≤ labels.length ∧ ∀ label ∈ labels, IsLabel label

/-- A character that is no blank and none of a path, and then characters that are no blanks. -/
def IsHostAndPath (text : List Char) : Prop :=
  ∃ (first : Char) (rest : List Char), text = first :: rest ∧
    ¬Unicode.isWhiteSpace first = true ∧ first ∉ "/$.?#".toList ∧
      ∀ c ∈ rest, ¬Unicode.isWhiteSpace c = true

/-- A scheme, and what it has after it. -/
def IsWebAddress (text : List Char) : Prop :=
  ∃ scheme ∈ ["http://", "https://"], ∃ rest, text = scheme.toList ++ rest ∧ IsHostAndPath rest

/-! ## Characters -/

theorem isLetterOrDigit_iff (c : Char) : IsLetterOrDigit c ↔
    97 ≤ c.toNat ∧ c.toNat ≤ 122 ∨ 65 ≤ c.toNat ∧ c.toNat ≤ 90 ∨ 48 ≤ c.toNat ∧ c.toNat ≤ 57 :=
  Iff.rfl

theorem isAlphanumeric_iff (c : Char) : isAlphanumeric c = true ↔ IsLetterOrDigit c := by
  have hranges : isAlphanumeric c = ((decide ('A' ≤ c ∧ c ≤ 'Z') ||
      (decide ('a' ≤ c) && decide (c ≤ 'z'))) || (decide ('0' ≤ c) && decide (c ≤ '9'))) := rfl
  simp only [hranges, Bool.or_eq_true, Bool.and_eq_true, decide_eq_true_eq, IsLetterOrDigit]
  rw [or_comm (a := 'A' ≤ c ∧ c ≤ 'Z'), or_assoc]

theorem isLocal_iff (c : Char) : isLocal c = true ↔ IsLocalChar c := by
  rw [isLocal, Bool.or_eq_true, isAlphanumeric_iff, List.contains_iff_mem, IsLocalChar]

theorem isLabelChar_iff (c : Char) : isLabelChar c = true ↔ IsLetterOrDigit c ∨ c = '-' := by
  rw [isLabelChar, Bool.or_eq_true, isAlphanumeric_iff, decide_eq_true_iff]

/-! ## The functions that decide the forms -/

theorem isLabel_iff (label : List Char) : isLabel label = true ↔ IsLabel label := by
  simp only [isLabel, IsLabel, Bool.and_eq_true, decide_eq_true_eq, List.all_eq_true,
    isLabelChar_iff, bne_iff_ne, and_assoc, Nat.succ_le_iff]

example : isLabel (List.replicate 63 'a') = true ∧ isLabel (List.replicate 64 'a') = false := by
  decide +kernel

theorem dot_notMem_of_isLabel {label : List Char} (h : IsLabel label) : '.' ∉ label := by
  intro hdot
  exact absurd (h.2.2.1 '.' hdot) (by decide)

theorem isEmail_iff (text : List Char) : isEmail text = true ↔ IsMailAddress text := by
  constructor
  · intro h
    unfold isEmail at h
    split at h
    · rename_i domain hdomain
      simp only [Bool.and_eq_true, decide_eq_true_eq, List.all_eq_true, Bool.not_eq_true',
        List.isEmpty_eq_false_iff, isLabel_iff, Path.pieces_eq_splitOn] at h
      obtain ⟨⟨hname, hlength⟩, hlabels⟩ := h
      refine ⟨text.takeWhile isLocal, domain.splitOn '.', ?_, hname, fun c hc => ?_, hlength,
        hlabels⟩
      · rw [List.intercalate_splitOn, ← hdomain, List.takeWhile_append_dropWhile]
      · exact (isLocal_iff c).1 (List.all_eq_true.1 List.all_takeWhile c hc)
    · exact absurd h Bool.false_ne_true
  · rintro ⟨name, labels, rfl, hname, hlocal, hlength, hlabels⟩
    have hlocal' : ∀ c ∈ name, isLocal c = true := fun c hc => (isLocal_iff c).2 (hlocal c hc)
    have hat : isLocal '@' = false := by decide
    have htake : (name ++ '@' :: ['.'].intercalate labels).takeWhile isLocal = name := by
      rw [List.takeWhile_append_of_pos hlocal', List.takeWhile_cons_of_neg (by simp [hat]),
        List.append_nil]
    have hdrop : (name ++ '@' :: ['.'].intercalate labels).dropWhile isLocal =
        '@' :: ['.'].intercalate labels := by
      rw [List.dropWhile_append_of_pos hlocal', List.dropWhile_cons_of_neg (by simp [hat])]
    have hpieces : Path.pieces (['.'].intercalate labels) = labels := by
      rw [Path.pieces_eq_splitOn, List.splitOn_intercalate '.'
        (fun label hlabel => dot_notMem_of_isLabel (hlabels label hlabel))
        (List.ne_nil_of_length_pos (by omega))]
    simp only [isEmail, htake, hdrop, hpieces, Bool.and_eq_true, decide_eq_true_eq,
      List.all_eq_true, Bool.not_eq_true', List.isEmpty_eq_false_iff, isLabel_iff]
    exact ⟨⟨hname, hlength⟩, hlabels⟩

theorem after?_eq_some_iff {start text rest : List Char} :
    after? start text = some rest ↔ text = start ++ rest := by
  unfold after?
  split
  · rename_i h
    rw [List.isPrefixOf_iff_prefix] at h
    obtain ⟨t, rfl⟩ := h
    simp
  · rename_i h
    rw [List.isPrefixOf_iff_prefix] at h
    simp only [reduceCtorEq, false_iff]
    rintro rfl
    exact h (List.prefix_append start rest)

theorem isHostAndPath_iff (text : List Char) : isHostAndPath text = true ↔ IsHostAndPath text := by
  cases text with
  | nil => exact iff_of_false Bool.false_ne_true nofun
  | cons first rest =>
    simp only [isHostAndPath, IsHostAndPath, Bool.and_eq_true, Bool.not_eq_true', List.all_eq_true,
      List.forall_mem_cons, List.contains_eq_mem, decide_eq_false_iff_not, Bool.not_eq_true,
      List.cons.injEq]
    constructor
    · rintro ⟨hstart, hfirst, hrest⟩
      exact ⟨first, rest, ⟨rfl, rfl⟩, hfirst, hstart, hrest⟩
    · rintro ⟨_, _, ⟨rfl, rfl⟩, hfirst, hstart, hrest⟩
      exact ⟨hstart, hfirst, hrest⟩

theorem isUrl_iff (text : List Char) : isUrl text = true ↔ IsWebAddress text := by
  constructor
  · intro h
    unfold isUrl at h
    split at h
    · rename_i rest hrest
      exact ⟨"https://", by decide, rest, after?_eq_some_iff.1 hrest,
        (isHostAndPath_iff rest).1 h⟩
    · split at h
      · rename_i rest hrest
        exact ⟨"http://", by decide, rest, after?_eq_some_iff.1 hrest,
          (isHostAndPath_iff rest).1 h⟩
      · exact absurd h Bool.false_ne_true
  · rintro ⟨scheme, hscheme, rest, rfl, hrest⟩
    rw [← isHostAndPath_iff] at hrest
    rcases List.mem_cons.1 hscheme with rfl | hscheme
    · exact hrest
    · rw [List.mem_singleton.1 hscheme]
      exact hrest

/-! ## The expressions -/

/-- The expression for mail addresses. -/
def mailText : String :=
  "^[a-zA-Z0-9.!#$%&'*+/=?^_\x60\x7b|\x7d~-]+@" ++
    "[a-zA-Z0-9](?:[a-zA-Z0-9-]\x7b0,61\x7d[a-zA-Z0-9])?" ++
    "(?:\\.[a-zA-Z0-9](?:[a-zA-Z0-9-]\x7b0,61\x7d[a-zA-Z0-9])?)+$"

/-- The expression for web addresses. -/
def webText : String := "^https?://[^\\s/$.?#][^\\s]*$"

def letterOrDigit : CodeSet := ⟨[48, 58, 65, 91, 97, 123]⟩

def labelSet : CodeSet := ⟨[45, 46, 48, 58, 65, 91, 97, 123]⟩

def localSet : CodeSet :=
  ⟨[33, 34, 35, 40, 42, 44, 45, 58, 61, 62, 63, 64, 65, 91, 94, 127]⟩

/-- The blanks and the characters of a path. -/
def blankOrPath : CodeSet := Unicode.whiteSpace.union ⟨[35, 37, 46, 48, 63, 64]⟩

/-- What a label may have behind its first character. -/
def labelTail : Pattern :=
  .repetition 0 (some 1) true
    (.sequence (.repetition 0 (some 61) true (.char labelSet)) (.char letterOrDigit))

/-- The labels behind the first one, each with its dot. -/
def dottedLabels : Pattern :=
  .repetition 1 none true
    (.sequence (.literal ['.']) (.sequence (.char letterOrDigit) labelTail))

def mailPattern : Pattern :=
  .sequence (.assertion .textStart) (.sequence (.repetition 1 none true (.char localSet))
    (.sequence (.literal ['@']) (.sequence (.char letterOrDigit) (.sequence labelTail
      (.sequence dottedLabels (.assertion .textEnd))))))

def hostAndPath : Pattern :=
  .sequence (.char blankOrPath.complement)
    (.sequence (.repetition 0 none true (.char Unicode.whiteSpace.complement))
      (.assertion .textEnd))

def webPattern : Pattern :=
  .sequence (.assertion .textStart) (.sequence (.literal "http".toList)
    (.sequence (.repetition 0 (some 1) true (.literal ['s']))
      (.sequence (.literal "://".toList) hostAndPath)))

set_option maxRecDepth 10000 in
theorem ofText?_mailText : Regex.ofText? mailText = some ⟨mailPattern, []⟩ := by
  decide +kernel

set_option maxRecDepth 10000 in
theorem ofText?_webText : Regex.ofText? webText = some ⟨webPattern, []⟩ := by
  decide +kernel

theorem holdsChar_letterOrDigit (c : Char) :
    letterOrDigit.holdsChar c = true ↔ IsLetterOrDigit c := by
  rw [isLetterOrDigit_iff]
  simp only [letterOrDigit, CodeSet.holdsChar, CodeSet.holds_cons_cons_iff, CodeSet.holds_nil,
    Bool.false_eq_true, or_false]
  omega

theorem holdsChar_labelSet (c : Char) :
    labelSet.holdsChar c = true ↔ IsLetterOrDigit c ∨ c = '-' := by
  rw [isLetterOrDigit_iff, ← Char.toNat_inj]
  simp only [labelSet, CodeSet.holdsChar, CodeSet.holds_cons_cons_iff, CodeSet.holds_nil,
    Bool.false_eq_true, or_false]
  change _ ↔ _ ∨ c.toNat = 45
  omega

theorem holdsChar_localSet (c : Char) : localSet.holdsChar c = true ↔ IsLocalChar c := by
  rw [IsLocalChar, isLetterOrDigit_iff]
  simp only [localSet, CodeSet.holdsChar, CodeSet.holds_cons_cons_iff, CodeSet.holds_nil,
    Bool.false_eq_true, or_false, String.reduceToList, List.mem_cons, ← Char.toNat_inj,
    Char.reduceToNat, List.not_mem_nil]
  omega

theorem holdsChar_visible (c : Char) :
    Unicode.whiteSpace.complement.holdsChar c = true ↔ ¬Unicode.isWhiteSpace c = true := by
  rw [CodeSet.holdsChar, CodeSet.holds_complement, Bool.not_eq_true', Bool.not_eq_true]
  rfl

theorem holdsChar_hostStart (c : Char) :
    blankOrPath.complement.holdsChar c = true ↔
      ¬Unicode.isWhiteSpace c = true ∧ c ∉ "/$.?#".toList := by
  have hpath : CodeSet.holds ⟨[35, 37, 46, 48, 63, 64]⟩ c.toNat = true ↔ c ∈ "/$.?#".toList := by
    simp only [CodeSet.holds_cons_cons_iff, CodeSet.holds_nil, Bool.false_eq_true, or_false,
      String.reduceToList, List.mem_cons, ← Char.toNat_inj, Char.reduceToNat, List.not_mem_nil]
    omega
  rw [CodeSet.holdsChar, CodeSet.holds_complement, blankOrPath,
    CodeSet.holds_union (by decide) (by decide), Bool.not_eq_true', ← Bool.not_eq_true,
    Bool.or_eq_true, hpath, not_or]
  rfl

/-! ## What the expressions spell -/

/-- A word of one character of a kind. -/
def IsSingle (kind : Char → Prop) (word : List Char) : Prop := ∃ c, word = [c] ∧ kind c

/-- The tail of a label: empty, or up to 61 characters and then a letter or digit. -/
def IsLabelTail (tail : List Char) : Prop :=
  tail = [] ∨ ∃ (middle : List Char) (last : Char), tail = middle ++ [last] ∧
    middle.length ≤ 61 ∧ (∀ c ∈ middle, IsLetterOrDigit c ∨ c = '-') ∧ IsLetterOrDigit last

/-- One or more labels, each with a dot in front of it. -/
def IsDotted (text : List Char) : Prop :=
  ∃ labels : List (List Char), 1 ≤ labels.length ∧ text = (labels.map ('.' :: ·)).flatten ∧
    ∀ label ∈ labels, IsLabel label

/-- **A label is a letter or digit and a tail.** With the 61 characters of the tail and the two
at its ends a label has 63. -/
theorem isLabel_iff_first_tail (label : List Char) : IsLabel label ↔
    ∃ first tail, label = first :: tail ∧ IsLetterOrDigit first ∧ IsLabelTail tail := by
  have hend (first last : Char) (middle : List Char) :
      (first :: (middle ++ [last])).getLast? = some last := by
    rw [← List.cons_append, List.getLast?_concat]
  constructor
  · rintro ⟨hleast, hmost, hchars, hfirst, hlast⟩
    obtain ⟨first, tail, rfl⟩ := List.exists_cons_of_length_pos hleast
    refine ⟨first, tail, rfl, (hchars first List.mem_cons_self).resolve_right ?_, ?_⟩
    · rintro rfl
      exact hfirst rfl
    · rcases List.eq_nil_or_concat tail with rfl | ⟨middle, last, rfl⟩
      · exact .inl rfl
      · rw [List.concat_eq_append] at hmost hchars hlast ⊢
        have hdash : last ≠ '-' := by
          rintro rfl
          exact hlast (hend first '-' middle)
        refine .inr ⟨middle, last, rfl, ?_, fun c hc => ?_, ?_⟩
        · simp only [List.length_cons, List.length_append, List.length_nil] at hmost
          omega
        · exact hchars c (by simp [hc])
        · exact (hchars last (by simp)).resolve_right hdash
  · rintro ⟨first, tail, rfl, hfirst, htail⟩
    have hdash {c : Char} (hc : IsLetterOrDigit c) : some c ≠ some '-' := by
      rintro ⟨⟩
      exact absurd hc (by decide)
    rcases htail with rfl | ⟨middle, last, rfl, hlength, hmiddle, hlast⟩
    · exact ⟨Nat.le_refl 1, by simp, by simpa using .inl hfirst, hdash hfirst, hdash hfirst⟩
    · refine ⟨by simp, by simp; omega, ?_, hdash hfirst, ?_⟩
      · simp only [List.forall_mem_cons, List.forall_mem_append]
        exact ⟨.inl hfirst, hmiddle, .inl hlast, List.forall_mem_nil _⟩
      · rw [hend]
        exact hdash hlast

theorem concat_first_tail : Concat (IsSingle IsLetterOrDigit) IsLabelTail = IsLabel := by
  funext label
  apply propext
  rw [isLabel_iff_first_tail]
  constructor
  · rintro ⟨_, tail, rfl, ⟨first, rfl, hfirst⟩, htail⟩
    exact ⟨first, tail, rfl, hfirst, htail⟩
  · rintro ⟨first, tail, rfl, hfirst, htail⟩
    exact ⟨[first], tail, rfl, ⟨first, rfl, hfirst⟩, htail⟩

theorem spells_letterOrDigit : (Pattern.char letterOrDigit).Spells (IsSingle IsLetterOrDigit) := by
  intro before word after
  simp only [spells_char letterOrDigit _ _ _, IsSingle, holdsChar_letterOrDigit]

theorem spells_labelTail : labelTail.Spells IsLabelTail := by
  have hmiddle := spells_chars labelSet 0 (some 61) true
  refine ((hmiddle.sequence spells_letterOrDigit).optional true).congr fun tail => ?_
  refine or_congr Iff.rfl ⟨?_, ?_⟩
  · rintro ⟨middle, _, rfl, ⟨-, hlength, hmiddle⟩, last, rfl, hlast⟩
    exact ⟨middle, last, rfl, hlength 61 rfl, fun c hc => (holdsChar_labelSet c).1 (hmiddle c hc),
      hlast⟩
  · rintro ⟨middle, last, rfl, hlength, hmiddle, hlast⟩
    refine ⟨middle, [last], rfl, ⟨Nat.zero_le _, ?_, fun c hc => ?_⟩, last, rfl, hlast⟩
    · rintro _ ⟨⟩
      exact hlength
    · exact (holdsChar_labelSet c).2 (hmiddle c hc)

theorem spells_dottedLabels : dottedLabels.Spells IsDotted := by
  have hpiece := (spells_literal ['.']).sequence (spells_letterOrDigit.sequence spells_labelTail)
  rw [concat_first_tail] at hpiece
  refine (hpiece.repetition 1 none true).congr fun word => ⟨?_, ?_⟩
  · rintro ⟨pieces, hleast, -, rfl, hpieces⟩
    have hmap : (pieces.map List.tail).map ('.' :: ·) = pieces := by
      rw [List.map_map]
      refine (List.map_congr_left fun piece hmem => ?_).trans pieces.map_id
      obtain ⟨_, label, rfl, rfl, -⟩ := hpieces piece hmem
      rfl
    refine ⟨pieces.map List.tail, by rwa [List.length_map], by rw [hmap], ?_⟩
    intro label hlabel
    obtain ⟨piece, hmem, rfl⟩ := List.mem_map.1 hlabel
    obtain ⟨_, label, rfl, rfl, hpiece⟩ := hpieces piece hmem
    exact hpiece
  · rintro ⟨labels, hleast, rfl, hlabels⟩
    refine ⟨labels.map ('.' :: ·), by rwa [List.length_map], nofun, rfl, ?_⟩
    intro piece hpiece
    obtain ⟨label, hlabel, rfl⟩ := List.mem_map.1 hpiece
    exact ⟨['.'], label, rfl, rfl, hlabels label hlabel⟩

theorem intercalate_dot (first : List Char) (rest : List (List Char)) :
    ['.'].intercalate (first :: rest) = first ++ (rest.map ('.' :: ·)).flatten := by
  induction rest generalizing first with
  | nil => simp
  | cons label rest ih =>
    rw [List.intercalate_cons_cons, ih, List.map_cons, List.flatten_cons, List.append_assoc]
    rfl

/-- **The expression for mail addresses finds the mail addresses.** -/
theorem finds_mail_iff (text : List Char) :
    Regex.Finds ⟨mailPattern, []⟩ text ↔ IsMailAddress text := by
  have hname := spells_chars localSet 1 none true
  have hend := spellsAtEnd_textEnd
  have hall := hname.sequence_atEnd ((spells_literal ['@']).sequence_atEnd
    (spells_letterOrDigit.sequence_atEnd (spells_labelTail.sequence_atEnd
      (spells_dottedLabels.sequence_atEnd hend))))
  rw [← concat_assoc (IsSingle IsLetterOrDigit), concat_first_tail] at hall
  rw [finds_iff_of_anchored rfl hall]
  simp only [holdsChar_localSet]
  constructor
  · rintro ⟨name, _, rfl, ⟨hleast, -, hname⟩, _, _, rfl, rfl, first, _, rfl, hfirst, _, _, rfl,
      ⟨rest, hrest, rfl, hlabels⟩, rfl⟩
    refine ⟨name, first :: rest, ?_, List.ne_nil_of_length_pos hleast, hname,
      Nat.succ_le_succ hrest, List.forall_mem_cons.2 ⟨hfirst, hlabels⟩⟩
    rw [intercalate_dot, List.append_nil]
    rfl
  · rintro ⟨name, labels, rfl, hname, hlocal, hlength, hlabels⟩
    obtain ⟨first, rest, rfl⟩ := List.exists_cons_of_length_pos (Nat.lt_of_succ_lt hlength)
    obtain ⟨hfirst, hrest⟩ := List.forall_mem_cons.1 hlabels
    refine ⟨name, _, rfl, ⟨List.length_pos_iff.2 hname, nofun, hlocal⟩, ['@'], _, rfl, rfl,
      first, (rest.map ('.' :: ·)).flatten, intercalate_dot first rest, hfirst, _, [],
      (List.append_nil _).symm, ⟨rest, Nat.le_of_succ_le_succ hlength, rfl, hrest⟩, rfl⟩

theorem spellsAtEnd_hostAndPath : hostAndPath.SpellsAtEnd IsHostAndPath := by
  have hrest := spells_chars Unicode.whiteSpace.complement 0 none true
  refine ((spells_char blankOrPath.complement).sequence_atEnd
    (hrest.sequence_atEnd spellsAtEnd_textEnd)).congr fun word => ?_
  simp only [holdsChar_hostStart, holdsChar_visible]
  constructor
  · rintro ⟨_, _, rfl, ⟨first, rfl, hblank, hpath⟩, rest, _, rfl, ⟨-, -, hrest⟩, rfl⟩
    rw [List.append_nil]
    exact ⟨first, rest, rfl, hblank, hpath, hrest⟩
  · rintro ⟨first, rest, rfl, hblank, hpath, hrest⟩
    exact ⟨[first], rest, rfl, ⟨first, rfl, hblank, hpath⟩, rest, [], (List.append_nil _).symm,
      ⟨Nat.zero_le _, nofun, hrest⟩, rfl⟩

/-- **The expression for web addresses finds the web addresses.** -/
theorem finds_web_iff (text : List Char) :
    Regex.Finds ⟨webPattern, []⟩ text ↔ IsWebAddress text := by
  have hsecure := (spells_literal ['s']).optional true
  have hall := (spells_literal "http".toList).sequence_atEnd
    (hsecure.sequence_atEnd ((spells_literal "://".toList).sequence_atEnd spellsAtEnd_hostAndPath))
  rw [finds_iff_of_anchored rfl hall]
  constructor
  · rintro ⟨_, _, rfl, rfl, secure, _, rfl, hsecure, _, rest, rfl, rfl, hrest⟩
    rcases hsecure with rfl | rfl
    · exact ⟨"http://", by decide, rest, rfl, hrest⟩
    · exact ⟨"https://", by decide, rest, rfl, hrest⟩
  · rintro ⟨scheme, hscheme, rest, rfl, hrest⟩
    rcases List.mem_cons.1 hscheme with rfl | hscheme
    · exact ⟨_, "://".toList ++ rest, rfl, rfl, [], _, rfl, .inl rfl, _, _, rfl, rfl, hrest⟩
    · rw [List.mem_singleton.1 hscheme]
      exact ⟨_, "s://".toList ++ rest, rfl, rfl, ['s'], _, rfl, .inr rfl, _, _, rfl, rfl, hrest⟩

/-! ## The three descriptions -/

/-- A label has no characters that the local part may not have. -/
theorem IsLabel.isLocalChar {label : List Char} (h : IsLabel label) {c : Char} (hc : c ∈ label) :
    IsLocalChar c := by
  rcases h.2.2.1 c hc with hc | rfl
  · exact .inl hc
  · exact .inr (by decide)

theorem IsMailAddress.isLocalChar_or_at {text : List Char} (h : IsMailAddress text) {c : Char}
    (hc : c ∈ text) : IsLocalChar c ∨ c = '@' := by
  obtain ⟨name, labels, rfl, -, hname, hlength, hlabels⟩ := h
  obtain ⟨first, rest, rfl⟩ := List.exists_cons_of_length_pos (Nat.lt_of_succ_lt hlength)
  obtain ⟨hfirst, hrest⟩ := List.forall_mem_cons.1 hlabels
  rw [intercalate_dot, List.mem_append, List.mem_cons, List.mem_append, List.mem_flatten] at hc
  rcases hc with hc | rfl | hc | ⟨piece, hpiece, hc⟩
  · exact .inl (hname c hc)
  · exact .inr rfl
  · exact .inl (hfirst.isLocalChar hc)
  · obtain ⟨label, hlabel, rfl⟩ := List.mem_map.1 hpiece
    rcases List.mem_cons.1 hc with rfl | hc
    · exact .inl (.inr (by decide))
    · exact .inl ((hrest label hlabel).isLocalChar hc)

theorem IsWebAddress.not_isWhiteSpace {text : List Char} (h : IsWebAddress text) {c : Char}
    (hc : c ∈ text) : ¬Unicode.isWhiteSpace c = true := by
  obtain ⟨scheme, hscheme, _, rfl, first, rest, rfl, hfirst, -, hrest⟩ := h
  have hschemes : ["http://", "https://"].all (fun scheme =>
      scheme.toList.all fun c => !Unicode.isWhiteSpace c) = true := by decide
  rw [List.mem_append, List.mem_cons] at hc
  rcases hc with hc | rfl | hc
  · have hplain := List.all_eq_true.1 (List.all_eq_true.1 hschemes scheme hscheme) c hc
    rwa [Bool.not_eq_true', ← Bool.not_eq_true] at hplain
  · exact hfirst
  · exact hrest c hc

/-- **The formats accept their grammars.** So do the expressions, and neither form allows a
newline at the end. -/
theorem mail_and_web_grammars (text : String) :
    (email.accepts text = true ↔ IsMailAddress text.toList) ∧
      (url.accepts text = true ↔ IsWebAddress text.toList) ∧
      (∃ mail, Regex.ofText? mailText = some mail ∧
        (mail.Finds text.toList ↔ IsMailAddress text.toList)) ∧
      (∃ web, Regex.ofText? webText = some web ∧
        (web.Finds text.toList ↔ IsWebAddress text.toList)) ∧
      email.accepts (text ++ "\n") = false ∧ url.accepts (text ++ "\n") = false := by
  have hmail : email.accepts (text ++ "\n") = false := by
    rw [accepts, Bool.eq_false_iff, Ne, isEmail_iff, String.toList_append]
    exact fun h => absurd (h.isLocalChar_or_at List.mem_concat_self) (by decide)
  have hweb : url.accepts (text ++ "\n") = false := by
    rw [accepts, Bool.eq_false_iff, Ne, isUrl_iff, String.toList_append]
    exact fun h => h.not_isWhiteSpace List.mem_concat_self (by decide)
  exact ⟨isEmail_iff _, isUrl_iff _, ⟨_, ofText?_mailText, finds_mail_iff _⟩,
    ⟨_, ofText?_webText, finds_web_iff _⟩, hmail, hweb⟩

end Format

end Conform
