import Conform.Pattern.Search
/-!
# Meaning — the words that a pattern matches

`Pattern.Matches` says which words a pattern matches between what stands before and after
them, and says nothing of how a match is found. A sequence cuts the word in two, a repetition
cuts it into as many pieces as its bounds allow, and an assertion matches the empty word where
it holds.

Most patterns look at nothing but the word. `Pattern.Spells` gives the language of such a
pattern, and there is one lemma for each way of putting patterns together.
-/


namespace Conform

namespace Pattern

/-- A number of matches, one behind the other. -/
def Repeats (matched : List Char → List Char → List Char → Prop) :
    Nat → List Char → List Char → List Char → Prop
  | 0, _, word, _ => word = []
  | n + 1, before, word, after => ∃ u v, word = u ++ v ∧ matched before u (v ++ after) ∧
      Repeats matched n (before ++ u) v after

/-- The pattern matches the word between what stands before and what stands after it. -/
def Matches : Pattern → List Char → List Char → List Char → Prop
  | empty, _, word, _ => word = []
  | literal text, _, word, _ => word = text
  | char set, _, word, _ => ∃ c, word = [c] ∧ set.holdsChar c = true
  | assertion statement, before, word, after =>
    word = [] ∧ Place.satisfies ⟨before.length, before.getLast?, after⟩ statement = true
  | sequence a b, before, word, after => ∃ u v, word = u ++ v ∧ Matches a before u (v ++ after) ∧
      Matches b (before ++ u) v after
  | choice a b, before, word, after => Matches a before word after ∨ Matches b before word after
  | group _ inner, before, word, after => Matches inner before word after
  | repetition least most _ inner, before, word, after =>
    ∃ n, least ≤ n ∧ (∀ bound ∈ most, n ≤ bound) ∧ Repeats (Matches inner) n before word after

end Pattern

/-- The pattern matches a word somewhere in the text. -/
def Regex.Finds (r : Regex) (text : List Char) : Prop :=
  ∃ before word after, text = before ++ word ++ after ∧ r.pattern.Matches before word after

namespace Pattern

variable {p q : Pattern} {language other : List Char → Prop} {before word after : List Char}

/-! ## Patterns that look at the word alone -/

/-- The words made of a word of one language and then one of another. -/
def Concat (language other : List Char → Prop) (word : List Char) : Prop :=
  ∃ u v, word = u ++ v ∧ language u ∧ other v

theorem concat_assoc (language other third : List Char → Prop) :
    Concat (Concat language other) third = Concat language (Concat other third) := by
  funext word
  apply propext
  constructor
  · rintro ⟨_, w, rfl, ⟨u, v, rfl, hu, hv⟩, hw⟩
    exact ⟨u, v ++ w, List.append_assoc u v w, hu, v, w, rfl, hv, hw⟩
  · rintro ⟨u, _, rfl, hu, v, w, rfl, hv, hw⟩
    exact ⟨u ++ v, w, (List.append_assoc u v w).symm, ⟨u, v, rfl, hu, hv⟩, hw⟩

/-- The pattern matches the words of a language, wherever they stand. -/
def Spells (p : Pattern) (language : List Char → Prop) : Prop :=
  ∀ before word after, p.Matches before word after ↔ language word

theorem spells_literal (text : List Char) : (literal text).Spells (· = text) :=
  fun _ _ _ => Iff.rfl

theorem spells_char (set : Unicode.CodeSet) :
    (char set).Spells fun word => ∃ c, word = [c] ∧ set.holdsChar c = true :=
  fun _ _ _ => Iff.rfl

theorem Spells.sequence (hp : p.Spells language) (hq : q.Spells other) :
    (Pattern.sequence p q).Spells (Concat language other) := by
  intro before word after
  simp only [Matches, Concat, hp _ _ _, hq _ _ _]

/-- What is repeated spells the pieces of the word. -/
theorem Spells.repeats_iff (hp : p.Spells language) {n : Nat} :
    Repeats p.Matches n before word after ↔
      ∃ pieces : List (List Char), pieces.length = n ∧ word = pieces.flatten ∧
        ∀ piece ∈ pieces, language piece := by
  induction n generalizing before word with
  | zero =>
    simp only [Repeats, List.length_eq_zero_iff, exists_eq_left, List.flatten_nil,
      List.not_mem_nil, false_implies, implies_true, and_true]
  | succ n ih =>
    simp only [Repeats, hp _ _ _, ih]
    constructor
    · rintro ⟨u, v, rfl, hu, pieces, rfl, rfl, hpieces⟩
      exact ⟨u :: pieces, rfl, rfl, List.forall_mem_cons.2 ⟨hu, hpieces⟩⟩
    · rintro ⟨pieces, hlength, rfl, hpieces⟩
      obtain ⟨u, rest, rfl⟩ := List.exists_cons_of_length_eq_add_one hlength
      obtain ⟨hu, hrest⟩ := List.forall_mem_cons.1 hpieces
      exact ⟨u, rest.flatten, rfl, hu, rest, Nat.succ.inj hlength, rfl, hrest⟩

theorem Spells.repetition (hp : p.Spells language) (least : Nat) (most : Option Nat)
    (greedy : Bool) : (Pattern.repetition least most greedy p).Spells fun word =>
      ∃ pieces : List (List Char), least ≤ pieces.length ∧ (∀ bound ∈ most, pieces.length ≤ bound) ∧
        word = pieces.flatten ∧ ∀ piece ∈ pieces, language piece := by
  intro before word after
  simp only [Matches, hp.repeats_iff]
  constructor
  · rintro ⟨n, hleast, hmost, pieces, rfl, hword, hpieces⟩
    exact ⟨pieces, hleast, hmost, hword, hpieces⟩
  · rintro ⟨pieces, hleast, hmost, hword, hpieces⟩
    exact ⟨_, hleast, hmost, pieces, rfl, hword, hpieces⟩

theorem Spells.congr (hp : p.Spells language) (h : ∀ word, language word ↔ other word) :
    p.Spells other :=
  fun before word after => (hp before word after).trans (h word)

/-- A set is matched as often as there are characters. -/
theorem repeats_char_iff {set : Unicode.CodeSet} {n : Nat} :
    Repeats (char set).Matches n before word after ↔
      word.length = n ∧ ∀ c ∈ word, set.holdsChar c = true := by
  induction n generalizing before word with
  | zero =>
    rw [Repeats, List.length_eq_zero_iff]
    constructor
    · rintro rfl
      exact ⟨rfl, nofun⟩
    · exact And.left
  | succ n ih =>
    simp only [Repeats, spells_char set _ _ _, ih]
    constructor
    · rintro ⟨u, v, rfl, ⟨c, rfl, hc⟩, rfl, hv⟩
      exact ⟨rfl, List.forall_mem_cons.2 ⟨hc, hv⟩⟩
    · rintro ⟨hlength, hword⟩
      obtain ⟨c, v, rfl⟩ := List.exists_cons_of_length_eq_add_one hlength
      obtain ⟨hc, hv⟩ := List.forall_mem_cons.1 hword
      exact ⟨[c], v, rfl, ⟨c, rfl, hc⟩, Nat.succ.inj hlength, hv⟩

/-- A repeated set spells the words of its characters, within the bounds. -/
theorem spells_chars (set : Unicode.CodeSet) (least : Nat) (most : Option Nat) (greedy : Bool) :
    (repetition least most greedy (char set)).Spells fun word =>
      least ≤ word.length ∧ (∀ bound ∈ most, word.length ≤ bound) ∧
        ∀ c ∈ word, set.holdsChar c = true := by
  intro before word after
  rw [Matches]
  simp only [repeats_char_iff]
  constructor
  · rintro ⟨n, hleast, hmost, rfl, hword⟩
    exact ⟨hleast, hmost, hword⟩
  · rintro ⟨hleast, hmost, hword⟩
    exact ⟨_, hleast, hmost, rfl, hword⟩

/-- What may be left out is the empty word or a word of the language. -/
theorem Spells.optional (hp : p.Spells language) (greedy : Bool) :
    (Pattern.repetition 0 (some 1) greedy p).Spells fun word => word = [] ∨ language word := by
  refine (hp.repetition 0 (some 1) greedy).congr fun word => ⟨?_, ?_⟩
  · rintro ⟨pieces, -, hmost, rfl, hpieces⟩
    match pieces, hmost 1 rfl, hpieces with
    | [], _, _ => exact .inl rfl
    | [piece], _, hpieces =>
      rw [List.flatten_singleton]
      exact .inr (hpieces piece List.mem_cons_self)
  · rintro (rfl | hword)
    · exact ⟨[], Nat.le_refl 0, by simp, rfl, nofun⟩
    · exact ⟨[word], Nat.zero_le 1, by simp, List.flatten_singleton.symm, by simpa using hword⟩

/-! ## Whole texts -/

/-- The pattern matches the words of a language at the end of a text and nothing else. -/
def SpellsAtEnd (p : Pattern) (language : List Char → Prop) : Prop :=
  ∀ before word after, p.Matches before word after ↔ after = [] ∧ language word

theorem SpellsAtEnd.congr (hp : p.SpellsAtEnd language) (h : ∀ word, language word ↔ other word) :
    p.SpellsAtEnd other :=
  fun before word after => (hp before word after).trans (and_congr_right fun _ => h word)

theorem spellsAtEnd_textEnd : (assertion .textEnd).SpellsAtEnd (· = []) := by
  intro before word after
  simp only [Matches, Place.satisfies, List.isEmpty_iff]
  exact and_comm

theorem Spells.sequence_atEnd (hp : p.Spells language) (hq : q.SpellsAtEnd other) :
    (Pattern.sequence p q).SpellsAtEnd (Concat language other) := by
  intro before word after
  simp only [Matches, Concat, hp _ _ _, hq _ _ _]
  constructor
  · rintro ⟨u, v, hword, hu, hafter, hv⟩
    exact ⟨hafter, u, v, hword, hu, hv⟩
  · rintro ⟨hafter, u, v, hword, hu, hv⟩
    exact ⟨u, v, hword, hu, hafter, hv⟩

/-- A pattern that is bound to both ends is found in the texts of its language. -/
theorem finds_iff_of_anchored {r : Regex}
    (hr : r.pattern = Pattern.sequence (assertion .textStart) p) (hp : p.SpellsAtEnd language)
    (text : List Char) : r.Finds text ↔ language text := by
  simp only [Regex.Finds, hr, Matches, Place.satisfies, hp _ _ _, Option.isNone_iff_eq_none,
    List.getLast?_eq_none_iff]
  constructor
  · rintro ⟨before, word, after, rfl, u, v, rfl, ⟨rfl, rfl⟩, rfl, hv⟩
    simpa using hv
  · intro htext
    exact ⟨[], text, [], by simp, [], text, rfl, ⟨rfl, rfl⟩, rfl, htext⟩

end Pattern

end Conform
