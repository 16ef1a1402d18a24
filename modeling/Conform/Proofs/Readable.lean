import Conform.Proofs.Digits
import Conform.Proofs.Rendering
/-!
# Readable — when a path reads back from its text

Reading splits a text at the dots, drops the empty pieces, and takes a piece
that is a numeral for a position. So every path that is read has a normal
form: no field is without a name, has a dot in its name, or is named like a
position. A path reads back from its own text exactly if it has this form,
and so every path that was read does.
-/


namespace Conform

namespace Path

/-! ## Pieces -/

theorem pieces_ne_nil (text : List Char) : pieces text ≠ [] := by
  fun_cases pieces text <;> simp

theorem pieces_cons (c : Char) (rest : List Char) :
    pieces (c :: rest) =
      if c = '.' then [] :: pieces rest else (pieces rest).modifyHead (List.cons c) := by
  by_cases hdot : c = '.'
  · subst hdot
    rfl
  · obtain ⟨piece, others, hrest⟩ := List.exists_cons_of_ne_nil (pieces_ne_nil rest)
    rw [if_neg hdot, pieces, hrest]
    · rfl
    · exact hdot

/-- The pieces of a text are what stands between its dots. -/
theorem pieces_eq_splitOn (text : List Char) : pieces text = text.splitOn '.' := by
  induction text with
  | nil => rfl
  | cons c rest ih =>
    rw [pieces_cons, List.splitOn_cons_eq_if_modifyHead, ih]
    simp only [beq_iff_eq]

theorem dot_notMem_of_mem_pieces {text piece : List Char} (h : piece ∈ pieces text) :
    '.' ∉ piece := by
  induction text generalizing piece with
  | nil =>
    rw [List.mem_singleton.1 h]
    exact List.not_mem_nil
  | cons c rest ih =>
    rw [pieces_cons] at h
    split at h
    · rcases List.mem_cons.1 h with rfl | hrest
      · exact List.not_mem_nil
      · exact ih hrest
    · rename_i hdot
      obtain ⟨first, others, hpieces⟩ := List.exists_cons_of_ne_nil (pieces_ne_nil rest)
      rw [hpieces] at h ih
      -- the character joins the first piece, which has no dot
      rcases List.mem_cons.1 h with rfl | hothers
      · exact List.not_mem_cons_of_ne_of_not_mem (Ne.symm hdot) (ih List.mem_cons_self)
      · exact ih (List.mem_cons_of_mem _ hothers)

/-! ## Positions -/

/-- The digits denote a position: there are some, and they stay below `2 ^ 64`. -/
def AreDigitsOf (position : Nat) (digits : List Char) : Prop :=
  digits ≠ [] ∧ (∀ c ∈ digits, isAsciiDigit c = true) ∧ naturalOf digits = position ∧
    position < 2 ^ 64

/-- The text is a numeral for a position: its digits, with a plus sign in front or without. -/
def IsNumeralOf (position : Nat) (text : List Char) : Prop :=
  ∃ digits, (text = digits ∨ text = '+' :: digits) ∧ AreDigitsOf position digits

/-- Digits do not begin with a sign. -/
theorem AreDigitsOf.head?_ne {position : Nat} {digits : List Char} (h : AreDigitsOf position digits) :
    digits.head? ≠ some '+' := by
  intro hplus
  have hdigit := h.2.1 '+' (List.mem_of_head? hplus)
  exact absurd hdigit (by decide)

/-- The position that digits denote. -/
def ofDigits? (digits : List Char) : Option Nat :=
  if digits.isEmpty || !digits.all isAsciiDigit then none
  else if naturalOf digits < 18446744073709551616 then some (naturalOf digits) else none

theorem ofDigits?_eq_some_iff {position : Nat} {digits : List Char} :
    ofDigits? digits = some position ↔ AreDigitsOf position digits := by
  unfold ofDigits? AreDigitsOf
  by_cases hdigits : digits ≠ [] ∧ ∀ c ∈ digits, isAsciiDigit c = true
  · rw [if_neg (by simpa using hdigits), Option.ite_none_right_eq_some]
    constructor
    · rintro ⟨hlt, hsome⟩
      obtain rfl := Option.some.inj hsome
      exact ⟨hdigits.1, hdigits.2, rfl, hlt⟩
    · rintro ⟨-, -, rfl, hlt⟩
      exact ⟨hlt, rfl⟩
  · rw [if_pos (by simpa [imp_iff_not_or] using hdigits)]
    exact iff_of_false (Option.some_ne_none _).symm fun h => hdigits ⟨h.1, h.2.1⟩

theorem position?_plus (digits : List Char) : position? ('+' :: digits) = ofDigits? digits := rfl

theorem position?_of_head?_ne {text : List Char} (h : text.head? ≠ some '+') :
    position? text = ofDigits? text := by
  unfold position?
  split
  · exact absurd rfl h
  · rfl

theorem position?_eq_some_iff {position : Nat} {text : List Char} :
    position? text = some position ↔ IsNumeralOf position text := by
  constructor
  · intro h
    by_cases hplus : text.head? = some '+'
    · obtain ⟨digits, rfl⟩ := List.head?_eq_some_iff.1 hplus
      exact ⟨digits, .inr rfl, ofDigits?_eq_some_iff.1 h⟩
    · rw [position?_of_head?_ne hplus] at h
      exact ⟨text, .inl rfl, ofDigits?_eq_some_iff.1 h⟩
  · rintro ⟨digits, rfl | rfl, hdigits⟩
    · rw [position?_of_head?_ne hdigits.head?_ne]
      exact ofDigits?_eq_some_iff.2 hdigits
    · exact ofDigits?_eq_some_iff.2 hdigits

theorem position?_eq_none_iff {text : List Char} :
    position? text = none ↔ ∀ position, ¬ IsNumeralOf position text := by
  rw [Option.eq_none_iff_forall_ne_some]
  simp only [ne_eq, position?_eq_some_iff]

/-- A position is denoted by the text it is written as. -/
theorem position?_toDigits {n : Nat} (h : n < 2 ^ 64) : position? (Nat.toDigits 10 n) = some n :=
  position?_eq_some_iff.2 ⟨_, .inl rfl, Nat.toDigits_ne_nil, fun _ => isAsciiDigit_of_mem_toDigits,
    naturalOf_toDigits n, h⟩

end Path

/-! ## Segments -/

namespace Segment

/-- The step is what its own text denotes: a 64-bit position, or a field whose name is not
empty, has no dot, and is no numeral for a position. -/
def Readable : Segment → Prop
  | index position => position < 2 ^ 64
  | field name => name ≠ "" ∧ '.' ∉ name.toList ∧ ∀ position, ¬ Path.IsNumeralOf position name.toList

variable {s : Segment}

theorem toList_render_index (position : Nat) :
    (index position).render.toList = Nat.toDigits 10 position := String.toList_ofList

theorem Readable.segmentOf_render (h : s.Readable) : Path.segmentOf s.render.toList = s := by
  cases s with
  | index position =>
    rw [toList_render_index, Path.segmentOf, Path.position?_toDigits h]
  | field name =>
    show Path.segmentOf name.toList = field name
    rw [Path.segmentOf, Path.position?_eq_none_iff.2 h.2.2, String.ofList_toList]

theorem Readable.toList_render_ne_nil (h : s.Readable) : s.render.toList ≠ [] := by
  cases s with
  | index position =>
    rw [toList_render_index]
    exact Nat.toDigits_ne_nil
  | field name =>
    show name.toList ≠ []
    simpa using h.1

theorem Readable.dot_notMem_render (h : s.Readable) : '.' ∉ s.render.toList := by
  cases s with
  | index position =>
    rw [toList_render_index]
    intro hdot
    exact absurd (isAsciiDigit_of_mem_toDigits hdot) (by decide)
  | field name => exact h.2.1

/-- What a piece denotes is readable. -/
theorem readable_segmentOf {piece : List Char} (hne : piece ≠ []) (hdot : '.' ∉ piece) :
    (Path.segmentOf piece).Readable := by
  unfold Path.segmentOf
  cases hposition : Path.position? piece with
  | some position =>
    obtain ⟨_, -, -, -, -, hlt⟩ := Path.position?_eq_some_iff.1 hposition
    exact hlt
  | none =>
    refine ⟨?_, ?_, ?_⟩
    · simpa using hne
    · simpa using hdot
    · simpa using Path.position?_eq_none_iff.1 hposition

end Segment

/-! ## Paths -/

namespace Path

variable {p : Path}

/-- Reading hands out readable steps. -/
theorem readable_of_mem_ofString {text : String} {s : Segment} (h : s ∈ (ofString text).segments) :
    s.Readable := by
  obtain ⟨piece, hpiece, rfl⟩ := List.mem_map.1 h
  obtain ⟨hmem, hne⟩ := List.mem_filter.1 hpiece
  exact Segment.readable_segmentOf (by simpa using hne) (dot_notMem_of_mem_pieces hmem)

/-- The pieces of a text are the texts of the steps, if these have no dot. -/
theorem pieces_toList_render (hne : p.segments ≠ []) (h : ∀ s ∈ p.segments, s.Readable) :
    pieces p.render.toList = p.segments.map fun s => s.render.toList := by
  have htext : p.render.toList = ['.'].intercalate (p.segments.map fun s => s.render.toList) := by
    rw [render, String.toList_intercalate, List.map_map]
    rfl
  rw [pieces_eq_splitOn, htext, List.splitOn_intercalate]
  · intro piece hpiece
    obtain ⟨s, hs, rfl⟩ := List.mem_map.1 hpiece
    exact (h s hs).dot_notMem_render
  · simpa using hne

/-- Readable steps read back. -/
theorem ofString_render (h : ∀ s ∈ p.segments, s.Readable) : ofString p.render = p := by
  by_cases hroot : p.segments = []
  · obtain ⟨segments⟩ := p
    subst hroot
    rfl
  · have hpieces : (p.segments.map fun s => s.render.toList).filter (fun piece => !piece.isEmpty) =
        p.segments.map fun s => s.render.toList := by
      refine List.filter_eq_self.2 fun piece hpiece => ?_
      obtain ⟨s, hs, rfl⟩ := List.mem_map.1 hpiece
      simpa using (h s hs).toList_render_ne_nil
    have hsegments : p.segments.map (segmentOf ∘ fun s => s.render.toList) = p.segments := by
      refine (List.map_congr_left fun s hs => ?_).trans (List.map_id _)
      exact (h s hs).segmentOf_render
    rw [ofString, pieces_toList_render hroot h, hpieces, List.map_map, hsegments]

theorem ofString_render_eq_iff : ofString p.render = p ↔ ∀ s ∈ p.segments, s.Readable := by
  refine ⟨fun h s hs => ?_, ofString_render⟩
  rw [← h] at hs
  exact readable_of_mem_ofString hs

/-- **What was read reads back, and so does what looks like it.** The text of a path that was
read denotes that path. The text of any path denotes it exactly if its positions are 64-bit
words and the name of every field is not empty, has no dot, and is no numeral for a position,
that is, no row of digits that stays below `2 ^ 64`, zeros and a plus sign in front
included. -/
theorem reads_back (text : String) (p : Path) :
    ofString (ofString text).render = ofString text ∧
      (ofString p.render = p ↔
        (∀ position, .index position ∈ p.segments → position < 2 ^ 64) ∧
          ∀ name, .field name ∈ p.segments →
            name ≠ "" ∧ '.' ∉ name.toList ∧ ∀ position, ¬ IsNumeralOf position name.toList) := by
  refine ⟨ofString_render fun s hs => readable_of_mem_ofString hs, ?_⟩
  rw [ofString_render_eq_iff]
  constructor
  · intro h
    exact ⟨fun position hmem => h _ hmem, fun name hmem => h _ hmem⟩
  · rintro ⟨hpositions, hnames⟩ s hs
    cases s with
    | index position => exact hpositions position hs
    | field name => exact hnames name hs

example : (ofString "a..+007").segments = [.field "a", .index 7] := by decide

end Path

end Conform
