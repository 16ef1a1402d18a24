import Conform.Proofs.Node
import Mathlib
/-!
# TitleCase — what a title looks like, place by place

Title case is made in one walk over the lower case of a text that remembers
whether a word begins. For texts of ASCII characters the walk is a function of
the place alone: the flag at a place says what stands before it
(`raiseWords_eq`), and lower case hides no end of a word. The title of a text
therefore has the letters of the text, in other cases, and depends on nothing
but the letters. That a title is its own title is a consequence.
-/


namespace Conform

namespace Unicode

variable {text other : List Char} {c : Char}

/-! ## ASCII characters -/

/-- All characters are below 128. -/
def IsAscii (text : List Char) : Prop := ∀ c ∈ text, c.toNat < 0x80

instance (text : List Char) : Decidable (IsAscii text) :=
  decidable_of_iff (text.all fun c => c.toNat < 0x80) (by simp [IsAscii])

theorem isAscii_cons : IsAscii (c :: text) ↔ c.toNat < 0x80 ∧ IsAscii text := List.forall_mem_cons

/-- What holds of the first 128 characters holds of every ASCII character. -/
theorem forall_ascii {P : Char → Prop} (h : ∀ n < 0x80, P (Char.ofNat n)) (hc : c.toNat < 0x80) :
    P c := by
  have hn : P (Char.ofNat c.toNat) := h _ hc
  rwa [Char.ofNat_toNat] at hn

theorem toNat_toLower_lt (hc : c.toNat < 0x80) : c.toLower.toNat < 0x80 :=
  forall_ascii (P := fun c => c.toLower.toNat < 0x80) (by decide) hc

theorem toNat_lt_of_toLower (hc : c.toLower.toNat < 0x80) : c.toNat < 0x80 := by
  by_cases hupper : c.isUpper
  · have hle : 65 ≤ c.toNat ∧ c.toNat ≤ 90 := by
      simpa [Char.isUpper, UInt32.le_iff_toNat_le] using hupper
    omega
  · rwa [Char.toLower_eq_of_not_isUpper hupper] at hc

/-- White space has no upper case of its own. -/
theorem toUpper_eq_of_isWhiteSpace (hc : c.toNat < 0x80) : isWhiteSpace c = true → c.toUpper = c :=
  forall_ascii (P := fun c => isWhiteSpace c = true → c.toUpper = c) (by decide) hc

/-- Lower case neither makes nor hides the end of a word. -/
theorem endsWord_toLower (hc : c.toNat < 0x80) : endsWord c.toLower = endsWord c :=
  forall_ascii (P := fun c => endsWord c.toLower = endsWord c) (by decide) hc

/-- The characters after which a word begins: blanks, line ends and two marks. -/
def IsGap (c : Char) : Prop :=
  c = ' ' ∨ ('\t' ≤ c ∧ c ≤ '\r') ∨ c = '-' ∨ c = '_'

instance (c : Char) : Decidable (IsGap c) := inferInstanceAs (Decidable (_ ∨ _))

theorem endsWord_iff (hc : c.toNat < 0x80) : endsWord c = true ↔ IsGap c :=
  forall_ascii (P := fun c => endsWord c = true ↔ IsGap c) (by decide) hc

theorem IsAscii.map {f : Char → Char} (hf : ∀ {c : Char}, c.toNat < 0x80 → (f c).toNat < 0x80)
    (h : IsAscii text) : IsAscii (text.map f) :=
  List.forall_mem_map.2 fun c hc => hf (h c hc)

/-! ## The walk -/

/-- The lower case of ASCII text is taken character by character. -/
theorem lowerAfter_eq_map (h : IsAscii text) (before : List Char) :
    lowerAfter before text = text.map Char.toLower := by
  induction text generalizing before with
  | nil => rfl
  | cons c rest ih =>
    obtain ⟨hc, hrest⟩ := isAscii_cons.1 h
    have hsigma : c ≠ 'Σ' := by
      rintro rfl
      exact absurd hc (by decide)
    rw [lowerAfter, if_neg hsigma, lowerChar, if_pos hc, ih hrest]
    rfl

/-- Puts a character in upper case if a word begins. -/
def raise (begins : Bool) (c : Char) : Char := if begins then c.toUpper else c

/-- The flag at a place says whether the character before ends a word. -/
theorem raiseWords_eq (h : IsAscii text) (atStart : Bool) :
    raiseWords atStart text = List.zipWith raise (atStart :: text.map endsWord) text := by
  induction text generalizing atStart with
  | nil => rfl
  | cons c rest ih =>
    obtain ⟨hc, hrest⟩ := isAscii_cons.1 h
    -- white space is skipped where a word begins, and has no upper case to be put in
    have hhead : (if atStart && !isWhiteSpace c then upperChar c else [c]) = [raise atStart c] := by
      cases hspace : isWhiteSpace c <;> cases atStart <;>
        simp [raise, upperChar, hc, toUpper_eq_of_isWhiteSpace hc, hspace]
    rw [raiseWords, hhead, ih hrest]
    rfl

theorem capitalize_eq (h : IsAscii text) :
    capitalize text =
      List.zipWith raise (true :: text.map endsWord) (text.map Char.toLower) := by
  have hends : (text.map Char.toLower).map endsWord = text.map endsWord := by
    rw [List.map_map]
    exact List.map_congr_left fun c hc => endsWord_toLower (h c hc)
  rw [capitalize, lower, lowerAfter_eq_map h, raiseWords_eq (h.map toNat_toLower_lt), hends]

theorem length_capitalize (h : IsAscii text) : (capitalize text).length = text.length := by
  simp [capitalize_eq h]

theorem raise_toLower (begins : Bool) (c : Char) :
    raise begins c.toLower = if begins then c.toUpper else c.toLower := by
  cases begins <;> simp [raise]

/-- A word begins at the place: nothing stands before it, or a gap does. -/
def WordBegins (text : List Char) : Nat → Prop
  | 0 => True
  | i + 1 => ∃ c ∈ text[i]?, IsGap c

instance (text : List Char) : DecidablePred (WordBegins text)
  | 0 => inferInstanceAs (Decidable True)
  | i + 1 => inferInstanceAs (Decidable (∃ c ∈ text[i]?, IsGap c))

/-- Every character of a title stands at its place, in the case the place asks for. -/
theorem getElem?_capitalize (h : IsAscii text) {i : Nat} (hi : text[i]? = some c) :
    (capitalize text)[i]? = some (if WordBegins text i then c.toUpper else c.toLower) := by
  rw [capitalize_eq h, List.getElem?_zipWith, List.getElem?_map, hi]
  cases i with
  | zero => simp [WordBegins, raise_toLower]
  | succ i =>
    obtain ⟨hlt, -⟩ := List.getElem?_eq_some_iff.1 hi
    have hbefore : text[i]? = some text[i] := List.getElem?_eq_getElem (by omega)
    have hgap : endsWord text[i] = true ↔ IsGap text[i] :=
      endsWord_iff (h _ (List.getElem_mem _))
    simp [WordBegins, raise_toLower, hbefore, hgap]

/-! ## Letters -/

/-- The texts differ in the cases of ASCII letters at most. -/
def SameLetters (text other : List Char) : Prop :=
  text.map Char.toLower = other.map Char.toLower

instance (text other : List Char) : Decidable (SameLetters text other) :=
  inferInstanceAs (Decidable (_ = _))

theorem SameLetters.isAscii (hsame : SameLetters text other) (h : IsAscii text) :
    IsAscii other := by
  have hlower : IsAscii (other.map Char.toLower) := hsame ▸ h.map toNat_toLower_lt
  intro c hc
  exact toNat_lt_of_toLower (hlower _ (List.mem_map_of_mem hc))

/-- The title depends on the letters alone. -/
theorem SameLetters.capitalize_eq (hsame : SameLetters text other) (h : IsAscii text) :
    capitalize other = capitalize text := by
  rw [capitalize, capitalize, lower, lower, lowerAfter_eq_map h,
    lowerAfter_eq_map (hsame.isAscii h), hsame]

/-- The title has the letters of the text. -/
theorem sameLetters_capitalize (h : IsAscii text) : SameLetters text (capitalize text) := by
  refine List.ext_getElem? fun i => ?_
  rw [List.getElem?_map, List.getElem?_map]
  cases hi : text[i]? with
  | none =>
    have hle : (capitalize text).length ≤ i := by
      rw [length_capitalize h]
      exact List.getElem?_eq_none_iff.1 hi
    rw [List.getElem?_eq_none hle]
  | some c =>
    rw [getElem?_capitalize h hi]
    split <;> simp

end Unicode

namespace Schema

open Unicode

/-- A string that is put in title case. -/
def inTitleCase (m : Modifiers String) : Schema := text (({} : TextRule).inCase .title) m

theorem attempt_inTitleCase {m : Modifiers String} (hm : m.HookFree) (env : Env) (s : String)
    (path : Path) : (inTitleCase m).attempt env (.string s) path =
      .ok (.string (String.ofList (capitalize s.toList))) :=
  hm.validator_present _

/-- **A title, place by place.** The title of a text of ASCII characters is as long as the text;
it has the upper case of a character where a word begins, at the start and after white space,
`-` and `_`, and the lower case everywhere else. It is its own title, and the title of every
text that differs from the first in the cases of letters only. -/
theorem titles_of_words {s : String} (hs : IsAscii s.toList) {m : Modifiers String}
    (hm : m.HookFree) (env : Env) (path : Path) :
    ∃ title : String,
      (inTitleCase m).attempt env (.string s) path = .ok (.string title) ∧
      title.length = s.length ∧
      (∀ i c, s.toList[i]? = some c → title.toList[i]? =
        some (if WordBegins s.toList i then c.toUpper else c.toLower)) ∧
      (inTitleCase m).attempt env (.string title) path = .ok (.string title) ∧
      ∀ t : String, SameLetters s.toList t.toList →
        (inTitleCase m).attempt env (.string t) path = .ok (.string title) := by
  have hletters (t : String) (hsame : SameLetters s.toList t.toList) :
      (inTitleCase m).attempt env (.string t) path =
        .ok (.string (String.ofList (capitalize s.toList))) := by
    rw [attempt_inTitleCase hm, hsame.capitalize_eq hs]
  refine ⟨String.ofList (capitalize s.toList), attempt_inTitleCase hm env s path, ?_, ?_,
    hletters _ ?_, hletters⟩
  · rw [String.length_ofList, length_capitalize hs, String.length_toList]
  · intro i c hi
    rw [String.toList_ofList]
    exact getElem?_capitalize hs hi
  · rw [String.toList_ofList]
    exact sameLetters_capitalize hs

/-- Runs of gaps, a digit at the start of a word and letters of both cases. -/
theorem titles_of_words_in_both_cases :
    IsAscii "hELLO  big-wide\n_2nd wORLD".toList ∧
      (inTitleCase {}).attempt inMachine (.string "hELLO  big-wide\n_2nd wORLD") .root =
        .ok (.string "Hello  Big-Wide\n_2nd World") ∧
      (inTitleCase {}).attempt inMachine (.string "Hello  BIG-wIDE\n_2ND World") .root =
        .ok (.string "Hello  Big-Wide\n_2nd World") := by
  have hascii : IsAscii "hELLO  big-wide\n_2nd wORLD".toList := by decide
  have hm : ({} : Modifiers String).HookFree := ⟨rfl, rfl, rfl⟩
  obtain ⟨title, htitle, -, -, -, hletters⟩ := titles_of_words hascii hm inMachine .root
  have hvalue : (inTitleCase {}).attempt inMachine (.string "hELLO  big-wide\n_2nd wORLD") .root =
      .ok (.string "Hello  Big-Wide\n_2nd World") := by
    have htext : capitalize "hELLO  big-wide\n_2nd wORLD".toList =
        "Hello  Big-Wide\n_2nd World".toList := by decide
    rw [attempt_inTitleCase hm, htext, String.ofList_toList]
  have hother := hletters "Hello  BIG-wIDE\n_2ND World" (by decide)
  exact ⟨hascii, hvalue, hother.trans (htitle.symm.trans hvalue)⟩

end Schema

end Conform
