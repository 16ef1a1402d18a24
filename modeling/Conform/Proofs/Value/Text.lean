import Conform.Proofs.Membership
import Conform.Proofs.Numeral
/-!
# Text — a value is read back from its text

The compact text of a value determines the value: the reader finds in it the
members in their order and every number in its form. So values with one text
are the same value.
-/


namespace Conform

namespace Value

/-! ## Strings -/

theorem hexValue?_hexDigit : ∀ n < 16, hexValue? (hexDigit n) = some n := by decide

/-- The escape of a control character. -/
theorem unit?_control {n : Nat} (h : n < 32) :
    unit? '0' '0' (hexDigit (n / 16)) (hexDigit (n % 16)) = some n := by
  have hzero : hexValue? '0' = some 0 := by decide
  simp only [unit?, hzero, hexValue?_hexDigit (n / 16) (by omega),
    hexValue?_hexDigit (n % 16) (by omega), Option.bind_eq_bind, Option.bind_some]
  show some _ = some n
  congr 1
  omega

section Strings

variable {c char : Char} {rest : List Char}

/-- A character that stands for itself. -/
theorem readString_plain (hquote : c ≠ '\x22') (hslash : c ≠ '\\') :
    readString (c :: rest) = (readString rest).map (Prod.map (List.cons c) id) := by
  rw [readString.eq_def]
  split
  · rename_i heq
    exact absurd (List.cons.inj heq).1 hquote
  · rename_i heq
    exact absurd (List.cons.inj heq).1 hslash
  · rename_i heq
    exact absurd (List.cons.inj heq).1 hslash
  · rename_i heq
    exact absurd (List.cons.inj heq).1 hslash
  · rename_i heq
    obtain ⟨rfl, rfl⟩ := List.cons.inj heq
    rw [if_neg hslash]
    cases readString rest <;> rfl
  · rename_i heq
    cases heq

/-- An escape of one letter. -/
theorem readString_letter (hletter : c ≠ 'u') (hescape : unescape? c = some char) :
    readString ('\\' :: c :: rest) = (readString rest).map (Prod.map (List.cons char) id) := by
  rw [readString.eq_def]
  split
  · rename_i heq
    exact absurd (List.cons.inj heq).1 (by decide)
  · rename_i heq
    exact absurd (List.cons.inj (List.cons.inj heq).2).1 hletter
  · rename_i heq
    exact absurd (List.cons.inj (List.cons.inj heq).2).1 hletter
  · rename_i heq
    obtain ⟨rfl, rfl⟩ := List.cons.inj (List.cons.inj heq).2
    rw [hescape]
    cases readString rest <;> rfl
  · rename_i hnone heq
    obtain ⟨rfl, rfl⟩ := List.cons.inj heq
    exact (hnone _ _ rfl rfl).elim
  · rename_i heq
    cases heq

/-- The escape of a control character, whether another escape follows or not. -/
theorem readString_control {n : Nat} (h : n < 32) (rest : List Char) :
    readString ('\\' :: 'u' :: '0' :: '0' :: hexDigit (n / 16) :: hexDigit (n % 16) :: rest) =
      (readString rest).map (Prod.map (List.cons (Char.ofNat n)) id) := by
  have hunit := unit?_control h
  rw [readString.eq_def]
  split
  · rename_i heq
    exact absurd (List.cons.inj heq).1 (by decide)
  · rename_i heq
    simp only [List.cons.injEq, true_and] at heq
    obtain ⟨rfl, rfl, rfl, rfl, rfl⟩ := heq
    simp only [hunit, Option.bind_eq_bind, Option.bind_some]
    rw [if_neg (by omega)]
    cases readString ('\\' :: 'u' :: _) <;> rfl
  · rename_i heq
    simp only [List.cons.injEq, true_and] at heq
    obtain ⟨rfl, rfl, rfl, rfl, rfl⟩ := heq
    simp only [hunit, Option.bind_eq_bind, Option.bind_some]
    rw [if_neg (by omega)]
    cases readString rest <;> rfl
  · rename_i hshort heq
    obtain ⟨rfl, rfl⟩ := List.cons.inj (List.cons.inj heq).2
    exact (hshort _ _ _ _ _ rfl rfl).elim
  · rename_i hnone heq
    obtain ⟨rfl, rfl⟩ := List.cons.inj heq
    exact (hnone _ _ rfl rfl).elim
  · rename_i heq
    cases heq

/-- The reader undoes the escape of a character. -/
theorem readString_escaped (c : Char) (rest : List Char) :
    readString (escaped c ++ rest) = (readString rest).map (Prod.map (List.cons c) id) := by
  unfold escaped
  split
  · exact readString_letter (by decide) rfl
  · exact readString_letter (by decide) rfl
  · exact readString_letter (by decide) rfl
  · exact readString_letter (by decide) rfl
  · exact readString_letter (by decide) rfl
  · exact readString_letter (by decide) rfl
  · exact readString_letter (by decide) rfl
  · rename_i hquote hslash _ _ _ _ _
    split
    · rename_i hcontrol
      have hread := readString_control hcontrol rest
      rw [Char.ofNat_toNat] at hread
      exact hread
    · exact readString_plain hquote hslash

/-- **The characters between quotes are read back.** -/
theorem readString_quoted (text rest : List Char) :
    readString (text.flatMap escaped ++ '\x22' :: rest) = some (text, rest) := by
  induction text with
  | nil => simp [readString]
  | cons c text ih =>
    rw [List.flatMap_cons, List.append_assoc, readString_escaped, ih]
    rfl

end Strings

end Value

/-! ## Numbers -/

namespace Number

theorem numberOf?_toDigits {negative : Bool} {n : Nat}
    (h : if negative then 0 < n ∧ (n : Int) ≤ -leastInteger else (n : Int) ≤ greatestInteger) :
    Value.numberOf? negative (Nat.toDigits 10 n) =
      some (integer (if negative then -(n : Int) else n)) := by
  have hdigits : (Nat.toDigits 10 n).all isAsciiDigit = true :=
    List.all_eq_true.2 fun _ => isAsciiDigit_of_mem_toDigits
  have hempty : (Nat.toDigits 10 n).isEmpty = false := by simp
  unfold Value.numberOf?
  simp only [hdigits, hempty, naturalOf_toDigits, if_true, Bool.false_eq_true, if_false]
  cases negative with
  | false =>
    simp only [Bool.false_eq_true, if_false] at h
    simp [h]
  | true =>
    simp only [if_true] at h
    have hne : (n : Int) ≠ 0 := by omega
    simp [h.2]
    omega

theorem numberOf?_unsignedText {units : Nat} (h : Binary64.Representable units) (negative : Bool) :
    Value.numberOf? negative (Binary64.unsignedText units).toList =
      some (double (.finite negative units)) := by
  have hread := Binary64.read_unsignedText h negative
  unfold Value.numberOf?
  simp only [(Binary64.isFractional_unsignedText units).inexact, Bool.false_eq_true, if_false]
  rw [Option.map_eq_some_iff] at hread ⊢
  obtain ⟨d, hd, hdouble⟩ := hread
  exact ⟨d, hd, congrArg double hdouble⟩

theorem toList_toString (n : Int) :
    (toString n).toList = (if decide (n < 0) then ['-'] else []) ++ Nat.toDigits 10 n.natAbs := by
  rw [Int.toString_eq_repr, Int.repr_eq_if]
  by_cases hn : n < 0
  · have habs : (-n).toNat = n.natAbs := by omega
    simp [hn, habs, Int.not_le.2 hn]
  · have habs : n.toNat = n.natAbs := by omega
    simp [hn, habs, Int.not_lt.1 hn]

/-- The parts of the text of a number: a minus sign perhaps, and a numeral. -/
theorem WellFormed.exists_numeral {n : Number} (h : n.WellFormed) :
    ∃ (negative : Bool) (first : Char) (numeral : List Char),
      n.text.toList = (if negative then ['-'] else []) ++ first :: numeral ∧
      isAsciiDigit first = true ∧ (∀ c ∈ first :: numeral, Value.isNumeralChar c = true) ∧
      Value.numberOf? negative (first :: numeral) = some n := by
  cases h with
  | @integer n hleast hgreatest =>
    obtain ⟨first, numeral, heq⟩ := List.exists_cons_of_ne_nil
      (show Nat.toDigits 10 n.natAbs ≠ [] from Nat.toDigits_ne_nil)
    have hdigits : ∀ c ∈ first :: numeral, isAsciiDigit c = true := by
      rw [← heq]
      exact fun _ => isAsciiDigit_of_mem_toDigits
    refine ⟨decide (n < 0), first, numeral, ?_, hdigits first List.mem_cons_self,
      fun c hc => Numeral.isNumeralChar_of_isAsciiDigit (hdigits c hc), ?_⟩
    · rw [← heq]
      exact toList_toString n
    · have hrange : if decide (n < 0) then 0 < n.natAbs ∧ (n.natAbs : Int) ≤ -leastInteger
          else (n.natAbs : Int) ≤ greatestInteger := by
        split <;> rename_i hsign <;> simp only [decide_eq_true_eq] at hsign <;> omega
      have hvalue : (if decide (n < 0) then -(n.natAbs : Int) else n.natAbs) = n := by
        split <;> rename_i hsign <;> simp only [decide_eq_true_eq] at hsign <;> omega
      rw [← heq, numberOf?_toDigits hrange, hvalue]
  | @double negative units hunits =>
    obtain ⟨hchars, ⟨first, numeral, heq, hfirst⟩, -⟩ := Binary64.isFractional_unsignedText units
    refine ⟨negative, first, numeral, ?_, hfirst, heq ▸ hchars, ?_⟩
    · rw [← heq]
      show (Binary64.finite negative units).compact.toList = _
      rw [Binary64.compact_finite, String.toList_append]
      cases negative <;> rfl
    · rw [← heq]
      exact numberOf?_unsignedText hunits negative

end Number

namespace Value

/-! ## Tokens -/

/-- Nothing of a numeral is at the start of the text. -/
def Ends (text : List Char) : Prop := ∀ c, text.head? = some c → isNumeralChar c = false

theorem ends_cons {c : Char} (h : isNumeralChar c = false) (rest : List Char) :
    Ends (c :: rest) := by
  rintro d ⟨⟩
  exact h

theorem skipBlanks_cons {c : Char} (h : isBlank c = false) (rest : List Char) :
    skipBlanks (c :: rest) = c :: rest := by
  simp [skipBlanks, h]

theorem takeWhile_numeral {numeral rest : List Char}
    (h : ∀ c ∈ numeral, isNumeralChar c = true) (hrest : Ends rest) :
    (numeral ++ rest).takeWhile isNumeralChar = numeral ∧
      (numeral ++ rest).dropWhile isNumeralChar = rest := by
  have hstop : rest.takeWhile isNumeralChar = [] ∧ rest.dropWhile isNumeralChar = rest := by
    cases rest with
    | nil => exact ⟨rfl, rfl⟩
    | cons c rest => simp [hrest c rfl]
  rw [List.takeWhile_append_of_pos h, List.dropWhile_append_of_pos h, hstop.1, hstop.2,
    List.append_nil]
  exact ⟨rfl, rfl⟩

section Tokens

variable {fuel : Nat} {first : Char} {text rest : List Char}

theorem ne_of_isAsciiDigit (h : isAsciiDigit first = true) {c : Char}
    (hc : isAsciiDigit c = false) : first ≠ c := by
  rintro rfl
  rw [h] at hc
  cases hc

theorem isBlank_of_isAsciiDigit (h : isAsciiDigit first = true) : isBlank first = false := by
  simp [isBlank, ne_of_isAsciiDigit h (c := ' ') rfl, ne_of_isAsciiDigit h (c := '\n') rfl,
    ne_of_isAsciiDigit h (c := '\t') rfl, ne_of_isAsciiDigit h (c := '\r') rfl]

/-- A digit begins neither a word nor a string nor a structure. -/
theorem read_digit (h : isAsciiDigit first = true) :
    read (fuel + 1) (first :: text) =
      (numberOf? false ((first :: text).takeWhile isNumeralChar)).map fun n =>
        (number n, (first :: text).dropWhile isNumeralChar) := by
  rw [read, skipBlanks_cons (isBlank_of_isAsciiDigit h)]
  split
  case h_8 => rfl
  all_goals
    rename_i heq
    exact absurd (List.cons.inj heq).1 (ne_of_isAsciiDigit h rfl)

theorem read_minus : read (fuel + 1) ('-' :: text) =
    (numberOf? true (text.takeWhile isNumeralChar)).map fun n =>
      (number n, text.dropWhile isNumeralChar) := by
  rw [read, skipBlanks_cons rfl]
  rfl

theorem read_null : read (fuel + 1) ("null".toList ++ rest) = some (null, rest) := by
  rw [read, show "null".toList ++ rest = 'n' :: 'u' :: 'l' :: 'l' :: rest from rfl,
    skipBlanks_cons rfl]
  rfl

theorem read_boolean (b : Bool) :
    read (fuel + 1) ((if b then "true" else "false").toList ++ rest) = some (boolean b, rest) := by
  cases b with
  | true =>
    show read (fuel + 1) ('t' :: 'r' :: 'u' :: 'e' :: rest) = _
    rw [read, skipBlanks_cons rfl]
    rfl
  | false =>
    show read (fuel + 1) ('f' :: 'a' :: 'l' :: 's' :: 'e' :: rest) = _
    rw [read, skipBlanks_cons rfl]
    rfl

theorem toList_quoted (s : String) :
    (quoted s).toList = '\x22' :: (s.toList.flatMap escaped ++ ['\x22']) := by
  simp [quoted]

theorem read_string (s : String) :
    read (fuel + 1) ((quoted s).toList ++ rest) = some (string s, rest) := by
  have hread := readString_quoted s.toList rest
  rw [toList_quoted, List.cons_append, List.append_assoc, read, skipBlanks_cons rfl]
  simp only [List.singleton_append]
  rw [hread]
  simp

/-- An array with something in it. -/
theorem read_array (hblank : isBlank first = false) (hne : first ≠ ']') :
    read (fuel + 1) ('[' :: first :: text) =
      (readItems fuel (first :: text)).map fun (items, rest) => (array items, rest) := by
  rw [read, skipBlanks_cons rfl]
  conv_lhs => whnf
  rw [skipBlanks_cons hblank]
  split
  · rename_i heq
    exact absurd (List.cons.inj heq).1 hne
  · rfl

/-- An object with something in it, which begins with a key. -/
theorem read_object : read (fuel + 1) ('\x7b' :: '\x22' :: text) =
    (readMembers fuel [] ('\x22' :: text)).map fun (members, rest) => (object members, rest) := by
  rw [read, skipBlanks_cons rfl]
  rfl

theorem read_number {n : Number} (h : n.WellFormed) (hrest : Ends rest) :
    read (fuel + 1) (n.text.toList ++ rest) = some (number n, rest) := by
  obtain ⟨negative, first, numeral, htext, hfirst, hchars, hnumber⟩ := h.exists_numeral
  obtain ⟨htake, hdrop⟩ := takeWhile_numeral hchars hrest
  rw [htext]
  cases negative with
  | false =>
    rw [if_neg (by decide), List.nil_append, List.cons_append, read_digit hfirst]
    rw [List.cons_append] at htake hdrop
    rw [htake, hdrop, hnumber]
    rfl
  | true =>
    rw [if_pos rfl, List.append_assoc, List.singleton_append, read_minus, htake, hdrop, hnumber]
    rfl

end Tokens

/-! ## Values -/

/-- A value as values are: every number has a form that numbers have, and the
members of an object have different keys. -/
inductive WellFormed : Value → Prop
  | null : WellFormed null
  | boolean (b : Bool) : WellFormed (boolean b)
  | number {n : Number} : n.WellFormed → WellFormed (number n)
  | string (s : String) : WellFormed (string s)
  | array {items : List Value} : (∀ item ∈ items, WellFormed item) → WellFormed (array items)
  | object {members : Members} : members.keys.Nodup →
      (∀ member ∈ members, WellFormed member.2) → WellFormed (object members)

/-- The text of the value is read as the value, and what follows is left. -/
def Reads (v : Value) : Prop :=
  ∀ fuel rest, v.text.toList.length < fuel → Ends rest →
    read fuel (v.text.toList ++ rest) = some (v, rest)

/-- The text of a value begins with something that is neither a blank nor the end of
an array. -/
theorem WellFormed.exists_first {v : Value} (h : v.WellFormed) :
    ∃ first text, v.text.toList = first :: text ∧ isBlank first = false ∧ first ≠ ']' := by
  cases h with
  | null => exact ⟨'n', "ull".toList, rfl, rfl, by decide⟩
  | boolean b =>
    cases b with
    | true => exact ⟨'t', "rue".toList, rfl, rfl, by decide⟩
    | false => exact ⟨'f', "alse".toList, rfl, rfl, by decide⟩
  | @number n hn =>
    obtain ⟨negative, first, numeral, htext, hfirst, -, -⟩ := hn.exists_numeral
    cases negative with
    | true => exact ⟨'-', first :: numeral, htext, rfl, by decide⟩
    | false =>
      exact ⟨first, numeral, htext, isBlank_of_isAsciiDigit hfirst, ne_of_isAsciiDigit hfirst rfl⟩
  | string s => exact ⟨'\x22', _, toList_quoted s, rfl, by decide⟩
  | @array items =>
    exact ⟨'[', _, by simp only [text, String.toList_append]; rfl, rfl, by decide⟩
  | @object members =>
    exact ⟨'\x7b', _, by simp only [text, String.toList_append]; rfl, rfl, by decide⟩

theorem commas_singleton (text : String) : commas [text] = text := by
  simp [commas]

theorem toList_commas_cons_cons (first second : String) (texts : List String) :
    (commas (first :: second :: texts)).toList =
      first.toList ++ ',' :: (commas (second :: texts)).toList := by
  have hcommas : commas (first :: second :: texts) = first ++ "," ++ commas (second :: texts) :=
    String.intercalate_cons_cons
  simp [hcommas]

/-- Texts with commas begin as the first of them does. -/
theorem exists_commas_eq (first : String) (texts : List String) :
    ∃ more, (commas (first :: texts)).toList = first.toList ++ more := by
  cases texts with
  | nil => exact ⟨[], by rw [commas_singleton, List.append_nil]⟩
  | cons second texts => exact ⟨_, toList_commas_cons_cons first second texts⟩

theorem readItems_commas {items : List Value} (hne : items ≠ []) (h : ∀ item ∈ items, item.Reads)
    {fuel : Nat} (rest : List Char) (hfuel : (commas (itemTexts items)).toList.length + 1 < fuel) :
    readItems fuel ((commas (itemTexts items)).toList ++ ']' :: rest) = some (items, rest) := by
  induction items generalizing fuel with
  | nil => exact absurd rfl hne
  | cons item items ih =>
    obtain ⟨fuel, rfl⟩ : ∃ n, fuel = n + 1 := ⟨fuel - 1, by omega⟩
    have hitem := h item List.mem_cons_self
    cases items with
    | nil =>
      have htext : commas (itemTexts [item]) = item.text := commas_singleton _
      rw [htext] at hfuel ⊢
      rw [readItems, hitem fuel _ (by omega) (ends_cons rfl rest)]
      simp only [Option.bind_eq_bind, Option.bind_some]
      rw [skipBlanks_cons rfl]
      rfl
    | cons next items =>
      have htext : (commas (itemTexts (item :: next :: items))).toList =
          item.text.toList ++ ',' :: (commas (itemTexts (next :: items))).toList :=
        toList_commas_cons_cons _ _ _
      rw [htext] at hfuel ⊢
      rw [List.length_append, List.length_cons] at hfuel
      rw [List.append_assoc, List.cons_append, readItems,
        hitem fuel _ (by omega) (ends_cons rfl _)]
      simp only [Option.bind_eq_bind, Option.bind_some]
      rw [skipBlanks_cons rfl]
      show (readItems fuel ((commas (itemTexts (next :: items))).toList ++ ']' :: rest)).bind _ = _
      rw [ih (List.cons_ne_nil _ _) (fun x hx => h x (List.mem_cons_of_mem _ hx)) (by omega)]
      rfl

theorem put_of_not_mem {members : Members} {key : String} (h : key ∉ members.keys) (value : Value) :
    members.put key value = members ++ [(key, value)] := by
  induction members with
  | nil => rfl
  | cons member members ih =>
    obtain ⟨k, v⟩ := member
    simp only [Members.keys, List.map_cons, List.mem_cons, not_or] at h
    rw [Members.put, if_neg (fun heq => h.1 heq.symm), ih h.2]
    rfl

/-- One member is read and put at the end, if its key is new. -/
theorem readMembers_member {fuel : Nat} {before : Members} {key : String} {value : Value}
    (hkey : key ∉ before.keys) (hvalue : value.Reads) {rest : List Char} (hrest : Ends rest)
    (hfuel : (quoted key ++ ":" ++ value.text).toList.length < fuel) :
    readMembers (fuel + 1) before ((quoted key ++ ":" ++ value.text).toList ++ rest) =
      match skipBlanks rest with
      | ',' :: rest => readMembers fuel (before ++ [(key, value)]) rest
      | '\x7d' :: rest => some (before ++ [(key, value)], rest)
      | _ => none := by
  have htext : (quoted key ++ ":" ++ value.text).toList ++ rest =
      '\x22' :: (key.toList.flatMap escaped ++ '\x22' :: ':' :: (value.text.toList ++ rest)) := by
    simp [toList_quoted]
  simp only [String.toList_append, List.length_append] at hfuel
  rw [htext, readMembers, skipBlanks_cons rfl]
  simp only [readString_quoted, Option.bind_eq_bind, Option.bind_some, skipBlanks_cons
    (show isBlank ':' = false from rfl), hvalue fuel rest (by omega) hrest, String.ofList_toList,
    put_of_not_mem hkey]
  rfl

/-- Members are read after those before them, if all their keys are different. -/
theorem readMembers_commas {members before : Members} (hne : members ≠ [])
    (hkeys : (Members.keys (before ++ members)).Nodup) (h : ∀ member ∈ members, member.2.Reads)
    {fuel : Nat} (rest : List Char)
    (hfuel : (commas (memberTexts members)).toList.length + 1 < fuel) :
    readMembers fuel before ((commas (memberTexts members)).toList ++ '\x7d' :: rest) =
      some (before ++ members, rest) := by
  induction members generalizing fuel before with
  | nil => exact absurd rfl hne
  | cons member members ih =>
    obtain ⟨fuel, rfl⟩ : ∃ n, fuel = n + 1 := ⟨fuel - 1, by omega⟩
    obtain ⟨key, value⟩ := member
    have hvalue : value.Reads := h (key, value) List.mem_cons_self
    have hkey : key ∉ before.keys := by
      intro hmem
      simp only [Members.keys, List.map_append, List.nodup_append] at hkeys
      exact hkeys.2.2 key hmem key (by simp) rfl
    cases members with
    | nil =>
      have htext : commas (memberTexts [(key, value)]) = quoted key ++ ":" ++ value.text :=
        commas_singleton _
      rw [htext] at hfuel ⊢
      rw [readMembers_member hkey hvalue (ends_cons rfl rest) (by omega), skipBlanks_cons rfl]
      rfl
    | cons next members =>
      have htext : (commas (memberTexts ((key, value) :: next :: members))).toList =
          (quoted key ++ ":" ++ value.text).toList ++
            ',' :: (commas (memberTexts (next :: members))).toList := toList_commas_cons_cons _ _ _
      have hkeys' : (Members.keys (before ++ [(key, value)] ++ next :: members)).Nodup := by
        simpa using hkeys
      rw [htext] at hfuel ⊢
      rw [List.length_append, List.length_cons] at hfuel
      have hlater := ih (List.cons_ne_nil _ _) hkeys' (fun x hx => h x (List.mem_cons_of_mem _ hx))
        (show (commas (memberTexts (next :: members))).toList.length + 1 < fuel by omega)
      rw [List.append_assoc, List.cons_append, readMembers_member hkey hvalue (ends_cons rfl _)
        (by omega), skipBlanks_cons rfl]
      rw [List.append_assoc] at hlater
      exact hlater

theorem Reads.intro {v : Value}
    (h : ∀ fuel rest, v.text.toList.length ≤ fuel → Ends rest →
      read (fuel + 1) (v.text.toList ++ rest) = some (v, rest)) : v.Reads := by
  intro fuel rest hfuel hrest
  obtain ⟨fuel, rfl⟩ : ∃ n, fuel = n + 1 := ⟨fuel - 1, by omega⟩
  exact h fuel rest (by omega) hrest

theorem reads_array {items : List Value} (hitems : ∀ item ∈ items, item.WellFormed)
    (h : ∀ item ∈ items, item.Reads) : (array items).Reads := by
  refine .intro fun fuel rest hfuel _ => ?_
  have htext : (array items).text.toList ++ rest =
      '[' :: ((commas (itemTexts items)).toList ++ ']' :: rest) := by simp [text]
  have hlength : (array items).text.toList.length = (commas (itemTexts items)).toList.length + 2 := by
    simp [text]
  rw [htext]
  cases items with
  | nil =>
    rw [read, skipBlanks_cons rfl]
    rfl
  | cons item items =>
    have hfuel' : (commas (itemTexts (item :: items))).toList.length + 1 < fuel := by omega
    have hread := readItems_commas (List.cons_ne_nil item items) h rest hfuel'
    obtain ⟨first, text, hfirst, hblank, hne⟩ := (hitems item List.mem_cons_self).exists_first
    obtain ⟨more, hmore⟩ := exists_commas_eq item.text (itemTexts items)
    have hstart : (commas (itemTexts (item :: items))).toList = first :: (text ++ more) := by
      rw [itemTexts, hmore, hfirst, List.cons_append]
    rw [hstart, List.cons_append] at hread ⊢
    rw [read_array hblank hne, hread]
    rfl

theorem reads_object {members : Members} (hkeys : members.keys.Nodup)
    (h : ∀ member ∈ members, member.2.Reads) : (object members).Reads := by
  refine .intro fun fuel rest hfuel _ => ?_
  have htext : (object members).text.toList ++ rest =
      '\x7b' :: ((commas (memberTexts members)).toList ++ '\x7d' :: rest) := by simp [text]
  have hlength : (object members).text.toList.length =
      (commas (memberTexts members)).toList.length + 2 := by
    simp [text]
  rw [htext]
  cases members with
  | nil =>
    rw [read, skipBlanks_cons rfl]
    rfl
  | cons member members =>
    have hfuel' : (commas (memberTexts (member :: members))).toList.length + 1 < fuel := by omega
    have hread := readMembers_commas (List.cons_ne_nil member members)
      (show (Members.keys ([] ++ member :: members)).Nodup from hkeys) h rest hfuel'
    obtain ⟨key, value⟩ := member
    obtain ⟨more, hmore⟩ := exists_commas_eq (quoted key ++ ":" ++ value.text) (memberTexts members)
    have hstart : ∃ text, (commas (memberTexts ((key, value) :: members))).toList = '\x22' :: text := by
      rw [memberTexts, hmore, String.append_assoc, String.toList_append, toList_quoted]
      exact ⟨_, rfl⟩
    obtain ⟨text, hstart⟩ := hstart
    rw [hstart, List.cons_append] at hread ⊢
    rw [read_object, hread]
    rfl

/-- **A value is read from its text.** -/
theorem WellFormed.reads {v : Value} (h : v.WellFormed) : v.Reads := by
  induction h with
  | null => exact .intro fun _ _ _ _ => read_null
  | boolean b => exact .intro fun _ _ _ _ => read_boolean b
  | number hn => exact .intro fun _ _ _ hrest => read_number hn hrest
  | string s => exact .intro fun _ _ _ _ => read_string s
  | array hitems ih => exact reads_array hitems ih
  | object hkeys _ ih => exact reads_object hkeys ih

/-- A text that was written is read back whole. -/
theorem ofText?_text {v : Value} (h : v.WellFormed) : ofText? v.text = some v := by
  have hread := h.reads (v.text.length + 1) [] (by rw [String.length_toList]; omega)
    (fun _ hc => nomatch hc)
  rw [List.append_nil] at hread
  unfold ofText?
  rw [hread]
  rfl

/-- **Values with one text are the same value.** -/
theorem eq_of_text_eq {v w : Value} (hv : v.WellFormed) (hw : w.WellFormed)
    (h : v.text = w.text) : v = w := by
  have hread := ofText?_text hv
  rw [h, ofText?_text hw] at hread
  exact (Option.some.inj hread).symm

end Value

end Conform
