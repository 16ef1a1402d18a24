import Conform.Proofs.Reparse
/-!
# Coercion — what converting compatible input adds

A leaf that converts reads everything that it reads while strict, and in the
same way, so coercion only adds inputs. The one exception is an
enumeration. Its strings can be read in two ways: a numeral is looked for
among the options as the number it denotes, before it is looked for as it
stands, and then it does not find the option that has its text.
-/


namespace Conform

/-! ## Rules -/

theorem TextRule.widens (r : TextRule) : Widens (r.check true) (r.check false) := by
  intro value path output h
  cases value with
  | string s => exact h
  | _ => cases h

theorem NumberRule.widens (r : NumberRule) : Widens (r.check true) (r.check false) := by
  intro value path output h
  cases value with
  | number n => exact h
  | _ => cases h

theorem BooleanRule.widens (r : BooleanRule) : Widens (r.check true) (r.check false) := by
  intro value path output h
  cases value with
  | boolean b => exact h
  | _ => cases h

/-- A text that is a timestamp is not read as a plain date. -/
theorem DateRule.read?_of_strict {value : Value} {t : Instant} (h : read? true value = some t) :
    read? false value = some t := by
  cases value with
  | string s =>
    show (Instant.ofTimestamp? s).or (Instant.ofDate? s) = some t
    rw [show Instant.ofTimestamp? s = some t from h, Option.some_or]
  | _ => cases h

theorem DateRule.widens (r : DateRule) (today : Int) :
    Widens (r.check today true) (r.check today false) := by
  intro value path output h
  unfold check at h ⊢
  cases hread : read? true value with
  | none =>
    rw [hread] at h
    cases h
  | some t =>
    rw [hread] at h
    rw [read?_of_strict hread]
    exact h

namespace EnumerationRule

variable {r : EnumerationRule} {strict : Bool} {value : Value} {path : Path}

theorem check_eq_ok_iff {option : Value} :
    r.check strict value path = .ok option ↔ r.find? (candidate strict value) = some option := by
  unfold check
  cases r.find? (candidate strict value) <;> simp

theorem output?_check :
    (r.check strict value path).output? = r.find? (candidate strict value) := by
  unfold check
  cases r.find? (candidate strict value) <;> rfl

/-- What is found is an option that stands for what is looked for. -/
theorem sameMember_of_check {option : Value} (h : r.check strict value path = .ok option) :
    sameMember option (candidate strict value) = true := by
  have hsome := List.find?_some (check_eq_ok_iff.1 h)
  exact hsome

/-- A strict rule looks for the input as it stands. -/
theorem candidate_strict (value : Value) : candidate true value = value := by
  cases value <;> rfl

/-- The number that a value is taken for when it is converted. -/
def numeral? : Value → Option Value
  | .string s => numberOf? s
  | _ => none

/-- Converting changes what is looked for only where it finds a number. -/
theorem candidate_eq (value : Value) : candidate false value = (numeral? value).getD value := by
  cases value <;> rfl

theorem exists_of_numeral? {number : Value} (h : numeral? value = some number) :
    ∃ s n, value = .string s ∧ number = .number n := by
  cases value with
  | string s =>
    obtain ⟨n, hn⟩ := exists_number_of_numberOf? h
    exact ⟨s, n, rfl, hn⟩
  | _ => cases h

/-- A numeral is looked for as the number it denotes, as if that were the input. -/
theorem output?_check_of_numeral? {number : Value} (h : numeral? value = some number) :
    (r.check false value path).output? = (r.check true number path).output? := by
  rw [output?_check, output?_check, candidate_eq, h]
  obtain ⟨-, n, -, rfl⟩ := exists_of_numeral? h
  rfl

/-- Where the strict rule finds an option, the converting one finds the same
exactly if it does not take the input for a number: no option stands for a text
and for a number. -/
theorem check_converting_iff {option : Value} (h : r.check true value path = .ok option) :
    r.check false value path = .ok option ↔ numeral? value = none := by
  rw [check_eq_ok_iff, candidate_eq]
  cases hnumeral : numeral? value with
  | none =>
    rw [check_eq_ok_iff, candidate_strict] at h
    exact iff_of_true h rfl
  | some number =>
    obtain ⟨s, n, rfl, rfl⟩ := exists_of_numeral? hnumeral
    refine iff_of_false (fun hfind => ?_) (Option.some_ne_none _)
    have hnumber := List.find?_some hfind
    have hstring := sameMember_of_check h
    cases option <;> simp [sameMember, candidate, Value.same] at hnumber hstring

end EnumerationRule

/-! ## Leaves -/

/-- A strict validator that is told to convert still accepts what it accepts, if its
step does. -/
theorem Modifiers.HookFree.parse_converting {α : Type} {m : Modifiers α} (hm : m.HookFree)
    (hstrict : m.strict = true) {step : Bool → Value → Path → Checked α}
    (hstep : Widens (step true) (step false)) {toValue : α → Value} {input output : Option Value}
    {path : Path} (h : (m.validator (step m.strict) toValue).parse input path = .ok output) :
    (m.coerce.validator (step m.coerce.strict) toValue).parse input path = .ok output := by
  have hm' : m.coerce.HookFree := ⟨hm.prepare, hm.custom, hm.finish⟩
  cases input with
  | none => exact h
  | some value =>
    rw [Validator.parse_some, hm.validator_present, hstrict, Checked.map_eq_ok_iff] at h
    obtain ⟨v, hv, rfl⟩ := h
    obtain ⟨a, ha, rfl⟩ := Checked.map_eq_ok_iff.1 hv
    have hwide : step m.coerce.strict value path = .ok a := hstep ha
    rw [Validator.parse_some, hm'.validator_present, hwide]
    rfl

namespace Schema

/-- The schema is a string, a number, a boolean, a date or an enumeration. -/
def IsLeaf : Schema → Prop
  | text _ _ => True
  | number _ _ => True
  | boolean _ _ => True
  | date _ _ => True
  | enumeration _ _ => True
  | _ => False

/-- The same leaf, told to convert compatible input. -/
def coerce : Schema → Schema
  | text rule modifiers => .text rule modifiers.coerce
  | number rule modifiers => .number rule modifiers.coerce
  | boolean rule modifiers => .boolean rule modifiers.coerce
  | date rule modifiers => .date rule modifiers.coerce
  | enumeration rule modifiers => .enumeration rule modifiers.coerce
  | s => s

/-- The number that a converting leaf looks for in place of its input. Only
enumerations do that. -/
def numeral? : Schema → Option Value → Option Value
  | enumeration _ _, some value => EnumerationRule.numeral? value
  | _, _ => none

variable {env : Env} {rule : EnumerationRule} {m : Modifiers Value}

theorem parse_enumeration (hm : m.HookFree) (value : Value) (path : Path) :
    ((enumeration rule m).validator env).parse (some value) path =
      (rule.check m.strict value path).map some := by
  have hpresent : ((enumeration rule m).validator env).present value path =
      (rule.check m.strict value path).map id := hm.validator_present id
  rw [Validator.parse_some, hpresent]
  exact congrArg (Except.map some) (congrFun Except.map_id _)

theorem output?_parse_enumeration (hm : m.HookFree) (value : Value) (path : Path) :
    (((enumeration rule m).validator env).parse (some value) path).output? =
      (rule.check m.strict value path).output?.map some := by
  rw [parse_enumeration hm, Checked.output?_map]

/-- An enumeration that is told to convert keeps its outputs except for numerals. -/
theorem parse_coerce_enumeration_iff (hm : m.HookFree) (hstrict : m.strict = true)
    {input output : Option Value} {path : Path}
    (h : ((enumeration rule m).validator env).parse input path = .ok output) :
    ((enumeration rule m).coerce.validator env).parse input path = .ok output ↔
      (enumeration rule m).numeral? input = none := by
  have hm' : m.coerce.HookFree := ⟨hm.prepare, hm.custom, hm.finish⟩
  cases input with
  | none => exact iff_of_true h rfl
  | some value =>
    rw [parse_enumeration hm, hstrict, Checked.map_eq_ok_iff] at h
    obtain ⟨option, hoption, rfl⟩ := h
    rw [coerce, parse_enumeration hm', Checked.map_eq_ok_iff, numeral?,
      ← EnumerationRule.check_converting_iff hoption]
    simp [Modifiers.coerce]

/-- **Coercion only adds inputs, and rereads numerals.** A string, a number, a
boolean or a date that a strict leaf accepts, the leaf accepts with the same
output when it is told to convert. So does an enumeration, unless the input is a
text that it then takes for a number: that output is never the same, because
the leaf now does with the text what it did with the number. -/
theorem parse_coerce {s : Schema} (hleaf : s.IsLeaf) (hfree : s.IsHookFree)
    (hstrict : s.HasModifiers fun m => m.strict = true) (env : Env) (input : Option Value)
    (path : Path) :
    (∀ output, (s.validator env).parse input path = .ok output →
      ((s.coerce.validator env).parse input path = .ok output ↔ s.numeral? input = none)) ∧
    ∀ number, s.numeral? input = some number →
      Checked.output? ((s.coerce.validator env).parse input path) =
        Checked.output? ((s.validator env).parse (some number) path) := by
  constructor
  · intro output h
    cases s with
    | text rule m => exact iff_of_true (hfree.parse_converting hstrict rule.widens h) rfl
    | number rule m => exact iff_of_true (hfree.parse_converting hstrict rule.widens h) rfl
    | boolean rule m => exact iff_of_true (hfree.parse_converting hstrict rule.widens h) rfl
    | date rule m =>
      exact iff_of_true (hfree.parse_converting hstrict (rule.widens env.today) h) rfl
    | enumeration rule m => exact parse_coerce_enumeration_iff hfree hstrict h
    | _ => exact hleaf.elim
  · intro number h
    cases s with
    | enumeration rule m =>
      cases input with
      | none => cases h
      | some value =>
        have hfree' : m.coerce.HookFree := ⟨hfree.prepare, hfree.custom, hfree.finish⟩
        have hm : m.strict = true := hstrict
        rw [coerce, output?_parse_enumeration hfree', output?_parse_enumeration hfree, hm]
        exact congrArg (Option.map some) (EnumerationRule.output?_check_of_numeral? h)
    | _ => cases h

/-- An enumeration of the given options. -/
def choice (options : List Value) : Schema := enumeration ⟨options⟩ {}

theorem numeral?_choice (options : List Value) :
    (choice options).numeral? (some (.string "1")) = some (.number (.double (.ofInt 1))) := by
  have hplain : EnumerationRule.isPlainNumeral "1".toList = true := by decide +kernel
  have hnumber : Binary64.ofText? "1" = some (.ofInt 1) := by decide +kernel
  have hfinite : (Binary64.ofInt 1).isFinite = true := by decide +kernel
  show EnumerationRule.numberOf? "1" = _
  unfold EnumerationRule.numberOf?
  rw [if_pos hplain, hnumber]
  exact if_pos hfinite

/-- An enumeration of a word and a numeral keeps the word when it converts, and
takes the numeral for a number. -/
theorem parse_coerce_choice :
    (choice [.string "one", .string "1"]).IsLeaf ∧
      (choice [.string "one", .string "1"]).IsHookFree ∧
      (choice [.string "one", .string "1"]).HasModifiers (fun m => m.strict = true) ∧
      ((choice [.string "one", .string "1"]).coerce.validator inMachine).parse
          (some (.string "one")) .root = .ok (some (.string "one")) ∧
      (((choice [.string "one", .string "1"]).coerce.validator inMachine).parse
          (some (.string "1")) .root).output? =
        Checked.output? (((choice [.string "one", .string "1"]).validator inMachine).parse
          (some (.number (.double (.ofInt 1)))) .root) := by
  have hfree : (choice [.string "one", .string "1"]).IsHookFree := ⟨rfl, rfl, rfl⟩
  obtain ⟨-, hnumeral⟩ := parse_coerce (s := choice [.string "one", .string "1"]) trivial hfree rfl
    inMachine (some (.string "1")) .root
  obtain ⟨hkept, -⟩ := parse_coerce (s := choice [.string "one", .string "1"]) trivial hfree rfl
    inMachine (some (.string "one")) .root
  exact ⟨trivial, hfree, rfl, (hkept _ rfl).2 rfl, hnumeral _ (numeral?_choice _)⟩

/-- A text that is an option and a numeral is accepted by the strict enumeration. One
that converts refuses it, or hands out an option that is the number. -/
theorem choice_loses_numerals :
    EnumerationRule.ofList [.string "1"] = .ok ⟨[.string "1"]⟩ ∧
      ((choice [.string "1"]).validator inMachine).parse (some (.string "1")) .root =
        .ok (some (.string "1")) ∧
      (((choice [.string "1"]).coerce.validator inMachine).parse (some (.string "1")) .root).output? =
        none ∧
      ((choice [.string "1", .number (.integer 1)]).validator inMachine).parse
          (some (.string "1")) .root = .ok (some (.string "1")) ∧
      (((choice [.string "1", .number (.integer 1)]).coerce.validator inMachine).parse
          (some (.string "1")) .root).output? = some (some (.number (.integer 1))) := by
  have hsame : (Binary64.ofInt 1).same (.ofInt 1) = true := by decide +kernel
  have hcoerced (options : List Value) :
      (((choice options).coerce.validator inMachine).parse (some (.string "1")) .root).output? =
        ((⟨options⟩ : EnumerationRule).find? (.number (.double (.ofInt 1)))).map some := by
    have hfree : ({} : Modifiers Value).coerce.HookFree := ⟨rfl, rfl, rfl⟩
    have hcandidate : EnumerationRule.candidate false (.string "1") =
        .number (.double (.ofInt 1)) := by
      rw [EnumerationRule.candidate_eq,
        show EnumerationRule.numeral? (.string "1") = _ from numeral?_choice options]
      rfl
    rw [choice, coerce, output?_parse_enumeration hfree, EnumerationRule.output?_check]
    exact congrArg (fun found => (EnumerationRule.find? ⟨options⟩ found).map some) hcandidate
  refine ⟨rfl, rfl, (hcoerced _).trans rfl, rfl, (hcoerced _).trans ?_⟩
  simp only [EnumerationRule.find?, List.find?, EnumerationRule.sameMember, Value.same,
    Number.toBinary64, hsame, Option.map_some]

end Schema

end Conform
