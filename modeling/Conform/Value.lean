import Conform.Decimal.Layout
/-!
# Value — untyped values

A `Value` is what a schema reads and what it produces: null, a boolean, a
number, a string, an array or an object. A number keeps the form it was
written in, so the integer `1` and the double `1.0` are different values.
An object is its members in order, and `Members` has the operations on
them. `Value.same` is equality of values: the order of members does not
matter, and the form of a number does.
-/


namespace Conform

/-- A number in one of its two forms. -/
inductive Number where
  | integer (n : Int)
  | double (x : Binary64)
deriving DecidableEq, Repr, Inhabited

/-- An untyped value. -/
inductive Value where
  | null
  | boolean (b : Bool)
  | number (n : Number)
  | string (s : String)
  | array (items : List Value)
  | object (members : List (String × Value))
deriving Repr, Inhabited

/-- The members of an object, in order. -/
abbrev Members := List (String × Value)

namespace Number

/-- The least integer that has the integer form. -/
def leastInteger : Int := -9223372036854775808

/-- The greatest integer that has the integer form. -/
def greatestInteger : Int := 18446744073709551615

/-- The number as a double. An integer is rounded to the closest one. -/
def toBinary64 : Number → Binary64
  | integer n => Binary64.ofInt n
  | double x => x

/-- The number as a signed integer of 64 bits, if it has the integer form
and fits. -/
def toInt64? : Number → Option Int
  | integer n => if n < 9223372036854775808 then some n else none
  | double _ => none

/-- Equality of numbers of one form. The two zero doubles are equal. -/
def same : Number → Number → Bool
  | integer m, integer n => m = n
  | double x, double y => x.same y
  | _, _ => false

/-- The written form. -/
def text : Number → String
  | integer n => toString n
  | double x => x.compact

end Number

namespace Members

/-- The value of a key. -/
def get? (members : Members) (key : String) : Option Value := members.lookup key

/-- The keys in order. -/
def keys (members : Members) : List String := members.map Prod.fst

/-- Sets a key: in place if it is there, at the end otherwise. -/
def put : Members → String → Value → Members
  | [], key, value => [(key, value)]
  | (k, v) :: rest, key, value =>
    if k = key then (k, value) :: rest else (k, v) :: put rest key value

end Members

namespace Value

/-- The word for the kind of a value. -/
def typeName : Value → String
  | null => "null"
  | boolean _ => "boolean"
  | number _ => "number"
  | string _ => "string"
  | array _ => "array"
  | object _ => "object"

mutual

/-- Equality of values: arrays item by item, objects member by member in any
order, numbers only in the same form. -/
def same : Value → Value → Bool
  | null, null => true
  | boolean a, boolean b => a = b
  | number a, number b => a.same b
  | string a, string b => a = b
  | array xs, array ys => sameItems xs ys
  | object ms, object ns => ms.length = ns.length && sameMembers ms ns
  | _, _ => false

/-- Equality of items at the same positions. -/
def sameItems : List Value → List Value → Bool
  | [], [] => true
  | x :: xs, y :: ys => same x y && sameItems xs ys
  | _, _ => false

/-- Every member on the left has an equal member on the right. -/
def sameMembers : List (String × Value) → Members → Bool
  | [], _ => true
  | (key, x) :: rest, others =>
    (match others.get? key with
      | some y => same x y
      | none => false) && sameMembers rest others

end

end Value

end Conform
