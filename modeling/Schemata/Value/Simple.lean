import Schemata.Value.Atomic

/-!
# Simple values

What an attribute or a simple object holds: an atomic value or a list of simple values. The written
form of a list is its items between `#[` and `]`, separated by spaces.
-/

namespace Schemata

/-- An atomic value or a list of values. -/
inductive SimpleValue
  | atomic (value : Atomic)
  | list (items : List SimpleValue)

namespace SimpleValue

/-- The atomic value, if the value is one. -/
def asAtomic? : SimpleValue → Option Atomic
  | .atomic v => some v
  | .list _ => none

/-- The items, if the value is a list. -/
def asList? : SimpleValue → Option (List SimpleValue)
  | .atomic _ => none
  | .list items => some items

/-- The length that a length range is about, which for a list is the number of its items. -/
def length? : SimpleValue → Option Nat
  | .atomic v => v.length?
  | .list items => some items.length

mutual

/-- Whether two values are equal, lists item by item. -/
def equal : SimpleValue → SimpleValue → Bool
  | .atomic a, .atomic b => a.equal b
  | .list as, .list bs => equalItems as bs
  | _, _ => false

/-- Whether two lists of values are equal. -/
def equalItems : List SimpleValue → List SimpleValue → Bool
  | [], [] => true
  | a :: as, b :: bs => equal a b && equalItems as bs
  | _, _ => false

end

mutual

/-- The written form. -/
def text : SimpleValue → String
  | .atomic v => v.text
  | .list items => "#[" ++ String.intercalate " " (itemTexts items) ++ "]"

/-- The written forms of several values. -/
def itemTexts : List SimpleValue → List String
  | [] => []
  | v :: vs => text v :: itemTexts vs

end

mutual

/-- What a value contributes to a hash. -/
def fingerprint : SimpleValue → List HashDatum
  | .atomic v => .number 0 :: v.fingerprint
  | .list items => .number 1 :: .number items.length :: itemFingerprint items

/-- What several values contribute to a hash. -/
def itemFingerprint : List SimpleValue → List HashDatum
  | [] => []
  | v :: vs => fingerprint v ++ itemFingerprint vs

end

end SimpleValue

end Schemata
