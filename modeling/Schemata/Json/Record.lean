import Schemata.Json.Basic

/-!
# Records in JSON

A record with a fixed list of fields is written as an object, in which other members are ignored
and no field may repeat, or as an array of its fields in order, from which fields at the end may be
missing. A variant record also has a tag, a member that may stand anywhere in the object or the
first item of the array; the tag is the name of the variant or its position.

The functions here take such values apart. Each of them fails by `none`.
-/

namespace Schemata.Json

/-- The only value given for a name. The outer option fails on a repeated name. -/
def single? (name : String) (members : List (String × Json)) : Option (Option Json) :=
  match members.filter (·.1 == name) with
  | [] => some none
  | [(_, j)] => some (some j)
  | _ => none

/-- The values of the fields of a record, in the order of their names. -/
def record? (names : List String) : Json → Option (List (Option Json))
  | .object members => names.mapM (single? · members)
  | .array items =>
    if items.length ≤ names.length then
      some (items.map some ++ List.replicate (names.length - items.length) none)
    else none
  | _ => none

/-- The position of the variant that a tag names. -/
def variant? (variants : List String) : Json → Option Nat
  | .string s => variants.idxOf? s
  | .integer n => if 0 ≤ n ∧ n < variants.length then some n.toNat else none
  | _ => none

/-- The position of the variant of a tagged record, and the record without its tag. -/
def tagged? (tag : String) (variants : List String) : Json → Option (Nat × Json)
  | .object members => do
    let j ← (← single? tag members)
    let n ← variant? variants j
    some (n, .object (members.filter (·.1 != tag)))
  | .array (j :: rest) => do
    let n ← variant? variants j
    some (n, .array rest)
  | _ => none

section Fields

variable {α : Type}

/-- A field that must be given. -/
def required (read : Json → Option α) (field : Option Json) : Option α :=
  field.bind read

/-- A field that may be missing or null. -/
def optional (read : Json → Option α) : Option Json → Option (Option α)
  | none | some .null => some none
  | some j => (read j).map some

/-- A field that has a value of its own if it is missing. -/
def orElse (default : α) (read : Json → Option α) : Option Json → Option α
  | none => some default
  | some j => read j

/-- A list of values. -/
def listOf (read : Json → Option α) (j : Json) : Option (List α) :=
  j.items?.bind (·.mapM read)

/-- An optional value, or null. -/
def orNull (write : α → Json) : Option α → Json
  | none => .null
  | some a => write a

end Fields

/-- A natural number below a bound. -/
def naturalBelow (bound : Nat) (j : Json) : Option Nat :=
  j.natural?.bind fun n => if n < bound then some n else none

/-- A natural number of 64 bits. -/
def count? : Json → Option Nat := naturalBelow (1 <<< 64)

end Schemata.Json
