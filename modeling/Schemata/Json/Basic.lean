/-!
# JSON values

A JSON value keeps its object members in order, and keeps every one of them even if names repeat:
whether a repeated name is acceptable is for the consumer to say. Integers of up to 64 bits are
told apart from all other numbers, which keep the digits that they were written with.
-/

namespace Schemata

/-- A JSON value. -/
inductive Json
  | null
  | bool (b : Bool)
  | integer (n : Int)
  /-- A number that is no 64-bit integer, as it is written. -/
  | real (literal : String)
  | string (s : String)
  | array (items : List Json)
  | object (members : List (String × Json))
  deriving Inhabited

namespace Json

mutual

/-- How deep arrays and objects are nested. -/
def depth : Json → Nat
  | .array items => itemsDepth items + 1
  | .object members => membersDepth members + 1
  | _ => 0

/-- The greatest depth of several values. -/
def itemsDepth : List Json → Nat
  | [] => 0
  | j :: js => max (depth j) (itemsDepth js)

/-- The greatest depth of the members of an object. -/
def membersDepth : List (String × Json) → Nat
  | [] => 0
  | (_, j) :: rest => max (depth j) (membersDepth rest)

end

/-- The members of an object. -/
def members? : Json → Option (List (String × Json))
  | .object members => some members
  | _ => none

/-- The items of an array. -/
def items? : Json → Option (List Json)
  | .array items => some items
  | _ => none

/-- The text of a string. -/
def string? : Json → Option String
  | .string s => some s
  | _ => none

/-- The truth value. -/
def bool? : Json → Option Bool
  | .bool b => some b
  | _ => none

/-- An integer that is not negative. -/
def natural? : Json → Option Nat
  | .integer n => if 0 ≤ n then some n.toNat else none
  | _ => none

/-- The value of the first member of a name. -/
def get? (j : Json) (name : String) : Option Json :=
  j.members?.bind (·.lookup name)

end Json

end Schemata
