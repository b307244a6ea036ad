/-!
# Sets of characters as ranges

A property of characters is a list of ranges of code points. The tables of the larger properties
are written as text, one hexadecimal number after another, which `hexNumbers` reads.
-/

namespace Schemata.Text

/-- The value of a hexadecimal digit. -/
def hexDigit? (c : Char) : Option Nat :=
  if '0' ≤ c ∧ c ≤ '9' then some (c.toNat - 48)
  else if 'a' ≤ c ∧ c ≤ 'f' then some (c.toNat - 87)
  else if 'A' ≤ c ∧ c ≤ 'F' then some (c.toNat - 55)
  else none

/-- The hexadecimal numbers of a table; anything but a digit ends a number. -/
def hexNumbers (table : String) : List Nat :=
  let step : List Nat × Option Nat → Char → List Nat × Option Nat := fun (done, open?) c =>
    match hexDigit? c, open? with
    | some d, some n => (done, some (16 * n + d))
    | some d, none => (done, some d)
    | none, some n => (n :: done, none)
    | none, none => (done, none)
  match table.toList.foldl step ([], none) with
  | (done, some n) => (n :: done).reverse
  | (done, none) => done.reverse

/-- A set of characters: inclusive ranges of code points, in ascending order. -/
structure Ranges where
  bounds : List (Nat × Nat)

namespace Ranges

/-- Pair up the numbers of a table. -/
def pairs : List Nat → List (Nat × Nat)
  | first :: last :: rest => (first, last) :: pairs rest
  | _ => []

/-- The ranges of a table of bounds: first, last, first, last, and so on. -/
def ofTable (table : String) : Ranges := ⟨pairs (hexNumbers table)⟩

/-- Whether a character lies in one of the ranges. -/
def contains (r : Ranges) (c : Char) : Bool :=
  r.bounds.any fun (first, last) => first ≤ c.toNat && c.toNat ≤ last

/-- The gaps between ranges in ascending order, from a code point on. -/
def gapsFrom (start : Nat) : List (Nat × Nat) → List (Nat × Nat)
  | [] => if start ≤ 0x10FFFF then [(start, 0x10FFFF)] else []
  | (first, last) :: rest =>
    (if start < first then [(start, first - 1)] else []) ++ gapsFrom (last + 1) rest

/-- The characters outside a set. -/
def complement (r : Ranges) : Ranges := ⟨gapsFrom 0 r.bounds⟩

end Ranges

end Schemata.Text
