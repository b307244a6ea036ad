import Schemata.Text.Ranges
import Schemata.Text.Variant

/-!
# Sets of characters in patterns

A set of characters is kept as its ranges in ascending order with gaps between them, so that equal
sets are equal data. There are the operations on sets, and a set can be closed under change of
case.
-/

namespace Schemata

/-- A set of characters: inclusive ranges of code points, in ascending order, with a gap between
each and the next, and without surrogates. -/
structure CharSet where
  bounds : List (Nat × Nat)
  deriving DecidableEq

namespace CharSet

/-! ## Ranges -/

/-- The parts of a range below and above the surrogates. -/
def scalarParts (range : Nat × Nat) : List (Nat × Nat) :=
  [(range.1, min range.2 0xD7FF), (max range.1 0xE000, range.2)].filter fun r => r.1 ≤ r.2

/-- Join a range with those after it, in ascending order of their starts, where they touch. -/
def joinFrom (first last : Nat) : List (Nat × Nat) → List (Nat × Nat)
  | [] => [(first, last)]
  | (a, b) :: rest =>
    if a ≤ last + 1 then joinFrom first (max last b) rest else (first, last) :: joinFrom a b rest

/-- The set of the characters in some ranges, in any order. -/
def ofBounds (ranges : List (Nat × Nat)) : CharSet :=
  match (ranges.flatMap scalarParts).mergeSort (fun r s => r.1 ≤ s.1) with
  | [] => ⟨[]⟩
  | (first, last) :: rest => ⟨joinFrom first last rest⟩

/-- The set of a table. -/
def ofTable (r : Text.Ranges) : CharSet := ofBounds r.bounds

/-- The set without characters. -/
def empty : CharSet := ⟨[]⟩

/-- The characters between two, both included. -/
def range (first last : Char) : CharSet := ofBounds [(first.toNat, last.toNat)]

/-- The set of one character. -/
def single (c : Char) : CharSet := range c c

/-! ## Membership -/

/-- Whether a character is in a set. -/
def contains (s : CharSet) (c : Char) : Bool :=
  s.bounds.any fun r => r.1 ≤ c.toNat && c.toNat ≤ r.2

/-- Whether a code point is in a set. -/
def containsCode (s : CharSet) (code : Nat) : Bool :=
  s.bounds.any fun r => r.1 ≤ code && code ≤ r.2

/-- Whether the set has characters of ASCII alone. -/
def isAscii (s : CharSet) : Bool := s.bounds.all fun r => r.2 < 128

/-- The character of a set that has just one. -/
def single? (s : CharSet) : Option Char :=
  match s.bounds with
  | [(first, last)] => if first == last then some (Char.ofNat first) else none
  | _ => none

/-! ## Operations -/

/-- The characters in one set or the other. -/
def union (s t : CharSet) : CharSet := ofBounds (s.bounds ++ t.bounds)

/-- The characters that are not in a set. -/
def compl (s : CharSet) : CharSet := ofBounds (Text.Ranges.gapsFrom 0 s.bounds)

/-- Every character. -/
def all : CharSet := compl empty

/-- The characters in both sets. -/
def inter (s t : CharSet) : CharSet := compl (union (compl s) (compl t))

/-- The characters of the first set that are not in the second. -/
def minus (s t : CharSet) : CharSet := inter s (compl t)

/-- The characters in just one of the sets. -/
def symDiff (s t : CharSet) : CharSet := minus (union s t) (inter s t)

/-! ## Case -/

/-- The characters of a set and their variants in the other case. -/
def anyCase (s : CharSet) : CharSet :=
  ofBounds (s.bounds ++ Text.variantPairs.filterMap fun (code, variant) =>
    if s.containsCode code then some (variant, variant) else none)

/-- The characters of a set and, for ASCII letters, the same letter in the other case. -/
def anyCaseAscii (s : CharSet) : CharSet :=
  let letters := inter s (union (range 'A' 'Z') (range 'a' 'z'))
  ofBounds (s.bounds ++ letters.bounds.map fun (first, last) =>
    if first < 97 then (first + 32, last + 32) else (first - 32, last - 32))

end CharSet

end Schemata
