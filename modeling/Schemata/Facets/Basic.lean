import Schemata.Diagnostic
import Schemata.Pattern.Reader
import Schemata.Value.Simple

/-!
# Facets

The facets of a simple type restrict its values: their length, their digits, their range, an
enumeration of what is admitted, and patterns of which one has to match. `FacetSet.violations`
lists the facets that a value violates, and `FacetSet.Admits` says that there are none.
-/

namespace Schemata

/-- One end of a range of values. -/
structure Bound where
  value : Atomic
  isInclusive : Bool

/-- A bound in a message. -/
def Bound.text (b : Bound) : String :=
  if b.isInclusive then s!"{b.value.text} (inclusive)" else s!"{b.value.text} (exclusive)"

/-- A value of an enumeration with its display name. -/
structure EnumItem where
  value : Atomic
  name : Option String

/-- The facets of a simple type. -/
structure FacetSet where
  leastLength : Option Nat := none
  greatestLength : Option Nat := none
  precision : Option Nat := none
  scale : Option Nat := none
  least : Option Bound := none
  greatest : Option Bound := none
  /-- The admitted values in the order of their declaration. -/
  enumeration : Option (List EnumItem) := none
  /-- Alternatives of which a value has to match one. -/
  patterns : List String := []

/-- A facet that a value violates. -/
inductive FacetViolation
  | length (length : Nat) (least greatest : Option Nat)
  | precision (value : Atomic) (digits bound : Nat)
  | scale (value : Atomic) (digits bound : Nat)
  | valueRange (value : Atomic)
  | enumeration (value : Atomic)
  | pattern (value : Atomic)

namespace FacetViolation

/-- The code of a violation. -/
def code : FacetViolation → Code
  | .length .. => .lengthNotInRange
  | .precision .. => .precisionExceeded
  | .scale .. => .scaleExceeded
  | .valueRange _ => .valueNotInRange
  | .enumeration _ => .valueNotInEnumeration
  | .pattern _ => .patternNotMatched

/-- An optional number in a message. -/
def numberText (n : Option Nat) : String := n.elim "" toString

/-- The wording of a violation. -/
def message : FacetViolation → String
  | .length n least greatest =>
    s!"length {n} is not in range {numberText least}..{numberText greatest}"
  | .precision v n bound => s!"'{v.text}' has {n} digits, at most {bound} allowed"
  | .scale v n bound => s!"'{v.text}' has {n} fractional digits, at most {bound} allowed"
  | .valueRange v => s!"'{v.text}' is not in the value range"
  | .enumeration v => s!"'{v.text}' is not in the enumeration"
  | .pattern v => s!"'{v.text}' does not match any pattern"

/-- A violation as a diagnostic without a place. -/
def diagnostic (v : FacetViolation) : Diagnostic := .errorAt none v.code v.message

end FacetViolation

namespace Bound

/-- Whether a value is not below a lower bound. A value that does not compare
counts as below. -/
def allowsFromBelow (b : Bound) (v : Atomic) : Bool :=
  match v.compare? b.value with
  | some .gt => true
  | some .eq => b.isInclusive
  | _ => false

/-- Whether a value is not above an upper bound. A value that does not compare
counts as above. -/
def allowsFromAbove (b : Bound) (v : Atomic) : Bool :=
  match v.compare? b.value with
  | some .lt => true
  | some .eq => b.isInclusive
  | _ => false

end Bound

namespace FacetSet

/-- Whether no facet is set. -/
def isEmpty (f : FacetSet) : Bool :=
  f.leastLength.isNone && f.greatestLength.isNone && f.precision.isNone && f.scale.isNone &&
    f.least.isNone && f.greatest.isNone && f.enumeration.isNone && f.patterns.isEmpty

/-- A violation if a condition fails. -/
def violationUnless (holds : Bool) (v : FacetViolation) : List FacetViolation :=
  if holds then [] else [v]

/-- Whether a length is within its bounds. -/
def allowsLength (f : FacetSet) (n : Nat) : Bool :=
  f.leastLength.all (· ≤ n) && f.greatestLength.all (n ≤ ·)

/-- Whether a value is in an enumeration. -/
def enumerates (items : List EnumItem) (v : Atomic) : Bool :=
  items.any fun item => item.value.equal v

/-- The violations of the two facets on digits. -/
def digitViolations (f : FacetSet) (v : Atomic) : List FacetViolation :=
  match v.digits? with
  | none => []
  | some (digits, places) =>
    (f.precision.elim [] fun bound =>
        violationUnless (digits ≤ bound) (.precision v digits bound)) ++
      f.scale.elim [] fun bound => violationUnless (places ≤ bound) (.scale v places bound)

/-- The violations of the facets that only atomic values have. -/
def atomicViolations (f : FacetSet) (v : Atomic) : List FacetViolation :=
  f.digitViolations v ++
    violationUnless (f.least.all (·.allowsFromBelow v) && f.greatest.all (·.allowsFromAbove v))
      (.valueRange v) ++
    violationUnless (f.enumeration.all (enumerates · v)) (.enumeration v) ++
    violationUnless (f.patterns.isEmpty || f.patterns.any (Pattern.accepts · v.text)) (.pattern v)

/-- The facets that a value violates, each at most once. -/
def violations (f : FacetSet) (v : SimpleValue) : List FacetViolation :=
  (v.length?.elim [] fun n =>
      violationUnless (f.allowsLength n) (.length n f.leastLength f.greatestLength)) ++
    v.asAtomic?.elim [] f.atomicViolations

/-- No facet is violated. -/
def Admits (f : FacetSet) (v : SimpleValue) : Prop := f.violations v = []

end FacetSet

end Schemata
