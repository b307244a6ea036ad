import Schemata.Declaration.Basic
import Schemata.Facets.Basic

/-!
# Narrowing facets

A restriction declares facets that narrow those of its base: bounds may only move inwards, and an
enumeration may only lose values. Patterns are different, they add up as alternatives. `narrow`
checks a block of facets against the base and lists everything that is wrong with it; only a block
without faults has a result.

The facet that names the item type of a list is checked here only for whether it applies. Its name
is resolved where types are.
-/

namespace Schemata

/-- What is wrong with a declared facet. -/
inductive NarrowingFault
  | notApplicable (facet : Facet) (kind : Kind)
  | leastLengthBelowBase (declared base : Nat)
  | greatestLengthAboveBase (declared base : Nat)
  | leastLengthAboveGreatest (least greatest : Nat)
  | precisionOutOfRange (declared : Nat)
  | scaleOutOfRange (declared : Nat)
  | precisionAboveBase (declared base : Nat)
  | scaleAboveBase (declared base : Nat)
  | scaleAbovePrecision (scale precision : Nat)
  | malformedLiteral (literal : String) (kind : Kind)
  | leastBelowBase (declared base : Bound)
  | greatestAboveBase (declared base : Bound)
  | leastAboveGreatest (least greatest : Bound)
  | duplicateItemName (name : String)
  | itemNotInBase (value : Atomic)
  | invalidPattern (pattern : String)

namespace NarrowingFault

/-- The greatest precision and the greatest scale. -/
def digitLimit : Nat := 28

/-- The code of a fault. -/
def code : NarrowingFault → Code
  | .notApplicable .. => .facetNotApplicable
  | .leastLengthBelowBase .. => .minLengthBelowBase
  | .greatestLengthAboveBase .. => .maxLengthAboveBase
  | .leastLengthAboveGreatest .. => .minLengthGreaterThanMaxLength
  | .precisionOutOfRange _ | .scaleOutOfRange _ => .invalidPrecision
  | .precisionAboveBase .. => .precisionAboveBase
  | .scaleAboveBase .. => .scaleAboveBase
  | .scaleAbovePrecision .. => .scaleGreaterThanPrecision
  | .malformedLiteral .. => .invalidAtomValueLiteral
  | .leastBelowBase .. => .minValueBelowBase
  | .greatestAboveBase .. => .maxValueAboveBase
  | .leastAboveGreatest .. => .minValueGreaterThanMaxValue
  | .duplicateItemName _ => .duplicateEnumItemName
  | .itemNotInBase _ => .enumItemNotInBase
  | .invalidPattern _ => .invalidPattern

/-- The wording of a fault. -/
def message : NarrowingFault → String
  | .notApplicable f k => s!"facet '{f.keyword}' is not applicable to {k.name} types"
  | .leastLengthBelowBase n base => s!"min length {n} is less than the base min length {base}"
  | .greatestLengthAboveBase n base =>
    s!"max length {n} is greater than the base max length {base}"
  | .leastLengthAboveGreatest n m => s!"min length {n} is greater than max length {m}"
  | .precisionOutOfRange n => s!"precision {n} is not in range 1..{digitLimit}"
  | .scaleOutOfRange n => s!"scale {n} is not in range 0..{digitLimit}"
  | .precisionAboveBase n base => s!"precision {n} is greater than the base precision {base}"
  | .scaleAboveBase n base => s!"scale {n} is greater than the base scale {base}"
  | .scaleAbovePrecision n m => s!"scale {n} is greater than precision {m}"
  | .malformedLiteral literal k => s!"'{literal}' is not a valid {k.name} value"
  | .leastBelowBase b base => s!"min value {b.text} is below the base min value {base.text}"
  | .greatestAboveBase b base => s!"max value {b.text} is above the base max value {base.text}"
  | .leastAboveGreatest b c => s!"min value {b.text} is greater than max value {c.text}"
  | .duplicateItemName name => s!"duplicate enum item name '{name}'"
  | .itemNotInBase v => s!"enum item '{v.text}' is not in the base enumeration"
  | .invalidPattern pattern => s!"invalid pattern '{pattern}': {Pattern.refusal pattern}"

/-- A fault as a diagnostic. -/
def diagnostic (f : NarrowingFault) (span : Option Span) : Diagnostic :=
  .errorAt span f.code f.message

end NarrowingFault

namespace Bound

/-- Whether `b` as a lower bound is at least as tight as `base`. -/
def narrowsLeast (base b : Bound) : Bool :=
  match b.value.compare? base.value with
  | some .gt => true
  | some .eq => base.isInclusive || !b.isInclusive
  | _ => false

/-- Whether `b` as an upper bound is at least as tight as `base`. -/
def narrowsGreatest (base b : Bound) : Bool :=
  match b.value.compare? base.value with
  | some .lt => true
  | some .eq => base.isInclusive || !b.isInclusive
  | _ => false

/-- Whether a range between two bounds has room for a value. -/
def isOrdered (least greatest : Bound) : Bool :=
  match least.value.compare? greatest.value with
  | some .lt => true
  | some .eq => least.isInclusive && greatest.isInclusive
  | _ => false

end Bound

/-- Facets that are being narrowed, with the faults so far. -/
structure Narrowing where
  result : FacetSet
  faults : List Diagnostic := []

namespace Narrowing

/-- Note a fault. -/
def fault (n : Narrowing) (f : NarrowingFault) (span : Option Span) : Narrowing :=
  { n with faults := n.faults ++ [f.diagnostic span] }

/-- Go on if a facet applies to a kind, and note a fault otherwise. -/
def whenApplies {m : Type → Type} [Monad m] (n : Narrowing) (k : Kind) (f : Facet)
    (span : Option Span) (next : Narrowing → m Narrowing) : m Narrowing :=
  if k.admits f then next n else pure (n.fault (.notApplicable f k) span)

/-! ## Lengths -/

/-- Narrow the bounds on the length. -/
def lengthRange (base : FacetSet) (d : LengthRangeDecl) (n : Narrowing) : Narrowing :=
  let n := match d.least with
    | none => n
    | some m =>
      match base.leastLength with
      | some b =>
        if m < b then n.fault (.leastLengthBelowBase m b) d.span
        else { n with result.leastLength := some m }
      | none => { n with result.leastLength := some m }
  let n := match d.greatest with
    | none => n
    | some m =>
      match base.greatestLength with
      | some b =>
        if b < m then n.fault (.greatestLengthAboveBase m b) d.span
        else { n with result.greatestLength := some m }
      | none => { n with result.greatestLength := some m }
  match n.result.leastLength, n.result.greatestLength with
  | some l, some g => if g < l then n.fault (.leastLengthAboveGreatest l g) d.span else n
  | _, _ => n

/-! ## Digits -/

/-- Narrow the number of digits. -/
def precision (base : FacetSet) (d : CountDecl) (n : Narrowing) : Narrowing :=
  if d.value < 1 ∨ NarrowingFault.digitLimit < d.value then
    n.fault (.precisionOutOfRange d.value) d.span
  else
    match base.precision with
    | some b =>
      if b < d.value then n.fault (.precisionAboveBase d.value b) d.span
      else { n with result.precision := some d.value }
    | none => { n with result.precision := some d.value }

/-- Narrow the number of digits after the point. -/
def scale (base : FacetSet) (d : CountDecl) (n : Narrowing) : Narrowing :=
  if NarrowingFault.digitLimit < d.value then n.fault (.scaleOutOfRange d.value) d.span
  else
    match base.scale with
    | some b =>
      if b < d.value then n.fault (.scaleAboveBase d.value b) d.span
      else { n with result.scale := some d.value }
    | none => { n with result.scale := some d.value }

/-- Check that there are no more digits after the point than digits. -/
def scaleWithinPrecision (span : Option Span) (n : Narrowing) : Narrowing :=
  match n.result.precision, n.result.scale with
  | some p, some s => if p < s then n.fault (.scaleAbovePrecision s p) span else n
  | _, _ => n

/-! ## Values -/

/-- Read a literal, and note a fault if it is malformed. -/
def literal (k : Kind) (text : String) (span : Option Span) (n : Narrowing) :
    Except TooLong (Option Atomic × Narrowing) := do
  match ← Atomic.read k text with
  | some v => pure (some v, n)
  | none => pure (none, n.fault (.malformedLiteral text k) span)

/-- Narrow the lower bound. -/
def leastValue (k : Kind) (base : FacetSet) (d : BoundDecl) (span : Option Span)
    (n : Narrowing) : Except TooLong Narrowing := do
  match ← n.literal k d.literal span with
  | (none, n) => pure n
  | (some v, n) =>
    let b : Bound := ⟨v, d.isInclusive⟩
    match base.least with
    | some c =>
      if c.narrowsLeast b then pure { n with result.least := some b }
      else pure (n.fault (.leastBelowBase b c) span)
    | none => pure { n with result.least := some b }

/-- Narrow the upper bound. -/
def greatestValue (k : Kind) (base : FacetSet) (d : BoundDecl) (span : Option Span)
    (n : Narrowing) : Except TooLong Narrowing := do
  match ← n.literal k d.literal span with
  | (none, n) => pure n
  | (some v, n) =>
    let b : Bound := ⟨v, d.isInclusive⟩
    match base.greatest with
    | some c =>
      if c.narrowsGreatest b then pure { n with result.greatest := some b }
      else pure (n.fault (.greatestAboveBase b c) span)
    | none => pure { n with result.greatest := some b }

/-- Narrow the range of values. -/
def valueRange (k : Kind) (base : FacetSet) (d : ValueRangeDecl) (n : Narrowing) :
    Except TooLong Narrowing := do
  let n ← match d.least with
    | some b => n.leastValue k base b d.span
    | none => pure n
  let n ← match d.greatest with
    | some b => n.greatestValue k base b d.span
    | none => pure n
  match n.result.least, n.result.greatest with
  | some l, some g =>
    pure (if Bound.isOrdered l g then n else n.fault (.leastAboveGreatest l g) d.span)
  | _, _ => pure n

/-- Add a value to an enumeration. A value that is there already stays where it is, and takes the
name if it has none. -/
def addItem (item : EnumItem) : List EnumItem → List EnumItem
  | [] => [item]
  | other :: rest =>
    if other.value.equal item.value then { other with name := other.name.or item.name } :: rest
    else other :: addItem item rest

/-- The items of one block. Names are unique within a block; an item under a taken name is left
out, as are malformed literals and values that the base does not have. -/
def enumItems (k : Kind) (base : FacetSet) (blockSpan : Option Span) :
    List EnumItemDecl → List String → List EnumItem → Narrowing →
      Except TooLong (List EnumItem × Narrowing)
  | [], _, items, n => pure (items, n)
  | d :: rest, names, items, n => do
    let span := d.span.or blockSpan
    let taken := d.name.filter fun name => names.contains name.text
    match taken with
    | some name =>
      enumItems k base blockSpan rest names items
        (n.fault (.duplicateItemName name.text) (name.span.or span))
    | none =>
      let names := (d.name.map (·.text)).toList ++ names
      match ← n.literal k d.literal span with
      | (none, n) => enumItems k base blockSpan rest names items n
      | (some v, n) =>
        if base.enumeration.all (FacetSet.enumerates · v) then
          enumItems k base blockSpan rest names (addItem ⟨v, d.name.map (·.text)⟩ items) n
        else
          enumItems k base blockSpan rest names items (n.fault (.itemNotInBase v) span)

/-- The items of several blocks. -/
def enumBlocks (k : Kind) (base : FacetSet) :
    List EnumBlock → List EnumItem → Narrowing → Except TooLong (List EnumItem × Narrowing)
  | [], items, n => pure (items, n)
  | b :: rest, items, n => do
    let (items, n) ← enumItems k base b.span b.items [] items n
    enumBlocks k base rest items n

/-- Narrow the enumeration to the declared values. -/
def enumeration (k : Kind) (base : FacetSet) (blocks : List EnumBlock) (n : Narrowing) :
    Except TooLong Narrowing := do
  let (items, n) ← enumBlocks k base blocks [] n
  pure { n with result.enumeration := some items }

/-! ## Patterns -/

/-- Add a pattern to those that are there. -/
def pattern (n : Narrowing) (d : PatternDecl) : Narrowing :=
  if !Pattern.isValid d.pattern then n.fault (.invalidPattern d.pattern) d.span
  else if n.result.patterns.contains d.pattern then n
  else { n with result.patterns := n.result.patterns ++ [d.pattern] }

end Narrowing

/-- Take a declared facet into account, if it is declared. -/
def Narrowing.declared {α : Type} (n : Narrowing) (d : Option α)
    (next : α → Narrowing → Except TooLong Narrowing) : Except TooLong Narrowing :=
  match d with
  | none => pure n
  | some a => next a n

/-- Narrow facets by a declared block. The faults come in the order of the facets. -/
def narrowing (k : Kind) (base : FacetSet) (block : FacetBlock) : Except TooLong Narrowing := do
  let placed (span : Option Span) := span.or block.span
  let n : Narrowing := { result := base }
  let n ← n.declared block.lengthRange fun d n =>
    n.whenApplies k .lengthRange (placed d.span) fun n => pure (n.lengthRange base d)
  let n ← n.declared block.precision fun d n =>
    n.whenApplies k .precision (placed d.span) fun n => pure (n.precision base d)
  let n ← n.declared block.scale fun d n =>
    n.whenApplies k .scale (placed d.span) fun n => pure (n.scale base d)
  let n := n.scaleWithinPrecision (placed (block.scale.bind (·.span)))
  let n ← n.declared block.valueRange fun d n =>
    n.whenApplies k .valueRange (placed d.span) fun n => n.valueRange k base d
  let n ← n.declared block.enums.head? fun d n =>
    n.whenApplies k .enumeration (placed d.span) fun n => n.enumeration k base block.enums
  let n ← n.declared block.patterns.head? fun d n =>
    n.whenApplies k .pattern (placed d.span) fun n =>
      pure (block.patterns.foldl Narrowing.pattern n)
  n.declared block.itemType fun r n => n.whenApplies k .listItemType (placed r.span) pure

/-- The facets of a restriction, or everything that is wrong with its block. -/
def narrow (k : Kind) (base : FacetSet) (block : FacetBlock) :
    Except TooLong (Except (List Diagnostic) FacetSet) := do
  let n ← narrowing k base block
  pure (if n.faults.isEmpty then .ok n.result else .error n.faults)

end Schemata
