import Schemata.Schema.Basic
import Schemata.Text.Blank

/-!
# Values of simple types

A literal of an atomic type is read as its kind requires. A literal of a list type is read item by
item between white space, as the kind of the item type requires. Reading does not look at facets;
`failures` does, for a value and for its items.
-/

namespace Schemata.Schema

/-- Read every literal as a value of a kind. -/
def readAll (k : Kind) : List String → Except TooLong (Option (List SimpleValue))
  | [] => pure (some [])
  | literal :: rest => do
    match ← Atomic.read k literal with
    | none => pure none
    | some v => pure ((← readAll k rest).map (.atomic v :: ·))

/-- The kind of the items of a list type, if they are atomic. -/
def itemKind? (s : Schema) (t : TypeDef) : Option Kind := do
  let item ← t.item?
  let k := (s.typeDef item).kind
  if k.isAtomic then some k else none

/-- Read a literal as a value of a simple type. -/
def readValue (s : Schema) (id : TypeId) (literal : String) :
    Except TooLong (Option SimpleValue) := do
  let t := s.typeDef id
  if t.kind.isAtomic then
    pure ((← Atomic.read t.kind literal).map .atomic)
  else if t.kind.isList then
    match s.itemKind? t with
    | none => pure none
    | some k => pure ((← readAll k ((Text.words literal.toList).map String.ofList)).map .list)
  else pure none

mutual

/-- The facets that a value of a simple type violates, those of the type before those of the item
type for each item. -/
def failures (s : Schema) (id : TypeId) : SimpleValue → List FacetViolation
  | .atomic v => (s.typeDef id).facets?.elim [] (·.violations (.atomic v))
  | .list items =>
    (s.typeDef id).facets?.elim [] (·.violations (.list items)) ++
      match (s.typeDef id).item? with
      | none => []
      | some item => itemFailures s item items

/-- The facets of an item type that the items violate. -/
def itemFailures (s : Schema) (item : TypeId) : List SimpleValue → List FacetViolation
  | [] => []
  | v :: vs => failures s item v ++ itemFailures s item vs

end

end Schemata.Schema
