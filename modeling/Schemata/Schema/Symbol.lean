import Schemata.Diagnostic
import Schemata.Name
import Schemata.Value.Simple

/-!
# Symbols of a schema

A compiled schema numbers its types, its global attributes and its global elements, each from zero
in the order in which they came to be. Symbols refer to one another by these numbers.

An `Attribute` or an `Element` stands on its own, inside a type, or inside a type for a global one;
its `Standing` tells which.
-/

namespace Schemata

/-- The number of a type. -/
structure TypeId where
  index : Nat
  deriving DecidableEq, Inhabited

/-- The number of a global attribute. -/
structure AttributeId where
  index : Nat
  deriving DecidableEq, Inhabited

/-- The number of a global element. -/
structure ElementId where
  index : Nat
  deriving DecidableEq, Inhabited

/-- A type in a message. -/
def TypeId.text (id : TypeId) : String := s!"type#{id.index}"

/-- A global attribute in a message. -/
def AttributeId.text (id : AttributeId) : String := s!"attribute#{id.index}"

/-- A global element in a message. -/
def ElementId.text (id : ElementId) : String := s!"element#{id.index}"

/-- A global symbol. -/
inductive SymbolId
  | type (id : TypeId)
  | attr (id : AttributeId)
  | element (id : ElementId)
  deriving DecidableEq

namespace SymbolId

/-- The word for the sort of a symbol. -/
def sort : SymbolId → String
  | .type _ => "type"
  | .attr _ => "attribute"
  | .element _ => "element"

/-- The type that a symbol is, if it is one. -/
def asType? : SymbolId → Option TypeId
  | .type id => some id
  | _ => none

/-- The attribute that a symbol is, if it is one. -/
def asAttribute? : SymbolId → Option AttributeId
  | .attr id => some id
  | _ => none

/-- The element that a symbol is, if it is one. -/
def asElement? : SymbolId → Option ElementId
  | .element id => some id
  | _ => none

end SymbolId

/-- Where an attribute or an element is declared. -/
inductive Standing
  /-- Inside the type that has it. -/
  | inner
  /-- In a namespace. -/
  | global
  /-- In a namespace, and used inside a type. -/
  | reference
  deriving DecidableEq

/-- The word for a standing. -/
def Standing.text : Standing → String
  | .inner => "Local"
  | .global => "Global"
  | .reference => "Reference"

/-- An attribute of a type, or a global one. -/
structure Attribute where
  fullName : FullName
  standing : Standing
  type : TypeId
  isOptional : Bool
  isNullable : Bool
  defaultValue : Option SimpleValue
  /-- The global attribute that a reference stands for. -/
  referenced : Option AttributeId
  span : Option Span

namespace Attribute

/-- The name without the namespace, by which attributes of one type differ. -/
def name (a : Attribute) : String := a.fullName.name

/-- The attribute of a given name. -/
def find? (set : List Attribute) (name : String) : Option Attribute :=
  set.find? (·.name == name)

/-- Whether a set has an attribute of a given name. -/
def isIn (set : List Attribute) (name : String) : Bool := set.any (·.name == name)

theorem isSome_find? (set : List Attribute) (name : String) :
    (find? set name).isSome = isIn set name := by
  induction set with
  | nil => rfl
  | cons a set ih =>
    unfold find? isIn at ih ⊢
    cases h : a.name == name <;> simp [h, ih]

end Attribute

/-- An element of a type, or a global one. -/
structure Element where
  fullName : FullName
  standing : Standing
  type : TypeId
  isNullable : Bool
  isAbstract : Bool
  isSealed : Bool
  /-- The global element that a global element may stand in for. -/
  substituted : Option ElementId
  /-- The global element that a reference stands for. -/
  referenced : Option ElementId
  span : Option Span

/-- The name without the namespace. -/
def Element.name (e : Element) : String := e.fullName.name

end Schemata
