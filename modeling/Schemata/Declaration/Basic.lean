import Schemata.Diagnostic
import Schemata.Name

/-!
# Declarations

What the compiler consumes: the declarations of a schema as they were written. Nothing here is
resolved or checked. Names and blocks carry the place that they were read from, if it is known.

* A `NamespaceDecl` holds imports and members, which are types, attributes and elements.
* A `TypeBody` is one of the four ways to declare a type.
* An `AttributeBlock` and a `ChildrenDecl` are the two parts of the content of a complex type.
  Children nest: a `ChildItem` may be a set of items again.
* A `FacetBlock` narrows a simple type.
-/

namespace Schemata

/-! ## Names -/

/-- A name as it was written. -/
structure Ident where
  text : String
  span : Option Span := none
  deriving DecidableEq

/-- A reference to a declaration: its name, and the alias of its namespace if one is written. -/
structure NameRef where
  aliasName : Option Ident := none
  name : Ident
  deriving DecidableEq

namespace NameRef

/-- The reference that a text such as `sys:Int32` makes. -/
def ofText (text : String) : NameRef :=
  let (aliasName, name) := splitAlias text
  ⟨aliasName.map (⟨·, none⟩), ⟨name, none⟩⟩

/-- The place of the name, or else of the alias. -/
def span (r : NameRef) : Option Span :=
  r.name.span.or (r.aliasName.bind (·.span))

/-- A reference in a message. -/
def text (r : NameRef) : String :=
  match r.aliasName with
  | some a => a.text ++ ":" ++ r.name.text
  | none => r.name.text

end NameRef

/-! ## Attributes -/

/-- An attribute declared inside a type. -/
structure AttributeDecl where
  name : Ident
  type : NameRef
  isOptional : Bool := false
  isNullable : Bool := false
  defaultValue : Option String := none
  span : Option Span := none
  deriving DecidableEq

/-- The use of a global attribute inside a type. -/
structure AttributeUse where
  reference : NameRef
  isOptional : Bool := false
  span : Option Span := none
  deriving DecidableEq

/-- The removal of an inherited attribute or child. -/
structure Deletion where
  name : Ident
  span : Option Span := none
  deriving DecidableEq

/-- One entry of an attribute block. -/
inductive AttributeItem
  | declared (d : AttributeDecl)
  | reference (u : AttributeUse)
  | delete (d : Deletion)
  deriving DecidableEq

/-- The place of an entry. -/
def AttributeItem.span : AttributeItem → Option Span
  | .declared d => d.span.or d.name.span
  | .reference u => u.span.or u.reference.span
  | .delete d => d.span.or d.name.span

/-- The attributes of a type. -/
structure AttributeBlock where
  items : List AttributeItem := []
  span : Option Span := none
  deriving DecidableEq

/-! ## Children -/

/-- Whether the members of a set follow one another or exclude one another. -/
inductive SetKind
  | sequence
  | choice
  deriving DecidableEq

/-- Occurrence bounds as they were written. -/
structure OccursDecl where
  least : Nat
  most : Nat
  span : Option Span := none
  deriving DecidableEq

/-- An element declared inside a type. -/
structure ElementDecl where
  name : Ident
  type : NameRef
  isNullable : Bool := false
  occurs : Option OccursDecl := none
  span : Option Span := none
  deriving DecidableEq

/-- The use of a global element inside a type. -/
structure ElementUse where
  reference : NameRef
  memberName : Option Ident := none
  occurs : Option OccursDecl := none
  span : Option Span := none
  deriving DecidableEq

/-- One entry of a child set. -/
inductive ChildItem
  | element (d : ElementDecl)
  | reference (u : ElementUse)
  /-- A nested set. The name and the bounds belong to it as an entry, the rest to it as a set. -/
  | set (name : Option Ident) (kind : SetKind) (items : List ChildItem) (span : Option Span)
      (occurs : Option OccursDecl)
  | delete (d : Deletion)

namespace ChildItem

/-- The bounds of an entry, if they are written. -/
def occurs : ChildItem → Option OccursDecl
  | .element d => d.occurs
  | .reference u => u.occurs
  | .set _ _ _ _ o => o
  | .delete _ => none

/-- The place of an entry. -/
def span : ChildItem → Option Span
  | .element d => d.span.or d.name.span
  | .reference u => u.span.or u.reference.span
  | .set _ _ _ s _ => s
  | .delete d => d.span.or d.name.span

end ChildItem

/-- A set of children. -/
structure ChildSetDecl where
  kind : SetKind
  items : List ChildItem := []
  span : Option Span := none

/-- The children of a complex type. -/
inductive ChildrenDecl
  /-- A simple value in place of children. -/
  | simple (type : NameRef) (span : Option Span)
  | set (d : ChildSetDecl)

/-! ## Facets -/

/-- Bounds on a length. -/
structure LengthRangeDecl where
  least : Option Nat := none
  greatest : Option Nat := none
  span : Option Span := none
  deriving DecidableEq

/-- A facet whose value is a count. -/
structure CountDecl where
  value : Nat
  span : Option Span := none
  deriving DecidableEq

/-- A bound on a value, as a literal. -/
structure BoundDecl where
  literal : String
  isInclusive : Bool := true
  deriving DecidableEq

/-- Bounds on a value. -/
structure ValueRangeDecl where
  least : Option BoundDecl := none
  greatest : Option BoundDecl := none
  span : Option Span := none
  deriving DecidableEq

/-- An admitted value, as a literal, with its display name if it has one. -/
structure EnumItemDecl where
  name : Option Ident := none
  literal : String
  span : Option Span := none
  deriving DecidableEq

/-- A list of admitted values. -/
structure EnumBlock where
  items : List EnumItemDecl := []
  span : Option Span := none
  deriving DecidableEq

/-- A pattern that values may match. -/
structure PatternDecl where
  pattern : String
  span : Option Span := none
  deriving DecidableEq

/-- The facets of a restriction. -/
structure FacetBlock where
  lengthRange : Option LengthRangeDecl := none
  precision : Option CountDecl := none
  scale : Option CountDecl := none
  valueRange : Option ValueRangeDecl := none
  enums : List EnumBlock := []
  patterns : List PatternDecl := []
  itemType : Option NameRef := none
  span : Option Span := none
  deriving DecidableEq

/-! ## Members of a namespace -/

/-- How a type is declared. -/
inductive TypeBody
  | list (item : NameRef)
  | complex (attributes : Option AttributeBlock) (children : Option ChildrenDecl)
  | extension (base : NameRef) (attributes : Option AttributeBlock)
      (children : Option ChildrenDecl)
  | restriction (base : NameRef) (facets : Option FacetBlock)
      (attributes : Option AttributeBlock) (children : Option ChildrenDecl)

/-- The declaration of a type. -/
structure TypeDecl where
  name : Ident
  isAbstract : Bool := false
  isSealed : Bool := false
  body : TypeBody

/-- The declaration of a global attribute. -/
structure GlobalAttributeDecl where
  name : Ident
  type : NameRef
  isNullable : Bool := false
  defaultValue : Option String := none
  span : Option Span := none
  deriving DecidableEq

/-- The declaration of a global element. -/
structure GlobalElementDecl where
  name : Ident
  type : NameRef
  isNullable : Bool := false
  isAbstract : Bool := false
  isSealed : Bool := false
  /-- The element that this one may stand in for. -/
  substitutes : Option NameRef := none
  span : Option Span := none
  deriving DecidableEq

/-- A member of a namespace. -/
inductive MemberDecl
  | type (d : TypeDecl)
  | attr (d : GlobalAttributeDecl)
  | element (d : GlobalElementDecl)

/-- The name of a member. -/
def MemberDecl.name : MemberDecl → Ident
  | .type d => d.name
  | .attr d => d.name
  | .element d => d.name

/-- An import of a namespace. -/
structure ImportDecl where
  uri : String
  aliasName : Option Ident := none
  span : Option Span := none
  deriving DecidableEq

/-- The declaration of a namespace, or of a part of it. -/
structure NamespaceDecl where
  uri : String
  span : Option Span := none
  imports : List ImportDecl := []
  members : List MemberDecl := []

end Schemata
