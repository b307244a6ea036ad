import Schemata.Declaration.Basic

/-!
# Declarations from plain texts

Short ways to write declarations in a program: names and references are given as texts, such as
`sys:Int32`, and nothing has a place. A declaration starts with its name and gets its parts one
after another.
-/

namespace Schemata

/-- A name without a place. -/
def Ident.ofText (text : String) : Ident := { text }

namespace NamespaceDecl

/-- Import a namespace, possibly under an alias. -/
def withImport (ns : NamespaceDecl) (uri : String) (aliasName : Option String) : NamespaceDecl :=
  { ns with imports := ns.imports ++ [{ uri, aliasName := aliasName.map Ident.ofText }] }

/-- Add a member. -/
def withMember (ns : NamespaceDecl) (m : MemberDecl) : NamespaceDecl :=
  { ns with members := ns.members ++ [m] }

end NamespaceDecl

namespace TypeDecl

/-- A list type. -/
def listOf (name item : String) : TypeDecl :=
  { name := .ofText name, body := .list (.ofText item) }

/-- A complex type that inherits nothing. -/
def complexOf (name : String) : TypeDecl :=
  { name := .ofText name, body := .complex none none }

/-- An extension of a type. -/
def extensionOf (name base : String) : TypeDecl :=
  { name := .ofText name, body := .extension (.ofText base) none none }

/-- A restriction of a type. -/
def restrictionOf (name base : String) : TypeDecl :=
  { name := .ofText name, body := .restriction (.ofText base) none none none }

/-- The attributes in place of any that are there. A list type takes none. -/
def withAttributes (t : TypeDecl) (block : AttributeBlock) : TypeDecl :=
  { t with body := match t.body with
      | .list item => .list item
      | .complex _ children => .complex (some block) children
      | .extension base _ children => .extension base (some block) children
      | .restriction base facets _ children => .restriction base facets (some block) children }

/-- The children in place of any that are there. A list type takes none. -/
def withChildren (t : TypeDecl) (d : ChildrenDecl) : TypeDecl :=
  { t with body := match t.body with
      | .list item => .list item
      | .complex attributes _ => .complex attributes (some d)
      | .extension base attributes _ => .extension base attributes (some d)
      | .restriction base facets attributes _ => .restriction base facets attributes (some d) }

/-- The facets in place of any that are there. Only a restriction takes facets. -/
def withFacets (t : TypeDecl) (block : FacetBlock) : TypeDecl :=
  { t with body := match t.body with
      | .restriction base _ attributes children =>
        .restriction base (some block) attributes children
      | body => body }

end TypeDecl

namespace AttributeItem

/-- An attribute of a type. -/
def ofType (name type : String) (isOptional : Bool) : AttributeItem :=
  .declared { name := .ofText name, type := .ofText type, isOptional }

/-- The use of a global attribute. -/
def ofReference (reference : String) (isOptional : Bool) : AttributeItem :=
  .reference { reference := .ofText reference, isOptional }

/-- The removal of an attribute. -/
def ofDeleted (name : String) : AttributeItem := .delete { name := .ofText name }

end AttributeItem

/-- Add an entry to an attribute block. -/
def AttributeBlock.withItem (b : AttributeBlock) (item : AttributeItem) : AttributeBlock :=
  { b with items := b.items ++ [item] }

namespace ChildItem

/-- An element of a type. -/
def ofType (name type : String) : ChildItem :=
  .element { name := .ofText name, type := .ofText type }

/-- The use of a global element. -/
def ofReference (reference : String) : ChildItem :=
  .reference { reference := .ofText reference }

/-- A named set. -/
def ofSet (name : String) (d : ChildSetDecl) : ChildItem :=
  .set (some (.ofText name)) d.kind d.items d.span none

/-- The removal of a child. -/
def ofDeleted (name : String) : ChildItem := .delete { name := .ofText name }

/-- Bounds in place of any that are there. A removal takes none. -/
def withOccurs (least most : Nat) : ChildItem → ChildItem
  | .element d => .element { d with occurs := some { least, most } }
  | .reference u => .reference { u with occurs := some { least, most } }
  | .set name kind items span _ => .set name kind items span (some { least, most })
  | .delete d => .delete d

/-- The item with an element that may be null. Only an element of a type takes this. -/
def nullable : ChildItem → ChildItem
  | .element d => .element { d with isNullable := true }
  | item => item

end ChildItem

/-- Add an entry to a child set. -/
def ChildSetDecl.withItem (d : ChildSetDecl) (item : ChildItem) : ChildSetDecl :=
  { d with items := d.items ++ [item] }

/-- A simple value in place of children. -/
def ChildrenDecl.ofType (type : String) : ChildrenDecl := .simple (.ofText type) none

namespace FacetBlock

/-- Bounds on the length. -/
def withLength (b : FacetBlock) (least greatest : Option Nat) : FacetBlock :=
  { b with lengthRange := some { least, greatest } }

/-- The number of digits. -/
def withPrecision (b : FacetBlock) (value : Nat) : FacetBlock :=
  { b with precision := some { value } }

/-- The number of digits after the point. -/
def withScale (b : FacetBlock) (value : Nat) : FacetBlock :=
  { b with scale := some { value } }

/-- Bounds on the value. -/
def withRange (b : FacetBlock) (least greatest : Option BoundDecl) : FacetBlock :=
  { b with valueRange := some { least, greatest } }

/-- One more list of admitted values. -/
def withEnum (b : FacetBlock) (literals : List String) : FacetBlock :=
  { b with enums := b.enums ++ [{ items := literals.map fun literal => { literal } }] }

/-- One more pattern. -/
def withPattern (b : FacetBlock) (pattern : String) : FacetBlock :=
  { b with patterns := b.patterns ++ [{ pattern }] }

/-- The type of the items of a list. -/
def withItemType (b : FacetBlock) (type : String) : FacetBlock :=
  { b with itemType := some (.ofText type) }

end FacetBlock

/-- A global attribute. -/
def GlobalAttributeDecl.ofType (name type : String) : GlobalAttributeDecl :=
  { name := .ofText name, type := .ofText type }

namespace GlobalElementDecl

/-- A global element. -/
def ofType (name type : String) : GlobalElementDecl :=
  { name := .ofText name, type := .ofText type }

/-- The element that this one may stand in for. -/
def withHead (d : GlobalElementDecl) (head : String) : GlobalElementDecl :=
  { d with substitutes := some (.ofText head) }

end GlobalElementDecl

end Schemata
