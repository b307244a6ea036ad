import Schemata.Declaration.Writer
import Schemata.Schema.Basic

/-!
# Outlines

The outline of a schema is a plain view of it for other programs to read: every declared namespace
with its members in the order of declaration, where symbols are named instead of numbered. Types,
facets and default values appear as text.
-/

namespace Schemata

/-- The outline of an element. -/
structure ElementOutline where
  name : String
  typeName : String
  isNullable : Bool
  isAbstract : Bool
  isSealed : Bool
  substitutes : Option String := none
  references : Option String := none
  deriving DecidableEq

/-- The outline of an attribute. -/
structure AttributeOutline where
  name : String
  typeName : String
  isOptional : Bool
  isNullable : Bool
  defaultValue : Option String := none
  deriving DecidableEq

mutual

/-- The outline of a member of a child set: an element, a set, or the item and the bounds of a
list. -/
inductive MemberOutline
  | mk (name : String) (isOptional : Bool) (element : Option ElementOutline)
      (set : Option SetOutline) (item : Option MemberOutline) (occurs : Option String)

/-- The outline of a child set. -/
inductive SetOutline
  | mk (kind : String) (members : List MemberOutline)

end

/-- The outline of a type. -/
structure TypeOutline where
  name : String
  kind : String
  base : Option String := none
  derivation : Option String := none
  isAbstract : Bool
  isSealed : Bool
  /-- Facets as keywords with texts. -/
  facets : List (String × String) := []
  itemType : Option String := none
  attributes : List AttributeOutline := []
  simpleContent : Option String := none
  children : Option SetOutline := none

/-- The outline of a global symbol. -/
inductive SymbolOutline
  | type (t : TypeOutline)
  | attr (a : AttributeOutline)
  | element (e : ElementOutline)

/-- The outline of a namespace. -/
structure NamespaceOutline where
  uri : String
  members : List SymbolOutline

/-- The outline of a schema. -/
structure Outline where
  namespaces : List NamespaceOutline

/-! ## Facets -/

/-- A facet with a text, if it is set. -/
def facetOutline (keyword : String) : Option String → List (String × String)
  | none => []
  | some text => [(keyword, text)]

/-- The text of a value of an enumeration, with its display name if it has one. -/
def EnumItem.text (item : EnumItem) : String :=
  match item.name with
  | some name => s!"{item.value.text} as {name}"
  | none => item.value.text

/-- The outline of facets. -/
def FacetSet.outline (f : FacetSet) : List (String × String) :=
  facetOutline "min_length" (f.leastLength.map toString) ++
    facetOutline "max_length" (f.greatestLength.map toString) ++
    facetOutline "precision" (f.precision.map toString) ++
    facetOutline "scale" (f.scale.map toString) ++
    facetOutline "min_value" (f.least.map Bound.text) ++
    facetOutline "max_value" (f.greatest.map Bound.text) ++
    ((f.enumeration.getD []).map fun item => ("enum", item.text)) ++
    f.patterns.map fun pattern => ("pattern", pattern)

/-! ## Symbols -/

namespace Schema

/-- The outline of an attribute. -/
def attributeOutline (s : Schema) (a : Attribute) : AttributeOutline :=
  { name := a.fullName.text
    typeName := s.typeName a.type
    isOptional := a.isOptional
    isNullable := a.isNullable
    defaultValue := a.defaultValue.map (·.text) }

/-- The outline of an element. -/
def elementOutline (s : Schema) (e : Element) : ElementOutline :=
  { name := e.fullName.text
    typeName := s.typeName e.type
    isNullable := e.isNullable
    isAbstract := e.isAbstract
    isSealed := e.isSealed
    substitutes := e.substituted.map s.elementName
    references := e.referenced.map s.elementName }

mutual

/-- The outline of a member. -/
def memberOutline (s : Schema) : Member → MemberOutline
  | .element label e isOptional =>
    .mk label.name isOptional (some (s.elementOutline e)) none none none
  | .set label kind members span =>
    .mk label.name (Member.set label kind members span).isOptional none
      (some (.mk kind.text (memberOutlines s members))) none none
  | .list label item occurs =>
    .mk label.name occurs.isEmptiable none none (some (memberOutline s item)) (some occurs.text)

/-- The outlines of several members. -/
def memberOutlines (s : Schema) : List Member → List MemberOutline
  | [] => []
  | m :: ms => memberOutline s m :: memberOutlines s ms

end

/-- The outline of a child set. -/
def setOutline (s : Schema) (set : ChildSet) : SetOutline :=
  .mk set.kind.text (s.memberOutlines set.members)

/-- The outline of a type without its content. -/
def headerOutline (s : Schema) (t : TypeDef) : TypeOutline :=
  { name := t.fullName.text
    kind := t.kind.name
    base := t.base.map s.typeName
    derivation := match t.derivation with
      | .implicit => none
      | .extension => some "extension"
      | .restriction => some "restriction"
    isAbstract := t.isAbstract
    isSealed := t.isSealed }

/-- The outline of a type. -/
def typeOutline (s : Schema) (t : TypeDef) : TypeOutline :=
  match t.content with
  | .simple c =>
    { s.headerOutline t with
      facets := (c.facets.map FacetSet.outline).getD []
      itemType := c.item.map s.typeName }
  | .complex c =>
    { s.headerOutline t with
      attributes := (c.attributes.getD []).map s.attributeOutline
      simpleContent := match c.children with
        | some (.simple type) => some (s.typeName type)
        | _ => none
      children := c.childSet?.map s.setOutline }

/-- The outline of a global symbol, if the schema has the number. -/
def symbolOutline? (s : Schema) : SymbolId → Option SymbolOutline
  | .type id => some (.type (s.typeOutline (s.typeDef id)))
  | .attr id => (s.attribute? id).map fun a => .attr (s.attributeOutline a)
  | .element id => (s.element? id).map fun e => .element (s.elementOutline e)

/-- The outline of a schema. The built-in types are left out. -/
def outline (s : Schema) : Outline :=
  ⟨(s.namespaces.filter (·.uri != FullName.systemUri)).map fun ns =>
    ⟨ns.uri, ns.members.filterMap fun (_, id) => s.symbolOutline? id⟩⟩

end Schema

end Schemata
