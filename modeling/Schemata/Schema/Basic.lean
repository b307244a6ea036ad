import Schemata.Facets.Basic
import Schemata.Kind
import Schemata.Schema.Children

/-!
# Schemas

A schema holds every type, global attribute and global element by number, and finds those with a
name by namespace. It starts with the built-in types, one of each kind in the order of `Kind.all`,
which make up the first namespace. The content of a type is what its values have in effect, with
everything that it inherits.
-/

namespace Schemata

/-- How a type comes from its base. -/
inductive Derivation
  /-- A built-in root, or a type that derives from a root without saying so. -/
  | implicit
  /-- The base with more attributes and children. -/
  | extension
  /-- The base with fewer values. -/
  | restriction
  deriving DecidableEq

/-- The word for a derivation. -/
def Derivation.text : Derivation → String
  | .implicit => "None"
  | .extension => "Extension"
  | .restriction => "Restriction"

/-- What values of a simple type are. -/
structure SimpleContent where
  facets : Option FacetSet := none
  /-- The type of the items, if the type is a list type. -/
  item : Option TypeId := none

/-- What objects of a complex type have. -/
structure ComplexContent where
  attributes : Option (List Attribute) := none
  children : Option Children := none

/-- The content of a type. -/
inductive Content
  | simple (c : SimpleContent)
  | complex (c : ComplexContent)

/-- A type of a schema. -/
structure TypeDef where
  fullName : FullName
  /-- The kind of values; complex types all have the same. -/
  kind : Kind
  /-- Every type but the two topmost roots has a base. -/
  base : Option TypeId
  derivation : Derivation
  isAbstract : Bool
  isSealed : Bool
  content : Content
  span : Option Span

/-- The content that types of a kind have before anything is declared for them. -/
def Kind.emptyContent (k : Kind) : Content :=
  if k.isComplex then .complex {} else .simple {}

/-- The number of the built-in type of a kind. -/
def Kind.typeId (k : Kind) : TypeId := ⟨k.rank⟩

/-- The built-in type of a kind. -/
def Kind.builtin (k : Kind) : TypeDef :=
  { fullName := .system k.name
    kind := k
    base := k.base.map Kind.typeId
    derivation := if k.base.isSome then .restriction else .implicit
    isAbstract := !k.isAtomic
    isSealed := false
    content := k.emptyContent
    span := none }

namespace TypeDef

instance : Inhabited TypeDef := ⟨Kind.complexType.builtin⟩

/-- Whether the type is built in. -/
def isSystem (t : TypeDef) : Bool := t.fullName.isSystem

/-- The content of a simple type. -/
def asSimple? (t : TypeDef) : Option SimpleContent :=
  match t.content with
  | .simple c => some c
  | .complex _ => none

/-- The content of a complex type. -/
def asComplex? (t : TypeDef) : Option ComplexContent :=
  match t.content with
  | .simple _ => none
  | .complex c => some c

/-- The facets of a simple type. -/
def facets? (t : TypeDef) : Option FacetSet := t.asSimple?.bind (·.facets)

/-- The type of the items of a list type. -/
def item? (t : TypeDef) : Option TypeId := t.asSimple?.bind (·.item)

end TypeDef

/-- Whether the children are a simple value. -/
def ComplexContent.hasSimpleValue (c : ComplexContent) : Bool :=
  match c.children with
  | some (.simple _) => true
  | _ => false

/-- The root of the structural children. -/
def ComplexContent.childSet? (c : ComplexContent) : Option ChildSet :=
  match c.children with
  | some (.set s) => some s
  | _ => none

/-- The symbols of one namespace by name, in the order of their declaration. -/
structure Namespace where
  uri : String
  members : List (String × SymbolId) := []

/-- The symbol of a given name. -/
def Namespace.find? (ns : Namespace) (name : String) : Option SymbolId :=
  ns.members.lookup name

/-- A compiled schema. -/
structure Schema where
  types : Array TypeDef
  attributes : Array Attribute := #[]
  elements : Array Element := #[]
  /-- The namespaces that have symbols; the one of the built-in types comes first. -/
  namespaces : List Namespace
  /-- The heads that are substituted, each with an element that substitutes it. -/
  substitutions : List (ElementId × ElementId) := []

/-- The namespace of the built-in types. -/
def Namespace.system : Namespace :=
  ⟨FullName.systemUri, Kind.all.map fun k => (k.name, .type k.typeId)⟩

namespace Schema

/-- The schema that has the built-in types only. -/
def builtin : Schema :=
  { types := (Kind.all.map Kind.builtin).toArray, namespaces := [.system] }

/-- A type. The schema has every number that it gave out; any other stands for the root of the
complex types. -/
def typeDef (s : Schema) (id : TypeId) : TypeDef := s.types[id.index]?.getD default

/-- A global attribute, if the schema has the number. -/
def attribute? (s : Schema) (id : AttributeId) : Option Attribute := s.attributes[id.index]?

/-- A global element, if the schema has the number. -/
def element? (s : Schema) (id : ElementId) : Option Element := s.elements[id.index]?

/-- The full name of a type in a text. -/
def typeName (s : Schema) (id : TypeId) : String := (s.typeDef id).fullName.text

/-- The full name of a global element in a text. -/
def elementName (s : Schema) (id : ElementId) : String :=
  (s.element? id).elim "" (·.fullName.text)

/-- The namespace of a URI. -/
def namespace? (s : Schema) (uri : String) : Option Namespace :=
  s.namespaces.find? (·.uri == uri)

/-- The global symbol of a given name. -/
def lookup (s : Schema) (n : FullName) : Option SymbolId :=
  (s.namespace? n.uri).bind (·.find? n.name)

/-- The type of a given name. -/
def lookupType (s : Schema) (n : FullName) : Option TypeId :=
  (s.lookup n).bind (·.asType?)

/-- The global attribute of a given name. -/
def lookupAttribute (s : Schema) (n : FullName) : Option AttributeId :=
  (s.lookup n).bind (·.asAttribute?)

/-- The global element of a given name. -/
def lookupElement (s : Schema) (n : FullName) : Option ElementId :=
  (s.lookup n).bind (·.asElement?)

/-- A symbol is added to the namespaces under its name, in a namespace of its own if there is none
yet for the URI. A name that is taken keeps its symbol. -/
def addName (id : SymbolId) (n : FullName) : List Namespace → List Namespace
  | [] => [⟨n.uri, [(n.name, id)]⟩]
  | ns :: rest =>
    if ns.uri == n.uri then
      if (ns.find? n.name).isSome then ns :: rest
      else { ns with members := ns.members ++ [(n.name, id)] } :: rest
    else ns :: addName id n rest

/-- Note which head an element substitutes, if it does, unless that is noted already. -/
def addSubstitution (head : Option ElementId) (substitutor : ElementId)
    (noted : List (ElementId × ElementId)) : List (ElementId × ElementId) :=
  match head with
  | none => noted
  | some h => if noted.contains (h, substitutor) then noted else noted ++ [(h, substitutor)]

/-- Give a symbol a name. -/
def publish (s : Schema) (n : FullName) (id : SymbolId) : Schema :=
  { s with namespaces := addName id n s.namespaces }

theorem builtin_typeDef (k : Kind) : builtin.typeDef k.typeId = k.builtin := by
  cases k with
  | integer i => cases i <;> rfl
  | _ => rfl

theorem builtin_lookupType (k : Kind) : builtin.lookupType (.system k.name) = some k.typeId := by
  cases k with
  | integer i => cases i <;> decide
  | _ => decide

end Schema

end Schemata
