import Schemata.Json.Writer
import Schemata.Outline.Basic

/-!
# Writing outlines

The JSON form of an outline. What is absent is left out, and so are empty lists of facets and of
attributes; the list of members of a namespace or of a set is always there. A global symbol is
tagged with what it is.
-/

namespace Schemata

/-- A field that is left out if it is absent. -/
def fieldIfSome (name : String) : Option Json → List (String × Json)
  | none => []
  | some j => [(name, j)]

/-- A list field that is left out if it is empty. -/
def fieldUnlessEmpty (name : String) : List Json → List (String × Json)
  | [] => []
  | js => [(name, .array js)]

/-- The fields of an element. -/
def ElementOutline.fields (e : ElementOutline) : List (String × Json) :=
  [("name", .string e.name), ("type_name", .string e.typeName),
    ("is_nullable", .bool e.isNullable), ("is_abstract", .bool e.isAbstract),
    ("is_sealed", .bool e.isSealed)] ++
    fieldIfSome "substitutes" (e.substitutes.map .string) ++
    fieldIfSome "references" (e.references.map .string)

/-- The fields of an attribute. -/
def AttributeOutline.fields (a : AttributeOutline) : List (String × Json) :=
  [("name", .string a.name), ("type_name", .string a.typeName),
    ("is_optional", .bool a.isOptional), ("is_nullable", .bool a.isNullable)] ++
    fieldIfSome "default_value" (a.defaultValue.map .string)

mutual

/-- The JSON form of a member. -/
def MemberOutline.toJson : MemberOutline → Json
  | .mk name isOptional element set item occurs =>
    .object ([("member_name", .string name), ("is_optional", .bool isOptional)] ++
      fieldIfSome "element" (element.map fun e => .object e.fields) ++
      fieldIfSome "set" (setToJson? set) ++ fieldIfSome "item" (memberToJson? item) ++
      fieldIfSome "occurs" (occurs.map .string))

/-- The JSON form of a child set. -/
def SetOutline.toJson : SetOutline → Json
  | .mk kind members =>
    .object [("set_kind", .string kind), ("members", .array (membersToJson members))]

/-- The JSON forms of several members. -/
def membersToJson : List MemberOutline → List Json
  | [] => []
  | m :: ms => m.toJson :: membersToJson ms

/-- The JSON form of a member that may be absent. -/
def memberToJson? : Option MemberOutline → Option Json
  | none => none
  | some m => some m.toJson

/-- The JSON form of a set that may be absent. -/
def setToJson? : Option SetOutline → Option Json
  | none => none
  | some s => some s.toJson

end

/-- The JSON form of a facet: its keyword and its text. -/
def facetToJson (f : String × String) : Json := .array [.string f.1, .string f.2]

/-- The fields of a type. -/
def TypeOutline.fields (t : TypeOutline) : List (String × Json) :=
  [("name", .string t.name), ("type_kind", .string t.kind)] ++
    fieldIfSome "base" (t.base.map .string) ++
    fieldIfSome "derivation" (t.derivation.map .string) ++
    [("is_abstract", .bool t.isAbstract), ("is_sealed", .bool t.isSealed)] ++
    fieldUnlessEmpty "facets" (t.facets.map facetToJson) ++
    fieldIfSome "item_type" (t.itemType.map .string) ++
    fieldUnlessEmpty "attributes" (t.attributes.map fun a => .object a.fields) ++
    fieldIfSome "simple_content" (t.simpleContent.map .string) ++
    fieldIfSome "children" (t.children.map SetOutline.toJson)

/-- The JSON form of a global symbol. -/
def SymbolOutline.toJson : SymbolOutline → Json
  | .type t => .withTag "kind" "type" t.fields
  | .attr a => .withTag "kind" "attribute" a.fields
  | .element e => .withTag "kind" "element" e.fields

/-- The JSON form of a namespace. -/
def NamespaceOutline.toJson (ns : NamespaceOutline) : Json :=
  .object [("uri", .string ns.uri), ("members", .array (ns.members.map SymbolOutline.toJson))]

namespace Outline

/-- The JSON form of an outline. -/
def toJson (o : Outline) : Json :=
  .object [("namespaces", .array (o.namespaces.map NamespaceOutline.toJson))]

/-- The text of an outline, over several lines or without blanks. -/
def text (o : Outline) (pretty : Bool) : String :=
  if pretty then o.toJson.pretty else o.toJson.compact

end Outline

end Schemata
