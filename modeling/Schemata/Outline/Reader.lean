import Schemata.Json.Reader
import Schemata.Json.Record
import Schemata.Outline.Basic

/-!
# Reading outlines

The inverse of writing: what was left out comes back as absent or empty. Other fields are ignored.
-/

namespace Schemata

open Json (required optional orElse listOf)

/-- Read an element. -/
def ElementOutline.ofJson? (j : Json) : Option ElementOutline := do
  let [name, typeName, isNullable, isAbstract, isSealed, substitutes, references] ← j.record?
    ["name", "type_name", "is_nullable", "is_abstract", "is_sealed", "substitutes",
      "references"] | none
  some ⟨← required Json.string? name, ← required Json.string? typeName,
    ← required Json.bool? isNullable, ← required Json.bool? isAbstract,
    ← required Json.bool? isSealed, ← optional Json.string? substitutes,
    ← optional Json.string? references⟩

/-- Read an attribute. -/
def AttributeOutline.ofJson? (j : Json) : Option AttributeOutline := do
  let [name, typeName, isOptional, isNullable, defaultValue] ← j.record?
    ["name", "type_name", "is_optional", "is_nullable", "default_value"] | none
  some ⟨← required Json.string? name, ← required Json.string? typeName,
    ← required Json.bool? isOptional, ← required Json.bool? isNullable,
    ← optional Json.string? defaultValue⟩

/-- Read a child set whose members are read by a given function. -/
def SetOutline.read (member : Json → Option MemberOutline) (j : Json) : Option SetOutline := do
  let [kind, members] ← j.record? ["set_kind", "members"] | none
  some (.mk (← required Json.string? kind) (← required (listOf member) members))

/-- Read a member that nests no deeper than a number of levels. -/
def MemberOutline.read : Nat → Json → Option MemberOutline
  | 0, _ => none
  | levels + 1, j => do
    let [name, isOptional, element, set, item, occurs] ← j.record?
      ["member_name", "is_optional", "element", "set", "item", "occurs"] | none
    some (.mk (← required Json.string? name) (← required Json.bool? isOptional)
      (← optional ElementOutline.ofJson? element)
      (← optional (SetOutline.read (MemberOutline.read levels)) set)
      (← optional (MemberOutline.read levels) item) (← optional Json.string? occurs))

/-- Read a child set. Its members nest no deeper than the value that it is read from. -/
def SetOutline.ofJson? (j : Json) : Option SetOutline :=
  SetOutline.read (MemberOutline.read j.depth) j

/-- Read a facet. -/
def facetOfJson? (j : Json) : Option (String × String) := do
  let [keyword, text] ← j.items? | none
  some (← keyword.string?, ← text.string?)

/-- Read a type. -/
def TypeOutline.ofJson? (j : Json) : Option TypeOutline := do
  let [name, kind, base, derivation, isAbstract, isSealed, facets, itemType, attributes,
      simpleContent, children] ← j.record?
    ["name", "type_kind", "base", "derivation", "is_abstract", "is_sealed", "facets", "item_type",
      "attributes", "simple_content", "children"] | none
  some ⟨← required Json.string? name, ← required Json.string? kind,
    ← optional Json.string? base, ← optional Json.string? derivation,
    ← required Json.bool? isAbstract, ← required Json.bool? isSealed,
    ← orElse [] (listOf facetOfJson?) facets, ← optional Json.string? itemType,
    ← orElse [] (listOf AttributeOutline.ofJson?) attributes,
    ← optional Json.string? simpleContent, ← optional SetOutline.ofJson? children⟩

/-- Read a global symbol. -/
def SymbolOutline.ofJson? (j : Json) : Option SymbolOutline := do
  match ← j.tagged? "kind" ["type", "attribute", "element"] with
  | (0, j) => (TypeOutline.ofJson? j).map type
  | (1, j) => (AttributeOutline.ofJson? j).map attr
  | (_, j) => (ElementOutline.ofJson? j).map element

/-- Read a namespace. -/
def NamespaceOutline.ofJson? (j : Json) : Option NamespaceOutline := do
  let [uri, members] ← j.record? ["uri", "members"] | none
  some ⟨← required Json.string? uri, ← required (listOf SymbolOutline.ofJson?) members⟩

namespace Outline

/-- Read an outline. -/
def ofJson? (j : Json) : Option Outline := do
  let [namespaces] ← j.record? ["namespaces"] | none
  some ⟨← required (listOf NamespaceOutline.ofJson?) namespaces⟩

/-- The bound on the nesting of a text that holds an outline. -/
def nestingBound : Nat := 127

/-- Read the outline that a text holds. -/
def read? (text : String) : Option Outline :=
  (Json.read? nestingBound text).bind ofJson?

end Outline

end Schemata
