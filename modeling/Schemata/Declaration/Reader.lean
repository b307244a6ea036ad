import Schemata.Declaration.Basic
import Schemata.Json.Reader
import Schemata.Json.Record

/-!
# Reading declarations

The JSON form of declarations. Every structure of `Schemata.Declaration.Basic` is a record, and
every choice a tagged record. `readNamespaces` reads a text that holds one namespace or an array of
them; a single namespace is tried first, because a record may be an array itself.

A text fails in one of two ways: it is no JSON, or it is JSON of another shape. Shape goes before
what follows the value, so a value of the wrong shape with junk after it has the wrong shape.
-/

namespace Schemata

open Json (required optional orElse listOf count? naturalBelow)

/-- Why a text holds no declarations. -/
inductive DeclarationFault
  | noJson
  | wrongShape
  deriving DecidableEq

/-- The wording of a reason. -/
def DeclarationFault.message : DeclarationFault → String
  | .noJson => "JsonSyntax"
  | .wrongShape => "data did not match any variant of untagged enum OneOrMany"

namespace Position

/-- Read a position. -/
def ofJson? (j : Json) : Option Position := do
  let [line, column] ← j.record? ["line", "column"] | none
  let number := naturalBelow (1 <<< 32)
  some ⟨← required number line, ← required number column⟩

end Position

/-- Read a span. -/
def Span.ofJson? (j : Json) : Option Span := do
  let [path, start, stop] ← j.record? ["file_path", "start", "end"] | none
  some ⟨← required Json.string? path, ← required Position.ofJson? start,
    ← required Position.ofJson? stop⟩

/-- Read a name. -/
def Ident.ofJson? (j : Json) : Option Ident := do
  let [text, span] ← j.record? ["value", "span"] | none
  some ⟨← required Json.string? text, ← optional Span.ofJson? span⟩

/-- Read a reference. -/
def NameRef.ofJson? (j : Json) : Option NameRef := do
  let [aliasName, name] ← j.record? ["alias", "name"] | none
  some ⟨← optional Ident.ofJson? aliasName, ← required Ident.ofJson? name⟩

/-- Read a flag, which is unset if it is missing. -/
def readFlag : Option Json → Option Bool := orElse false Json.bool?

/-! ## Attributes -/

/-- Read an attribute declared inside a type. -/
def AttributeDecl.ofJson? (j : Json) : Option AttributeDecl := do
  let [name, type, isOptional, isNullable, defaultValue, span] ← j.record?
    ["name", "type_name", "is_optional", "is_nullable", "default_value", "span"] | none
  some ⟨← required Ident.ofJson? name, ← required NameRef.ofJson? type, ← readFlag isOptional,
    ← readFlag isNullable, ← optional Json.string? defaultValue, ← optional Span.ofJson? span⟩

/-- Read the use of a global attribute. -/
def AttributeUse.ofJson? (j : Json) : Option AttributeUse := do
  let [reference, isOptional, span] ← j.record? ["reference", "is_optional", "span"] | none
  some ⟨← required NameRef.ofJson? reference, ← readFlag isOptional, ← optional Span.ofJson? span⟩

/-- Read a removal. -/
def Deletion.ofJson? (j : Json) : Option Deletion := do
  let [name, span] ← j.record? ["name", "span"] | none
  some ⟨← required Ident.ofJson? name, ← optional Span.ofJson? span⟩

/-- Read an entry of an attribute block. -/
def AttributeItem.ofJson? (j : Json) : Option AttributeItem := do
  match ← j.tagged? "member" ["local", "reference", "delete"] with
  | (0, j) => (AttributeDecl.ofJson? j).map declared
  | (1, j) => (AttributeUse.ofJson? j).map reference
  | (_, j) => (Deletion.ofJson? j).map delete

/-- Read an attribute block. -/
def AttributeBlock.ofJson? (j : Json) : Option AttributeBlock := do
  let [items, span] ← j.record? ["members", "span"] | none
  some ⟨← orElse [] (listOf AttributeItem.ofJson?) items, ← optional Span.ofJson? span⟩

/-! ## Children -/

/-- Read the kind of a set: its word, or an object with the word as its only name and nothing in
it. -/
def SetKind.ofJson? (j : Json) : Option SetKind :=
  let word := match j with
    | .string s => some s
    | .object [(s, .null)] | .object [(s, .object [])] => some s
    | _ => none
  match word with
  | some "sequence" => some .sequence
  | some "choice" => some .choice
  | _ => none

/-- Read occurrence bounds. -/
def OccursDecl.ofJson? (j : Json) : Option OccursDecl := do
  let [least, most, span] ← j.record? ["min", "max", "span"] | none
  some ⟨← required count? least, ← required count? most, ← optional Span.ofJson? span⟩

/-- Read an element declared inside a type. -/
def ElementDecl.ofJson? (j : Json) : Option ElementDecl := do
  let [name, type, isNullable, occurs, span] ← j.record?
    ["name", "type_name", "is_nullable", "occurrence", "span"] | none
  some ⟨← required Ident.ofJson? name, ← required NameRef.ofJson? type, ← readFlag isNullable,
    ← optional OccursDecl.ofJson? occurs, ← optional Span.ofJson? span⟩

/-- Read the use of a global element. -/
def ElementUse.ofJson? (j : Json) : Option ElementUse := do
  let [reference, memberName, occurs, span] ← j.record?
    ["reference", "member_name", "occurrence", "span"] | none
  some ⟨← required NameRef.ofJson? reference, ← optional Ident.ofJson? memberName,
    ← optional OccursDecl.ofJson? occurs, ← optional Span.ofJson? span⟩

/-- Read a set whose items are read by a given function. -/
def ChildSetDecl.read (item : Json → Option ChildItem) (j : Json) : Option ChildSetDecl := do
  let [kind, items, span] ← j.record? ["kind", "members", "span"] | none
  some ⟨← required SetKind.ofJson? kind, ← orElse [] (listOf item) items,
    ← optional Span.ofJson? span⟩

/-- Read an entry of a child set that nests no deeper than a number of levels. -/
def ChildItem.read : Nat → Json → Option ChildItem
  | 0, _ => none
  | levels + 1, j => do
    match ← j.tagged? "member" ["element", "reference", "set", "delete"] with
    | (0, j) => (ElementDecl.ofJson? j).map element
    | (1, j) => (ElementUse.ofJson? j).map reference
    | (2, j) =>
      let [name, inner, occurs] ← j.record? ["name", "set", "occurrence"] | none
      let name ← optional Ident.ofJson? name
      let inner ← required (ChildSetDecl.read (ChildItem.read levels)) inner
      let occurs ← optional OccursDecl.ofJson? occurs
      some (.set name inner.kind inner.items inner.span occurs)
    | (_, j) => (Deletion.ofJson? j).map delete

/-- Read a child set. Its items nest no deeper than the value that it is read from. -/
def ChildSetDecl.ofJson? (j : Json) : Option ChildSetDecl :=
  ChildSetDecl.read (ChildItem.read j.depth) j

/-- Read the children of a type. -/
def ChildrenDecl.ofJson? (j : Json) : Option ChildrenDecl := do
  match ← j.tagged? "form" ["simple", "set"] with
  | (0, j) =>
    let [type, span] ← j.record? ["type_name", "span"] | none
    some (.simple (← required NameRef.ofJson? type) (← optional Span.ofJson? span))
  | (_, j) => (ChildSetDecl.ofJson? j).map set

/-! ## Facets -/

/-- Read bounds on a length. -/
def LengthRangeDecl.ofJson? (j : Json) : Option LengthRangeDecl := do
  let [least, greatest, span] ← j.record? ["min", "max", "span"] | none
  some ⟨← optional count? least, ← optional count? greatest, ← optional Span.ofJson? span⟩

/-- Read a count. -/
def CountDecl.ofJson? (j : Json) : Option CountDecl := do
  let [value, span] ← j.record? ["value", "span"] | none
  some ⟨← required count? value, ← optional Span.ofJson? span⟩

/-- Read a bound on a value; it is inclusive if nothing else is said. -/
def BoundDecl.ofJson? (j : Json) : Option BoundDecl := do
  let [literal, isInclusive] ← j.record? ["value", "inclusive"] | none
  some ⟨← required Json.string? literal, ← orElse true Json.bool? isInclusive⟩

/-- Read bounds on a value. -/
def ValueRangeDecl.ofJson? (j : Json) : Option ValueRangeDecl := do
  let [least, greatest, span] ← j.record? ["min", "max", "span"] | none
  some ⟨← optional BoundDecl.ofJson? least, ← optional BoundDecl.ofJson? greatest,
    ← optional Span.ofJson? span⟩

/-- Read an admitted value. -/
def EnumItemDecl.ofJson? (j : Json) : Option EnumItemDecl := do
  let [name, literal, span] ← j.record? ["name", "value", "span"] | none
  some ⟨← optional Ident.ofJson? name, ← required Json.string? literal,
    ← optional Span.ofJson? span⟩

/-- Read a list of admitted values. -/
def EnumBlock.ofJson? (j : Json) : Option EnumBlock := do
  let [items, span] ← j.record? ["items", "span"] | none
  some ⟨← orElse [] (listOf EnumItemDecl.ofJson?) items, ← optional Span.ofJson? span⟩

/-- Read a pattern. -/
def PatternDecl.ofJson? (j : Json) : Option PatternDecl := do
  let [pattern, span] ← j.record? ["pattern", "span"] | none
  some ⟨← required Json.string? pattern, ← optional Span.ofJson? span⟩

/-- Read the facets of a restriction. -/
def FacetBlock.ofJson? (j : Json) : Option FacetBlock := do
  let [lengthRange, precision, scale, valueRange, enums, patterns, itemType, span] ← j.record?
    ["length_range", "precision", "scale", "value_range", "enums", "patterns", "list_item_type",
      "span"] | none
  some ⟨← optional LengthRangeDecl.ofJson? lengthRange, ← optional CountDecl.ofJson? precision,
    ← optional CountDecl.ofJson? scale, ← optional ValueRangeDecl.ofJson? valueRange,
    ← orElse [] (listOf EnumBlock.ofJson?) enums,
    ← orElse [] (listOf PatternDecl.ofJson?) patterns,
    ← optional NameRef.ofJson? itemType, ← optional Span.ofJson? span⟩

/-! ## Members of a namespace -/

/-- Read the body of a type. -/
def TypeBody.ofJson? (j : Json) : Option TypeBody := do
  match ← j.tagged? "form" ["list", "complex", "extension", "restriction"] with
  | (0, j) =>
    let [item] ← j.record? ["item"] | none
    some (.list (← required NameRef.ofJson? item))
  | (1, j) =>
    let [attributes, children] ← j.record? ["attributes", "children"] | none
    some (.complex (← optional AttributeBlock.ofJson? attributes)
      (← optional ChildrenDecl.ofJson? children))
  | (2, j) =>
    let [base, attributes, children] ← j.record? ["base", "attributes", "children"] | none
    some (.extension (← required NameRef.ofJson? base)
      (← optional AttributeBlock.ofJson? attributes) (← optional ChildrenDecl.ofJson? children))
  | (_, j) =>
    let [base, facets, attributes, children] ← j.record?
      ["base", "facets", "attributes", "children"] | none
    some (.restriction (← required NameRef.ofJson? base) (← optional FacetBlock.ofJson? facets)
      (← optional AttributeBlock.ofJson? attributes) (← optional ChildrenDecl.ofJson? children))

/-- Read the declaration of a type. -/
def TypeDecl.ofJson? (j : Json) : Option TypeDecl := do
  let [name, isAbstract, isSealed, body] ← j.record?
    ["name", "is_abstract", "is_sealed", "body"] | none
  some ⟨← required Ident.ofJson? name, ← readFlag isAbstract, ← readFlag isSealed,
    ← required TypeBody.ofJson? body⟩

/-- Read the declaration of a global attribute. -/
def GlobalAttributeDecl.ofJson? (j : Json) : Option GlobalAttributeDecl := do
  let [name, type, isNullable, defaultValue, span] ← j.record?
    ["name", "type_name", "is_nullable", "default_value", "span"] | none
  some ⟨← required Ident.ofJson? name, ← required NameRef.ofJson? type, ← readFlag isNullable,
    ← optional Json.string? defaultValue, ← optional Span.ofJson? span⟩

/-- Read the declaration of a global element. -/
def GlobalElementDecl.ofJson? (j : Json) : Option GlobalElementDecl := do
  let [name, type, isNullable, isAbstract, isSealed, substitutes, span] ← j.record?
    ["name", "type_name", "is_nullable", "is_abstract", "is_sealed", "substitutes", "span"] | none
  some ⟨← required Ident.ofJson? name, ← required NameRef.ofJson? type, ← readFlag isNullable,
    ← readFlag isAbstract, ← readFlag isSealed, ← optional NameRef.ofJson? substitutes,
    ← optional Span.ofJson? span⟩

/-- Read a member of a namespace. -/
def MemberDecl.ofJson? (j : Json) : Option MemberDecl := do
  match ← j.tagged? "member" ["type", "attribute", "element"] with
  | (0, j) => (TypeDecl.ofJson? j).map type
  | (1, j) => (GlobalAttributeDecl.ofJson? j).map attr
  | (_, j) => (GlobalElementDecl.ofJson? j).map element

/-- Read an import. -/
def ImportDecl.ofJson? (j : Json) : Option ImportDecl := do
  let [uri, aliasName, span] ← j.record? ["uri", "alias", "span"] | none
  some ⟨← required Json.string? uri, ← optional Ident.ofJson? aliasName,
    ← optional Span.ofJson? span⟩

/-- Read a namespace. -/
def NamespaceDecl.ofJson? (j : Json) : Option NamespaceDecl := do
  let [uri, span, imports, members] ← j.record? ["uri", "span", "imports", "members"] | none
  some ⟨← required Json.string? uri, ← optional Span.ofJson? span,
    ← orElse [] (listOf ImportDecl.ofJson?) imports,
    ← orElse [] (listOf MemberDecl.ofJson?) members⟩

/-- Read one namespace or a list of them. -/
def namespacesOfJson? (j : Json) : Option (List NamespaceDecl) :=
  ((NamespaceDecl.ofJson? j).map fun d => [d]).or (listOf NamespaceDecl.ofJson? j)

/-- The bound on the nesting of a text that holds declarations. -/
def nestingBound : Nat := 127

/-- Read the namespaces that a text holds. -/
def readNamespaces (text : String) : Except DeclarationFault (List NamespaceDecl) :=
  match Json.readFront nestingBound text.toList with
  | none => .error .noJson
  | some (j, rest) =>
    match namespacesOfJson? j with
    | none => .error .wrongShape
    | some ds => if rest.all Json.Token.isBlank then .ok ds else .error .noJson

end Schemata
