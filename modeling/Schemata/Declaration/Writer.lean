import Schemata.Declaration.Basic
import Schemata.Json.Record

/-!
# Writing declarations

The JSON form of declarations with every field present: what is absent is null, and empty lists
are empty arrays. Reading gives the declarations back.
-/

namespace Schemata

open Json (orNull)

/-- A natural number in JSON. -/
def Json.ofNat (n : Nat) : Json := .integer n

/-- A tagged record in JSON, with the tag first. -/
def Json.withTag (tag variant : String) (fields : List (String × Json)) : Json :=
  .object ((tag, .string variant) :: fields)

/-- The JSON form of a position. -/
def Position.toJson (p : Position) : Json :=
  .object [("line", .ofNat p.line), ("column", .ofNat p.column)]

/-- The JSON form of a span. -/
def Span.toJson (s : Span) : Json :=
  .object [("file_path", .string s.path), ("start", s.start.toJson), ("end", s.stop.toJson)]

/-- The JSON form of a name. -/
def Ident.toJson (i : Ident) : Json :=
  .object [("value", .string i.text), ("span", orNull Span.toJson i.span)]

/-- The JSON form of a reference. -/
def NameRef.toJson (r : NameRef) : Json :=
  .object [("alias", orNull Ident.toJson r.aliasName), ("name", r.name.toJson)]

/-! ## Attributes -/

/-- The JSON form of an entry of an attribute block. -/
def AttributeItem.toJson : AttributeItem → Json
  | .declared d => .withTag "member" "local"
    [("name", d.name.toJson), ("type_name", d.type.toJson), ("is_optional", .bool d.isOptional),
      ("is_nullable", .bool d.isNullable), ("default_value", orNull .string d.defaultValue),
      ("span", orNull Span.toJson d.span)]
  | .reference u => .withTag "member" "reference"
    [("reference", u.reference.toJson), ("is_optional", .bool u.isOptional),
      ("span", orNull Span.toJson u.span)]
  | .delete d => .withTag "member" "delete"
    [("name", d.name.toJson), ("span", orNull Span.toJson d.span)]

/-- The JSON form of an attribute block. -/
def AttributeBlock.toJson (b : AttributeBlock) : Json :=
  .object [("members", .array (b.items.map AttributeItem.toJson)),
    ("span", orNull Span.toJson b.span)]

/-! ## Children -/

/-- The word for the kind of a set. -/
def SetKind.text : SetKind → String
  | .sequence => "sequence"
  | .choice => "choice"

/-- The JSON form of occurrence bounds. -/
def OccursDecl.toJson (o : OccursDecl) : Json :=
  .object [("min", .ofNat o.least), ("max", .ofNat o.most), ("span", orNull Span.toJson o.span)]

/-- The fields of a set whose items are written. -/
def childSetFields (kind : SetKind) (items : List Json) (span : Option Span) :
    List (String × Json) :=
  [("kind", .string kind.text), ("members", .array items), ("span", orNull Span.toJson span)]

mutual

/-- The JSON form of an entry of a child set. -/
def ChildItem.toJson : ChildItem → Json
  | .element d => .withTag "member" "element"
    [("name", d.name.toJson), ("type_name", d.type.toJson), ("is_nullable", .bool d.isNullable),
      ("occurrence", orNull OccursDecl.toJson d.occurs), ("span", orNull Span.toJson d.span)]
  | .reference u => .withTag "member" "reference"
    [("reference", u.reference.toJson), ("member_name", orNull Ident.toJson u.memberName),
      ("occurrence", orNull OccursDecl.toJson u.occurs), ("span", orNull Span.toJson u.span)]
  | .set name kind items span occurs => .withTag "member" "set"
    [("name", orNull Ident.toJson name),
      ("set", .object (childSetFields kind (childItemsToJson items) span)),
      ("occurrence", orNull OccursDecl.toJson occurs)]
  | .delete d => .withTag "member" "delete"
    [("name", d.name.toJson), ("span", orNull Span.toJson d.span)]

/-- The JSON forms of the entries of a child set. -/
def childItemsToJson : List ChildItem → List Json
  | [] => []
  | item :: rest => item.toJson :: childItemsToJson rest

end

/-- The JSON form of the children of a type. -/
def ChildrenDecl.toJson : ChildrenDecl → Json
  | .simple type span => .withTag "form" "simple"
    [("type_name", type.toJson), ("span", orNull Span.toJson span)]
  | .set d => .withTag "form" "set" (childSetFields d.kind (childItemsToJson d.items) d.span)

/-! ## Facets -/

/-- The JSON form of bounds on a length. -/
def LengthRangeDecl.toJson (d : LengthRangeDecl) : Json :=
  .object [("min", orNull Json.ofNat d.least), ("max", orNull Json.ofNat d.greatest),
    ("span", orNull Span.toJson d.span)]

/-- The JSON form of a count. -/
def CountDecl.toJson (d : CountDecl) : Json :=
  .object [("value", .ofNat d.value), ("span", orNull Span.toJson d.span)]

/-- The JSON form of a bound on a value. -/
def BoundDecl.toJson (d : BoundDecl) : Json :=
  .object [("value", .string d.literal), ("inclusive", .bool d.isInclusive)]

/-- The JSON form of bounds on a value. -/
def ValueRangeDecl.toJson (d : ValueRangeDecl) : Json :=
  .object [("min", orNull BoundDecl.toJson d.least), ("max", orNull BoundDecl.toJson d.greatest),
    ("span", orNull Span.toJson d.span)]

/-- The JSON form of an admitted value. -/
def EnumItemDecl.toJson (d : EnumItemDecl) : Json :=
  .object [("name", orNull Ident.toJson d.name), ("value", .string d.literal),
    ("span", orNull Span.toJson d.span)]

/-- The JSON form of a list of admitted values. -/
def EnumBlock.toJson (d : EnumBlock) : Json :=
  .object [("items", .array (d.items.map EnumItemDecl.toJson)),
    ("span", orNull Span.toJson d.span)]

/-- The JSON form of a pattern. -/
def PatternDecl.toJson (d : PatternDecl) : Json :=
  .object [("pattern", .string d.pattern), ("span", orNull Span.toJson d.span)]

/-- The JSON form of the facets of a restriction. -/
def FacetBlock.toJson (b : FacetBlock) : Json :=
  .object [("length_range", orNull LengthRangeDecl.toJson b.lengthRange),
    ("precision", orNull CountDecl.toJson b.precision),
    ("scale", orNull CountDecl.toJson b.scale),
    ("value_range", orNull ValueRangeDecl.toJson b.valueRange),
    ("enums", .array (b.enums.map EnumBlock.toJson)),
    ("patterns", .array (b.patterns.map PatternDecl.toJson)),
    ("list_item_type", orNull NameRef.toJson b.itemType),
    ("span", orNull Span.toJson b.span)]

/-! ## Members of a namespace -/

/-- The JSON form of the body of a type. -/
def TypeBody.toJson : TypeBody → Json
  | .list item => .withTag "form" "list" [("item", item.toJson)]
  | .complex attributes children => .withTag "form" "complex"
    [("attributes", orNull AttributeBlock.toJson attributes),
      ("children", orNull ChildrenDecl.toJson children)]
  | .extension base attributes children => .withTag "form" "extension"
    [("base", base.toJson), ("attributes", orNull AttributeBlock.toJson attributes),
      ("children", orNull ChildrenDecl.toJson children)]
  | .restriction base facets attributes children => .withTag "form" "restriction"
    [("base", base.toJson), ("facets", orNull FacetBlock.toJson facets),
      ("attributes", orNull AttributeBlock.toJson attributes),
      ("children", orNull ChildrenDecl.toJson children)]

/-- The JSON form of a member of a namespace. -/
def MemberDecl.toJson : MemberDecl → Json
  | .type d => .withTag "member" "type"
    [("name", d.name.toJson), ("is_abstract", .bool d.isAbstract),
      ("is_sealed", .bool d.isSealed), ("body", d.body.toJson)]
  | .attr d => .withTag "member" "attribute"
    [("name", d.name.toJson), ("type_name", d.type.toJson), ("is_nullable", .bool d.isNullable),
      ("default_value", orNull .string d.defaultValue), ("span", orNull Span.toJson d.span)]
  | .element d => .withTag "member" "element"
    [("name", d.name.toJson), ("type_name", d.type.toJson), ("is_nullable", .bool d.isNullable),
      ("is_abstract", .bool d.isAbstract), ("is_sealed", .bool d.isSealed),
      ("substitutes", orNull NameRef.toJson d.substitutes), ("span", orNull Span.toJson d.span)]

/-- The JSON form of an import. -/
def ImportDecl.toJson (d : ImportDecl) : Json :=
  .object [("uri", .string d.uri), ("alias", orNull Ident.toJson d.aliasName),
    ("span", orNull Span.toJson d.span)]

/-- The JSON form of a namespace. -/
def NamespaceDecl.toJson (d : NamespaceDecl) : Json :=
  .object [("uri", .string d.uri), ("span", orNull Span.toJson d.span),
    ("imports", .array (d.imports.map ImportDecl.toJson)),
    ("members", .array (d.members.map MemberDecl.toJson))]

/-- The JSON form of several namespaces. -/
def namespacesToJson (ds : List NamespaceDecl) : Json :=
  .array (ds.map NamespaceDecl.toJson)

end Schemata
