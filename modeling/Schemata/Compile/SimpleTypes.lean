import Schemata.Compile.Types
import Schemata.Facets.Narrowing

/-!
# Content of simple types

A list type has the type of its items. A restriction of a simple type has the facets of its base,
narrowed by those that it declares, and if it is a list type possibly a narrower item type. Neither
attributes nor children are allowed there.

Default values are literals of simple types, and reading one needs the content of the type. So the
content may be asked for before its turn; `ensureSimple` makes it then, after that of the types
above. None of these may be in the making at that time.
-/

namespace Schemata

/-- The place of declared children. -/
def ChildrenDecl.span : ChildrenDecl → Option Span
  | .simple type span => span.or type.span
  | .set d => d.span

/-- Narrow the item type of a list type. -/
def restrictItem (c : Catalog) (limits : Limits) (scope : Scope) (base : Option TypeId)
    (r : NameRef) : Build (Option TypeId) := do
  let item ← simpleTypeOf c limits scope r
  let s ← Build.schema
  match base with
  | none => return some item
  | some baseItem =>
    if s.derives item baseItem then return some item
    else
      let types := ((s.typeDef item).fullName, (s.typeDef baseItem).fullName)
      Build.note ((Fault.itemTypeWidens types.1 types.2).diagnostic r.span)
      return some baseItem

/-- The content of a restriction of a simple type. -/
def restrictSimple (c : Catalog) (limits : Limits) (scope : Scope) (kind : Kind)
    (base : SimpleContent) (facets : Option FacetBlock) (attributes : Option AttributeBlock)
    (children : Option ChildrenDecl) : Build SimpleContent := do
  if attributes.isSome || children.isSome then
    let span := (attributes.bind (·.span)).or (children.bind (·.span))
    Build.note (Fault.contentOnSimpleType.diagnostic span)
  match facets with
  | none => return base
  | some block =>
    let narrowed ← match ← Build.reading (narrow kind (base.facets.getD {}) block) with
      | .ok f => pure (some f)
      | .error ds => do
        ds.forM Build.note
        pure base.facets
    match block.itemType with
    | some r =>
      if kind.isList then
        return ⟨narrowed, ← restrictItem c limits scope base.item r⟩
      else return ⟨narrowed, base.item⟩
    | none => return ⟨narrowed, base.item⟩

/-- The content of a simple type. -/
def simpleContent (c : Catalog) (limits : Limits) (scope : Scope) (kind : Kind)
    (base : SimpleContent) (body : TypeBody) : Build SimpleContent := do
  match body with
  | .list item => return { item := some (← simpleTypeOf c limits scope item) }
  | .restriction _ facets attributes children =>
    restrictSimple c limits scope kind base facets attributes children
  | .complex _ _ | .extension _ _ _ => return base

/-- Give a simple type its content, when its base has it. -/
def finishSimple (c : Catalog) (limits : Limits) (id : TypeId) : Build Unit := do
  match ((← get).origin? id).bind (c.getAs? (·.asType?)) with
  | none => Build.internal (.declarationExpected "type")
  | some (d, t) =>
    let s ← Build.schema
    let base := ((s.typeDef id).base.bind fun b => (s.typeDef b).asSimple?).getD {}
    modify (·.openType id)
    let content ← simpleContent c limits d.scope (s.typeDef id).kind base t.body
    modify (·.finish id (.simple content))

/-- Give a simple type its content, and before that those above it. -/
def ensureSimple (c : Catalog) (limits : Limits) (id : TypeId) : Build Unit := do
  let b ← get
  let unfinished := (b.schema.baseChain id).takeWhile (!b.isFinished ·)
  if unfinished.any b.openTypes.contains then Build.internal .contentReentered
  else unfinished.reverse.forM (finishSimple c limits)

/-- The default value that a literal stands for. A literal that is malformed or violates a facet is
recorded as a fault, and there is no default value then. -/
def defaultValue (c : Catalog) (limits : Limits) (type : TypeId) (literal : Option String)
    (span : Option Span) : Build (Option SimpleValue) := do
  match literal with
  | none => return none
  | some literal =>
    if !((← Build.schema).typeDef type).kind.isSimple then return none
    ensureSimple c limits type
    let s ← Build.schema
    let name := (s.typeDef type).fullName
    match ← Build.reading (s.readValue type literal) with
    | none =>
      Build.note ((Fault.malformedDefault literal name).diagnostic span)
      return none
    | some v =>
      match s.failures type v with
      | [] => return some v
      | violation :: _ =>
        Build.note ((Fault.invalidDefault literal name violation).diagnostic span)
        return none

end Schemata
