import Schemata.Compile.Attributes
import Schemata.Compile.Members

/-!
# Content of complex types

A type that declares everything itself has what it declares. An extension has what its base has and
more: attributes after those of the base, and members at the end of the set of the base. If its base
is a simple type, it has a value of that type as its content. A restriction has what its block keeps
of the base; without a block for attributes or for children, it has those of the base.
-/

namespace Schemata

/-- The children that a type declares without inheriting any. -/
def makeChildren (c : Catalog) (limits : Limits) (scope : Scope) (d : ChildrenDecl) :
    Build Children := do
  match d with
  | .simple type _ => return .simple (← simpleTypeOf c limits scope type)
  | .set s => return .set ⟨s.kind, ← addMembers c limits scope s.items [], s.span⟩

/-- The content of a type that declares everything itself. -/
def ownContent (c : Catalog) (limits : Limits) (scope : Scope)
    (attributes : Option AttributeBlock) (children : Option ChildrenDecl) :
    Build ComplexContent := do
  let attributes ← attributes.mapM fun block => addAttributes c limits scope block.items []
  return ⟨attributes, ← children.mapM (makeChildren c limits scope)⟩

/-- The content that an extension starts from. -/
def TypeDef.extended (t : TypeDef) (id : TypeId) : ComplexContent :=
  match t.content with
  | .complex content => content
  | .simple _ => { children := some (.simple id) }

/-- The children of an extension. -/
def extendChildren (c : Catalog) (limits : Limits) (scope : Scope) (base : Option Children)
    (d : ChildrenDecl) : Build Children := do
  match base, d with
  | none, d => makeChildren c limits scope d
  | some (.simple type), d =>
    let bySet := match d with
      | .set _ => true
      | .simple _ _ => false
    Build.note ((Fault.simpleValueExtended bySet).diagnostic d.span)
    return .simple type
  | some (.set s), .simple _ span =>
    Build.note (Fault.setExtendedBySimpleValue.diagnostic span)
    return .set s
  | some (.set s), .set d =>
    return .set { s with members := ← addMembers c limits scope d.items s.members }

/-- The content of an extension. -/
def extensionContent (c : Catalog) (limits : Limits) (scope : Scope) (base : ComplexContent)
    (attributes : Option AttributeBlock) (children : Option ChildrenDecl) :
    Build ComplexContent := do
  let attributes ← match attributes with
    | none => pure base.attributes
    | some block =>
      some <$> addAttributes c limits scope block.items (base.attributes.getD [])
  let children ← match children with
    | none => pure base.children
    | some d => some <$> extendChildren c limits scope base.children d
  return ⟨attributes, children⟩

/-- The children of a restriction. -/
def restrictChildren (c : Catalog) (limits : Limits) (scope : Scope) (base : Option Children)
    (d : ChildrenDecl) : Build (Option Children) := do
  match base, d with
  | none, d =>
    Build.note (Fault.noRestrictedChildren.diagnostic d.span)
    return none
  | some (.simple base), .simple r _ =>
    let type ← simpleTypeOf c limits scope r
    let s ← Build.schema
    if s.derives type base then return some (.simple type)
    else
      Build.note ((Fault.simpleValueWidens r (s.typeDef base).fullName).diagnostic r.span)
      return some (.simple base)
  | some (.set base), .set d =>
    if base.kind = d.kind then
      let r ← restrictEachMember c limits scope base.kind base.members 0 d.items {}
      let members ← finishRestriction base.kind base.members d.span r
      return some (.set ⟨base.kind, members, d.span.or base.span⟩)
    else
      Build.note (Fault.childrenDiffer.diagnostic d.span)
      return some (.set base)
  | some base, d =>
    Build.note (Fault.childrenDiffer.diagnostic d.span)
    return some base

/-- The content of a restriction of a complex type. -/
def restrictionContent (c : Catalog) (limits : Limits) (scope : Scope) (base : ComplexContent)
    (facets : Option FacetBlock) (attributes : Option AttributeBlock)
    (children : Option ChildrenDecl) : Build ComplexContent := do
  match facets with
  | none => pure ()
  | some block => Build.note (Fault.facetsOnComplexType.diagnostic block.span)
  let attributes ← match attributes with
    | none => pure base.attributes
    | some block =>
      some <$> restrictAttributes c limits scope (base.attributes.getD []) block
  let children ← match children with
    | none => pure base.children
    | some d => restrictChildren c limits scope base.children d
  return ⟨attributes, children⟩

/-- The content of a complex type whose base has its content. -/
def complexContent (c : Catalog) (limits : Limits) (scope : Scope) (base : TypeId)
    (body : TypeBody) : Build ComplexContent := do
  let inherited := ((← Build.schema).typeDef base).extended base
  match body with
  | .list _ => return {}
  | .complex attributes children => ownContent c limits scope attributes children
  | .extension _ attributes children =>
    extensionContent c limits scope inherited attributes children
  | .restriction _ facets attributes children =>
    restrictionContent c limits scope inherited facets attributes children

/-- Give a complex type its content, when its base has it. -/
def finishComplex (c : Catalog) (limits : Limits) (id : TypeId) : Build Unit := do
  match ((← get).origin? id).bind (c.getAs? (·.asType?)) with
  | none => Build.internal (.declarationExpected "type")
  | some (d, t) =>
    let base := ((← Build.schema).typeDef id).base.getD Kind.complexType.typeId
    modify (·.openType id)
    let content ← complexContent c limits d.scope base t.body
    modify (·.finish id (.complex content))

end Schemata
