import Schemata.Compile.Climb

/-!
# Type declarations

`resolveType` gives a type declaration its symbol, and before that every declaration above it. The
symbol has a kind, a base and flags, and no content yet. `typeOf` does so for the type that a
reference names.
-/

namespace Schemata

/-- The reference to the base, if one is written. -/
def TypeDecl.base? (t : TypeDecl) : Option NameRef :=
  match t.body with
  | .extension base _ _ | .restriction base _ _ _ => some base
  | .list _ | .complex _ _ => none

/-- The kind whose built-in type is the base of a type that is declared without one. -/
def TypeDecl.implicitBase (t : TypeDecl) : Kind :=
  match t.body with
  | .list _ => .listType
  | _ => .complexType

/-- Where a type declaration refers to. -/
def typeLink (c : Catalog) (id : DeclarationId) : Except Diagnostic (Link TypeId) :=
  match c.getAs? (·.asType?) id with
  | none => .error ((Fault.declarationExpected "type").diagnostic none)
  | some (d, t) =>
    match t.base? with
    | none => .ok (.root t.implicitBase.typeId)
    | some r =>
      match c.resolve d.scope r with
      | .error e => .error e
      | .ok (.builtin k) => .ok (.root k.typeId)
      | .ok (.declared up) =>
        if ((c.get? up).bind (·.asType?)).isSome then .ok (.next up)
        else .error ((Fault.baseIsNoType r).diagnostic r.span)

/-- What is wrong with a type as the base of another one. -/
def baseFaults (t : TypeDef) : List Fault :=
  (if t.isSealed then [.sealedBase t.fullName] else []) ++
    if !t.isSystem then []
    else if t.kind.isComplex then [.complexRootAsBase]
    else if t.kind.isSimpleRoot then [.simpleRootAsBase t.kind]
    else []

/-- The kind and the derivation of a declared type. -/
def TypeDecl.header (t : TypeDecl) (base : TypeDef) : Kind × Derivation :=
  match t.body with
  | .list _ => (.listType, .implicit)
  | .complex _ _ => (.complexType, .implicit)
  | .extension _ _ _ => (.complexType, .extension)
  | .restriction _ _ _ _ => (base.kind, .restriction)

/-- Make the symbol of a type whose base has one. -/
def createType (c : Catalog) (limits : Limits) (base : TypeId) (id : DeclarationId) :
    Build TypeId := do
  match c.getAs? (·.asType?) id with
  | none => Build.internal (.declarationExpected "type")
  | some (d, t) =>
    let baseDef := (← Build.schema).typeDef base
    match t.base? with
    | none => pure ()
    | some r => (baseFaults baseDef).forM fun f => Build.note (f.diagnostic r.span)
    let (kind, derivation) := t.header baseDef
    let typeId ← modifyGet (·.addType id
      { fullName := d.fullName
        kind
        base := some base
        derivation
        isAbstract := t.isAbstract
        isSealed := t.isSealed
        content := kind.emptyContent
        span := t.name.span })
    match limits.check .derivationDepth ((← Build.schema).depth typeId) with
    | .ok _ => pure ()
    | .error e => Build.note ((Fault.tooDeep d.fullName e).diagnostic t.name.span)
    return typeId

/-- The symbol of a type declaration. -/
def resolveType (c : Catalog) (limits : Limits) (id : DeclarationId) : Build TypeId := do
  let b ← get
  let circle := circleAt c fun d => d.asType?.bind (·.base?)
  let known := b.symbolAs "type" (·.asType?)
  let (root, chain) ←
    Build.orAbort (climb known (typeLink c) circle (c.declarations.size + 1) [] id)
  chain.foldlM (createType c limits) root

/-- The type that a reference names. -/
def typeOf (c : Catalog) (limits : Limits) (scope : Scope) (r : NameRef) : Build TypeId := do
  match ← Build.orAbort (c.resolve scope r) with
  | .builtin k => return k.typeId
  | .declared id =>
    match c.get? id with
    | none => Build.abort ((Fault.unknownName r).diagnostic r.span)
    | some d =>
      if d.asType?.isSome then resolveType c limits id
      else Build.abort ((Fault.notType r d.sort).diagnostic r.span)

/-- The simple type that a reference names. A complex type is recorded as a fault and returned. -/
def simpleTypeOf (c : Catalog) (limits : Limits) (scope : Scope) (r : NameRef) :
    Build TypeId := do
  let id ← typeOf c limits scope r
  Build.require ((← Build.schema).typeDef id).kind.isSimple (.notSimple r) r.span
  return id

end Schemata
