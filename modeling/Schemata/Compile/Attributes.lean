import Schemata.Compile.SimpleTypes

/-!
# Attributes

An attribute has a simple type and possibly a default value. `resolveAttribute` makes the symbol of
a global attribute. Inside a type, an attribute is declared or refers to a global one, from which
it takes everything but whether it is optional. The attributes of a type differ in their names
without the namespace.
-/

namespace Schemata

/-- The attribute that the declaration of a global one makes. -/
def makeGlobalAttribute (c : Catalog) (limits : Limits) (d : Declaration)
    (a : GlobalAttributeDecl) : Build Attribute := do
  let type ← simpleTypeOf c limits d.scope a.type
  let span := a.span.or a.name.span
  let default ← defaultValue c limits type a.defaultValue span
  return { fullName := d.fullName
           standing := .global
           type
           isOptional := false
           isNullable := a.isNullable
           defaultValue := default
           referenced := none
           span }

/-- The symbol of the declaration of a global attribute. An attribute that is met while its symbol
is being made closes a circle. -/
def resolveAttribute (c : Catalog) (limits : Limits) (id : DeclarationId) (d : Declaration)
    (a : GlobalAttributeDecl) : Build AttributeId := do
  let b ← get
  match ← Build.orAbort (b.symbolAs "attribute" (·.asAttribute?) id) with
  | some known => return known
  | none =>
    if b.openAttributes.contains id then
      Build.abort ((Fault.circular d.fullName).diagnostic (a.type.span.or a.name.span))
    else
      modify (·.openAttribute id)
      let made ← makeGlobalAttribute c limits d a
      modifyGet (·.addAttribute id made)

/-- The global attribute that a reference names. -/
def attributeOf (c : Catalog) (limits : Limits) (scope : Scope) (r : NameRef) :
    Build (AttributeId × Attribute) := do
  let fault := (Fault.notAttribute r).diagnostic r.span
  match ← Build.orAbort (c.resolve scope r) with
  | .builtin _ => Build.abort fault
  | .declared id =>
    match c.getAs? (·.asAttribute?) id with
    | none => Build.abort fault
    | some (d, a) =>
      let attributeId ← resolveAttribute c limits id d a
      match (← Build.schema).attribute? attributeId with
      | some a => return (attributeId, a)
      | none => Build.abort fault

/-- The attribute that an entry of a block makes; a deletion makes none. -/
def makeAttribute (c : Catalog) (limits : Limits) (scope : Scope) (item : AttributeItem) :
    Build (Option Attribute) := do
  match item with
  | .declared d =>
    let type ← simpleTypeOf c limits scope d.type
    let default ← defaultValue c limits type d.defaultValue item.span
    return some
      { fullName := .unqualified d.name.text
        standing := .inner
        type
        isOptional := d.isOptional
        isNullable := d.isNullable
        defaultValue := default
        referenced := none
        span := item.span }
  | .reference u =>
    let (id, a) ← attributeOf c limits scope u.reference
    return some { a with
      standing := .reference
      isOptional := u.isOptional
      referenced := some id
      span := item.span }
  | .delete _ => return none

/-- Add the attributes of a block after those that are there. -/
def addAttributes (c : Catalog) (limits : Limits) (scope : Scope) :
    List AttributeItem → List Attribute → Build (List Attribute)
  | [], set => return set
  | item :: rest, set => do
    match item with
    | .delete d =>
      Build.note ((Fault.attributeDeletedOutsideRestriction d.name.text).diagnostic item.span)
      addAttributes c limits scope rest set
    | _ =>
      match ← makeAttribute c limits scope item with
      | none => addAttributes c limits scope rest set
      | some a =>
        if Attribute.isIn set a.name then
          Build.note ((Fault.duplicateAttribute a.name).diagnostic item.span)
          addAttributes c limits scope rest set
        else addAttributes c limits scope rest (set ++ [a])

/-! ## Restriction -/

/-- What is wrong with an attribute that restricts another one. -/
def attributeFaults (s : Schema) (a base : Attribute) : List Fault :=
  (if a.isOptional && !base.isOptional then [.attributeBecomesOptional a.name] else []) ++
    (if a.isNullable && !base.isNullable then [.attributeBecomesNullable a.name] else []) ++
    if s.derives a.type base.type then []
    else [.attributeTypeWidens a.name (s.typeDef a.type).fullName (s.typeDef base.type).fullName]

/-- The names that a restricting block speaks of, and the attributes that it restricts. -/
structure RestrictedAttributes where
  mentioned : List String := []
  found : List Attribute := []

/-- What is wrong with deleting an inherited attribute. -/
def attributeDeletionFaults (base : List Attribute) (name : String) : List Fault :=
  match Attribute.find? base name with
  | none => [.unknownRestrictedAttribute name]
  | some a => if a.isOptional then [] else [.requiredAttributeDeleted name]

/-- Go through a restricting block. -/
def restrictEachAttribute (c : Catalog) (limits : Limits) (scope : Scope)
    (base : List Attribute) :
    List AttributeItem → RestrictedAttributes → Build RestrictedAttributes
  | [], r => return r
  | item :: rest, r => do
    match item with
    | .delete d =>
      let name := d.name.text
      (attributeDeletionFaults base name).forM fun f => Build.note (f.diagnostic item.span)
      restrictEachAttribute c limits scope base rest
        { r with mentioned := name :: r.mentioned }
    | _ =>
      match ← makeAttribute c limits scope item with
      | none => restrictEachAttribute c limits scope base rest r
      | some a =>
        if r.mentioned.contains a.name then
          Build.note ((Fault.duplicateAttribute a.name).diagnostic item.span)
          restrictEachAttribute c limits scope base rest r
        else
          let mentioned := a.name :: r.mentioned
          match Attribute.find? base a.name with
          | none =>
            Build.note ((Fault.unknownRestrictedAttribute a.name).diagnostic item.span)
            restrictEachAttribute c limits scope base rest { r with mentioned }
          | some inherited =>
            let faults := attributeFaults (← Build.schema) a inherited
            faults.forM fun f => Build.note (f.diagnostic item.span)
            restrictEachAttribute c limits scope base rest ⟨mentioned, a :: r.found⟩

/-- The required attributes of the base that a restricting block does not speak of. -/
def leftOutAttributes (base : List Attribute) (r : RestrictedAttributes) : List Attribute :=
  base.filter fun a =>
    !Attribute.isIn r.found a.name && !r.mentioned.contains a.name && !a.isOptional

/-- The attributes of a restriction, in the order of the base. One that the block does not speak of
counts as deleted. -/
def restrictAttributes (c : Catalog) (limits : Limits) (scope : Scope) (base : List Attribute)
    (block : AttributeBlock) : Build (List Attribute) := do
  let r ← restrictEachAttribute c limits scope base block.items {}
  (leftOutAttributes base r).forM fun a =>
    Build.note ((Fault.requiredAttributeLeftOut a.name).diagnostic block.span)
  return base.filterMap fun a => Attribute.find? r.found a.name

end Schemata
