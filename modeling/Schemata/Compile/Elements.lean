import Schemata.Compile.Types

/-!
# Global elements

`resolveElement` gives the declaration of a global element its symbol, and before that every
declaration above it along what elements substitute. An element may only stand in for one that is
not sealed, whose type its own type equals or derives from, and which is nullable if it is.
-/

namespace Schemata

/-- Where an element declaration refers to. -/
def elementLink (c : Catalog) (id : DeclarationId) :
    Except Diagnostic (Link (Option ElementId)) :=
  match c.getAs? (·.asElement?) id with
  | none => .ok (.root none)
  | some (d, e) =>
    match e.substitutes with
    | none => .ok (.root none)
    | some r =>
      match c.resolve d.scope r with
      | .error fault => .error fault
      | .ok (.builtin _) => .error ((Fault.notElement r).diagnostic r.span)
      | .ok (.declared up) =>
        if ((c.get? up).bind (·.asElement?)).isSome then .ok (.next up)
        else .error ((Fault.notElement r).diagnostic r.span)

/-- What is wrong with an element that substitutes another one. -/
def substitutionFaults (s : Schema) (e head : Element) : List Fault :=
  (if head.isSealed then [.sealedHead head.fullName] else []) ++
    (if s.derives e.type head.type then []
      else [.substitutorTypeWidens e.fullName (s.typeDef e.type).fullName
        (s.typeDef head.type).fullName]) ++
    if e.isNullable && !head.isNullable then [.substitutorBecomesNullable e.fullName head.fullName]
    else []

/-- Make the symbol of an element, when the one that it substitutes has its symbol. -/
def createElement (c : Catalog) (limits : Limits) (head : Option ElementId)
    (id : DeclarationId) : Build (Option ElementId) := do
  match c.getAs? (·.asElement?) id with
  | none => Build.internal (.declarationExpected "element")
  | some (d, e) =>
    let type ← typeOf c limits d.scope e.type
    let element : Element :=
      { fullName := d.fullName
        standing := .global
        type
        isNullable := e.isNullable
        isAbstract := e.isAbstract
        isSealed := e.isSealed
        substituted := head
        referenced := none
        span := e.span.or e.name.span }
    let elementId ← modifyGet (·.addElement id element)
    let s ← Build.schema
    match head.bind s.element? with
    | none => pure ()
    | some h =>
      let span := e.substitutes.bind (·.span)
      (substitutionFaults s element h).forM fun f => Build.note (f.diagnostic span)
    return some elementId

/-- The symbol of an element declaration. -/
def resolveElement (c : Catalog) (limits : Limits) (id : DeclarationId) : Build ElementId := do
  let b ← get
  let circle := circleAt c fun d => d.asElement?.bind (·.substitutes)
  let known := b.symbolAs "element" fun s => s.asElement?.map some
  let (root, chain) ←
    Build.orAbort (climb known (elementLink c) circle (c.declarations.size + 1) [] id)
  match ← chain.foldlM (createElement c limits) root with
  | some e => return e
  | none => Build.internal .emptyChain

/-- The global element that a reference names. -/
def elementOf (c : Catalog) (limits : Limits) (scope : Scope) (r : NameRef) :
    Build ElementId := do
  let fault := (Fault.notElement r).diagnostic r.span
  match ← Build.orAbort (c.resolve scope r) with
  | .builtin _ => Build.abort fault
  | .declared id =>
    if ((c.get? id).bind (·.asElement?)).isSome then resolveElement c limits id
    else Build.abort fault

end Schemata
