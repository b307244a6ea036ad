import Schemata.Compile.Elements

/-!
# Members of child sets

A declared item makes a member: an element, a nested set, or a list if the item may occur more than
once or, for a set, not at all. A member takes its name from the element; a set may be named, and
is named for its kind and position otherwise. Siblings differ in their names.

Restricting a set goes through the declared items, which pair up by name with members of the base.
The members that are left come in the order of the base. A member that the items do not speak of
counts as deleted, which is allowed where it may be absent and in a choice, as long as the choice
keeps a member.
-/

namespace Schemata

/-- The name of the member that an item makes at a position. -/
def ChildItem.memberName (order : Nat) : ChildItem → String
  | .element d => d.name.text
  | .reference u => (u.memberName.getD u.reference.name).text
  | .set (some name) _ _ _ _ => name.text
  | .set none .sequence _ _ _ => s!"Seq{order}"
  | .set none .choice _ _ _ => s!"Choice{order}"
  | .delete d => d.name.text

/-- The bounds of an item, which are exactly once if none are written. Bounds that no number is
within are recorded as a fault. -/
def occursOf (item : ChildItem) : Build (Option Occurs) := do
  match item.occurs with
  | none => return some .once
  | some d =>
    let occurs : Occurs := ⟨d.least, d.most⟩
    if occurs.isValid then return some occurs
    else
      Build.note ((Fault.invalidOccurs occurs).diagnostic d.span)
      return none

/-- An element of a type that stands for a global one. -/
def Element.asReference (e : Element) (id : ElementId) (span : Option Span) : Element :=
  { e with standing := .reference, substituted := none, referenced := some id, span }

/-- The element that is used where a global element is named. -/
def elementReference (c : Catalog) (limits : Limits) (scope : Scope) (r : NameRef)
    (span : Option Span) : Build (ElementId × Element) := do
  let id ← elementOf c limits scope r
  match (← Build.schema).element? id with
  | some e => return (id, e.asReference id span)
  | none => Build.abort ((Fault.notElement r).diagnostic r.span)

/-- The element that is declared in a type. -/
def innerElement (c : Catalog) (limits : Limits) (scope : Scope) (d : ElementDecl)
    (span : Option Span) : Build Element := do
  let type ← typeOf c limits scope d.type
  return { fullName := ⟨scope.uri, d.name.text⟩
           standing := .inner
           type
           isNullable := d.isNullable
           isAbstract := false
           isSealed := false
           substituted := none
           referenced := none
           span }

/-- A member made of an element: the element itself if it occurs at most once, and a list
otherwise. -/
def elementMember (label : MemberLabel) (e : Element) (occurs : Occurs) : Member :=
  if occurs.isSingle then .element label e (occurs.least == 0)
  else .list label (.element { label with order := 0 } e false) occurs

/-- A member made of a set: the set itself if it occurs exactly once, and a list otherwise. -/
def setMember (label : MemberLabel) (kind : SetKind) (members : List Member)
    (span : Option Span) (occurs : Occurs) : Member :=
  if occurs = .once then .set label kind members span
  else .list label (.set { label with order := 0 } kind members span) occurs

mutual

/-- The member that an item makes at a position, if it is free of faults that leave none. -/
def makeMember (c : Catalog) (limits : Limits) (scope : Scope) (order : Nat) :
    ChildItem → Build (Option Member)
  | .element d => do
    let item := ChildItem.element d
    match ← occursOf item with
    | none => return none
    | some occurs =>
      let e ← innerElement c limits scope d item.span
      return some (elementMember ⟨item.memberName order, order, item.span⟩ e occurs)
  | .reference u => do
    let item := ChildItem.reference u
    match ← occursOf item with
    | none => return none
    | some occurs =>
      let (_, e) ← elementReference c limits scope u.reference item.span
      return some (elementMember ⟨item.memberName order, order, item.span⟩ e occurs)
  | .set name kind items span bounds => do
    let item := ChildItem.set name kind items span bounds
    match ← occursOf item with
    | none => return none
    | some occurs =>
      let members ← addMembers c limits scope items []
      return some (setMember ⟨item.memberName order, order, span⟩ kind members span occurs)
  | .delete _ => return none

/-- Add the members that items make after those that are there. -/
def addMembers (c : Catalog) (limits : Limits) (scope : Scope) :
    List ChildItem → List Member → Build (List Member)
  | [], members => return members
  | item :: rest, members => do
    match item with
    | .delete d =>
      Build.note ((Fault.memberDeletedOutsideRestriction d.name.text).diagnostic
        (ChildItem.delete d).span)
      addMembers c limits scope rest members
    | item =>
      match ← makeMember c limits scope members.length item with
      | none => addMembers c limits scope rest members
      | some m =>
        if Member.isIn members m.name then
          Build.note ((Fault.duplicateChild m.name).diagnostic item.span)
          addMembers c limits scope rest members
        else addMembers c limits scope rest (members ++ [m])

end

/-! ## Restriction -/

/-- What is left to check of a member once its bounds are: the member or the item of the list that
is restricted, whether the new one may be absent, and the bounds if it is a list. -/
structure RestrictedMember where
  target : Member
  isOptional : Bool
  repeated : Option Occurs

/-- Check the bounds of an item against the member that it restricts. -/
def restrictOccurs (base : Member) (item : ChildItem) : Build (Option RestrictedMember) := do
  match ← occursOf item with
  | none => return none
  | some occurs =>
    match base with
    | .list _ target bounds =>
      Build.require (bounds.least ≤ occurs.least) (.leastOccursBelow base.name occurs bounds)
        item.span
      Build.require (occurs.most ≤ bounds.most) (.mostOccursAbove base.name occurs bounds)
        item.span
      return some ⟨target, false, some occurs⟩
    | _ =>
      if !occurs.isSingle then
        Build.note ((Fault.memberBecomesList base.name).diagnostic item.span)
        return none
      else
        let isOptional := occurs.least == 0
        Build.require (!isOptional || base.isOptional) (.memberBecomesOptional base.name) item.span
        return some ⟨base, isOptional, none⟩

/-- Record that an item has another shape than the member that it restricts. -/
def shapeDiffers (base : Member) (span : Option Span) : Build (Option Member) := do
  Build.note ((Fault.shapeDiffers base.name base.shape).diagnostic span)
  return none

/-- An element that restricts one declared in the base. -/
def restrictInnerElement (c : Catalog) (limits : Limits) (scope : Scope) (base : Element)
    (d : ElementDecl) (span : Option Span) : Build Element := do
  let type ← typeOf c limits scope d.type
  let s ← Build.schema
  Build.require (!d.isNullable || base.isNullable) (.elementBecomesNullable d.name.text) span
  Build.require (s.derives type base.type)
    (.elementTypeWidens d.name.text d.type (s.typeDef base.type).fullName) span
  return { base with type, isNullable := d.isNullable, span }

/-- The use of a global element that restricts the use of another one. -/
def restrictReference (c : Catalog) (limits : Limits) (scope : Scope) (base : ElementId)
    (r : NameRef) (span : Option Span) : Build Element := do
  let (id, e) ← elementReference c limits scope r span
  let s ← Build.schema
  let baseName := (s.element? base).elim (.unqualified "") (·.fullName)
  Build.require (s.substitutes id base) (.elementReferenceWidens r baseName) span
  return e

/-- The names that restricting items speak of, and the members that they make. -/
structure RestrictedMembers where
  mentioned : List String := []
  found : List Member := []

/-- What is wrong with deleting an inherited member of a set of some kind. -/
def memberDeletionFaults (kind : SetKind) (base : List Member) (name : String) : List Fault :=
  match Member.find? base name with
  | none => [.unknownRestrictedChild name]
  | some m => if kind = .sequence ∧ !m.isOptional then [.requiredChildDeleted name] else []

/-- The members of the base that restricting items do not speak of although they are required. -/
def leftOutMembers (kind : SetKind) (base : List Member) (r : RestrictedMembers) : List Member :=
  base.filter fun m =>
    !Member.isIn r.found m.name && !r.mentioned.contains m.name && kind = .sequence &&
      !m.isOptional

/-- The members of a restricted set, in the order of the base. -/
def finishRestriction (kind : SetKind) (base : List Member) (span : Option Span)
    (r : RestrictedMembers) : Build (List Member) := do
  (leftOutMembers kind base r).forM fun m =>
    Build.note ((Fault.requiredChildLeftOut m.name).diagnostic span)
  let members := base.filterMap fun m => Member.find? r.found m.name
  Build.require (!(kind = .choice && members.isEmpty && !base.isEmpty)) .choiceBecomesEmpty span
  return members.mapIdx fun i m => m.atOrder i

mutual

/-- The member that an item makes of the one that it restricts, apart from its bounds. -/
def restrictSingle (c : Catalog) (limits : Limits) (scope : Scope) (base : Member)
    (isOptional : Bool) : ChildItem → Build (Option Member)
  | .element d => do
    let span := (ChildItem.element d).span
    match base with
    | .element label e _ =>
      if e.referenced.isSome then shapeDiffers base span
      else
        let e ← restrictInnerElement c limits scope e d span
        return some (.element { label with span } e isOptional)
    | _ => shapeDiffers base span
  | .reference u => do
    let span := (ChildItem.reference u).span
    match base with
    | .element label e _ =>
      match e.referenced with
      | none => shapeDiffers base span
      | some restricted =>
        let e ← restrictReference c limits scope restricted u.reference span
        return some (.element { label with span } e isOptional)
    | _ => shapeDiffers base span
  | .set _ kind items span _ => do
    match base with
    | .set label baseKind members setSpan =>
      if kind = baseKind then
        let r ← restrictEachMember c limits scope kind members 0 items {}
        let members ← finishRestriction kind members span r
        return some (.set { label with span } kind members (span.or setSpan))
      else shapeDiffers base span
    | _ => shapeDiffers base span
  | .delete d => shapeDiffers base (ChildItem.delete d).span

/-- Go through restricting items, the first of which stands at a position. -/
def restrictEachMember (c : Catalog) (limits : Limits) (scope : Scope) (kind : SetKind)
    (base : List Member) (order : Nat) :
    List ChildItem → RestrictedMembers → Build RestrictedMembers
  | [], r => return r
  | item :: rest, r => do
    let name := item.memberName order
    match item with
    | .delete d =>
      (memberDeletionFaults kind base name).forM fun f =>
        Build.note (f.diagnostic (ChildItem.delete d).span)
      restrictEachMember c limits scope kind base (order + 1) rest
        { r with mentioned := name :: r.mentioned }
    | item =>
      if r.mentioned.contains name then
        Build.note ((Fault.duplicateChild name).diagnostic item.span)
        restrictEachMember c limits scope kind base (order + 1) rest r
      else
        let mentioned := name :: r.mentioned
        match Member.find? base name with
        | none =>
          Build.note ((Fault.unknownRestrictedChild name).diagnostic item.span)
          restrictEachMember c limits scope kind base (order + 1) rest { r with mentioned }
        | some inherited =>
          match ← restrictOccurs inherited item with
          | none =>
            restrictEachMember c limits scope kind base (order + 1) rest { r with mentioned }
          | some plan =>
            match ← restrictSingle c limits scope plan.target plan.isOptional item with
            | none =>
              restrictEachMember c limits scope kind base (order + 1) rest { r with mentioned }
            | some m =>
              let m := match plan.repeated with
                | none => m
                | some occurs => .list { inherited.label with span := item.span } m occurs
              restrictEachMember c limits scope kind base (order + 1) rest
                ⟨mentioned, m :: r.found⟩

end

end Schemata
