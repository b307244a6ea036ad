import Schemata.Schema.Values
import Schemata.Validation.Finding
import Schemata.Validation.Matching
import Schemata.Validation.Visit

/-!
# Checking one object

`Check.demand` holds an object against a demand. It looks at the object itself, and visits the
objects below it with demands of their own; how it visits them is a parameter, so that a check is
no recursion.

Everything that is wrong is recorded, and the check goes on where it can.
-/

namespace Schemata

/-- What a validation goes by. -/
structure Validator where
  schema : Schema
  mode : Mode := .standard
  limits : Limits := {}

/-- What one check goes by: the validator, the tree, and how to visit an object below. -/
structure Check (σ : Type) extends Validator where
  tree : Tree
  visit : ObjectId → Demand → Walk σ Bool

/-- Whether a value is one of the kind of a type: atomic values have the kind of the type, and list
values hold values of the kind of the items. -/
def Schema.fitsKind (s : Schema) (t : TypeDef) : SimpleValue → Bool
  | .atomic v => t.kind.isAtomic && v.kind == t.kind
  | .list items =>
    t.kind.isList && t.item?.any fun item =>
      items.all fun v => v.asAtomic?.any fun a => a.kind == (s.typeDef item).kind

namespace Check

variable {σ : Type} (c : Check σ)

/-- Record a finding for an object. -/
def report (id : ObjectId) (f : Finding) : Walk σ Unit :=
  Walk.note (f.diagnostic c.mode c.tree id)

/-- Record a finding for each of some objects. -/
def reportAll (f : ObjectId → Finding) : List ObjectId → Walk σ Unit
  | [] => pure ()
  | id :: rest => do
    c.report id (f id)
    reportAll f rest

/-- Visit an object below. -/
def below (id : ObjectId) (d : Demand) : Walk σ Unit := do
  let _ ← c.visit id d

/-! ## Values -/

/-- Record the facets that a value violates. -/
def violations (id : ObjectId) : List FacetViolation → Walk σ Unit
  | [] => pure ()
  | v :: vs => do
    c.report id (.violation v)
    violations id vs

/-- Hold a value against a simple type. -/
def value (id : ObjectId) (type : TypeId) (v : SimpleValue) : Walk σ Unit :=
  let t := c.schema.typeDef type
  if c.schema.fitsKind t v then c.violations id (c.schema.failures type v)
  else c.report id (.wrongKind t.fullName)

/-- Check what an attribute or an element holds, or what the one holds that it refers to. -/
def holder (id : ObjectId) (type : TypeId) (isNullable : Bool) : Walk σ Unit := do
  match c.tree.referenceDepth id with
  | .error fault =>
    if fault.family = .circularReference then c.report id (.brokenReference fault)
    else throw fault
  | .ok length =>
    match c.limits.check .referenceChain length with
    | .error exceeded => c.report id (.longReference exceeded)
    | .ok _ =>
      match ← Walk.ask (c.tree.valueOf id) with
      | some v => c.below v (.instanceOf type)
      | none =>
        if isNullable then pure ()
        else
          match ← Walk.ask (c.tree.get id) with
          | .attr _ _ => c.report id .nullAttribute
          | _ => c.report id .nullElement

/-- Check an element. -/
def element (id : ObjectId) (e : Element) : Walk σ Unit := do
  if e.isAbstract then c.report id (.abstractElement e.fullName)
  c.holder id e.type e.isNullable

/-! ## Attributes -/

/-- Check the attributes that are declared, and tell which objects they are. -/
def declaredAttributes (complex : ObjectId) : List Attribute → Walk σ (List ObjectId)
  | [] => pure []
  | a :: rest => do
    match ← Walk.ask (c.tree.findAttribute complex a.name) with
    | some id =>
      c.below id (.holderOf a.type a.isNullable)
      return id :: (← declaredAttributes complex rest)
    | none =>
      if !a.isOptional && a.defaultValue.isNone then c.report complex (.missingAttribute a.name)
      declaredAttributes complex rest

/-- Record the attributes that are not declared. -/
def undeclaredAttributes : List ObjectId → Walk σ Unit
  | [] => pure ()
  | id :: rest => do
    let name := match ← Walk.ask (c.tree.get id) with
      | .attr name _ => name
      | o => o.sort.text
    c.report id (.undeclaredAttribute name)
    undeclaredAttributes rest

/-- Check the attributes of a complex object. -/
def attributes (complex : ObjectId) (declared : Option (List Attribute)) : Walk σ Unit := do
  let present ← Walk.ask (c.tree.attributes complex)
  let known ← c.declaredAttributes complex (declared.getD [])
  c.undeclaredAttributes (present.filter fun id => !known.contains id)

/-! ## Children -/

/-- Check the members of a set against the children that are left, and tell which child each member
found. -/
def members (set : ObjectId) (kind : SetKind) :
    List Member → List ObjectId → Walk σ (List (ObjectId × String))
  | [], _ => pure []
  | m :: ms, available => do
    match c.schema.firstMatch c.tree m available with
    | some found =>
      c.below found.child found.demand
      return (found.child, m.name) :: (← members set kind ms (found.remaining kind))
    | none =>
      if kind = .sequence && !m.isOptional then c.report set (.missingMember m.name)
      members set kind ms available

/-- Check that a choice holds one of its members. -/
def choice (id : ObjectId) (s : ChildSet) : List String → Walk σ Unit
  | [] => if s.isOptional then pure () else c.report id .noChoice
  | [_] => pure ()
  | names => c.report id (.severalChoices names)

/-- Check a child set. -/
def childSet (id : ObjectId) (s : ChildSet) : Walk σ Unit := do
  let present ← Walk.ask (c.tree.items id)
  let known ← c.members id s.kind s.members present
  if s.kind = .choice then c.choice id s (known.map (·.2))
  c.reportAll (fun _ => .undeclaredChild)
    (present.filter fun child => !(known.map (·.1)).contains child)

/-- Check the items of a list. -/
def items (item : Member) : List ObjectId → Walk σ Unit
  | [] => pure ()
  | id :: rest => do
    match (c.tree.node? id).bind fun n => c.schema.matchItem n.object item with
    | some d => c.below id d
    | none => c.report id (.wrongItem item.name)
    items item rest

/-- Check a child list. -/
def childList (id : ObjectId) (item : Member) (occurs : Occurs) : Walk σ Unit := do
  let present ← Walk.ask (c.tree.items id)
  let count := present.length
  if occurs.isMissing count then c.report id (.tooFewItems count occurs.least)
  else if occurs.isExceeded count then c.report id (.tooManyItems count occurs.most)
  c.items item present

/-- Check the children of a complex object. -/
def children (complex : ObjectId) (present : Option ObjectId) :
    Option Children → Walk σ Unit
  | none =>
    match present with
    | none => pure ()
    | some id => c.report id .undeclaredChildren
  | some (.simple type) =>
    match present with
    | none => c.report complex .missingSimpleValue
    | some id => c.below id (.instanceOf type)
  | some (.set s) =>
    match present with
    | none => if s.isOptional then pure () else c.report complex .missingChildren
    | some id => do
      match ← Walk.ask (c.tree.get id) with
      | .childSet _ _ => c.below id (.childSet s)
      | _ => c.report id .noChildSet

/-! ## Types -/

/-- Hold an object against the type that it is an instance of. -/
def ofType (id : ObjectId) (o : Object) (type : TypeId) : Walk σ Unit := do
  let t := c.schema.typeDef type
  if t.isAbstract then c.report id (.abstractType t.fullName)
  match o, t.content with
  | .simple _ v, .simple _ => c.value id type v
  | .simple _ _, .complex _ => c.report id (.notSimple t.fullName)
  | .complex _ _ present, .complex content =>
    c.attributes id content.attributes
    c.children id present content.children
  | .complex _ _ _, .simple _ => c.report id (.notComplex t.fullName)
  | _, _ => pure ()

/-- The type that an object is an instance of where a type is expected: the expected one, or the
one that the object names, which has to derive from it. -/
def typeOf (o : Object) (expected : TypeId) : Except Finding TypeId :=
  match o.typeName? with
  | none => .ok expected
  | some name =>
    match c.schema.lookupType name with
    | none => .error (.unknownType name)
    | some type =>
      if c.schema.derives type expected then .ok type
      else .error (.foreignType name (c.schema.typeDef expected).fullName)

/-- Check that an object is an instance of a type. -/
def instanceOf (id : ObjectId) (expected : TypeId) : Walk σ Unit := do
  let o ← Walk.ask (c.tree.get id)
  if o.isInstance then
    match c.typeOf o expected with
    | .ok type => c.ofType id o type
    | .error f => c.report id f
  else c.report id (.noInstance o.sort)

/-- Hold an object against a demand. -/
def demand (id : ObjectId) : Demand → Walk σ Unit
  | .instanceOf type => c.instanceOf id type
  | .holderOf type isNullable => c.holder id type isNullable
  | .element e => c.element id e
  | .childSet s => c.childSet id s
  | .childList item occurs => c.childList id item occurs

end Check

end Schemata
