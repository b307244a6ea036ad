import Schemata.Diagnostic
import Schemata.Name
import Schemata.Value.Simple

/-!
# Object trees

Data is a tree of objects. A simple object is a value, and a complex object has a set of attributes
and children; both may name their type. Attributes and elements hold an object in a slot, or refer
to another attribute or element whose slot they read. Sets and lists hold children in order.

All objects of a `Tree` are numbered in the order in which they came to be. An object owns others,
and knows the one parent that it has; objects without a parent are roots. Objects are never
removed.
-/

namespace Schemata

/-- What an attribute or an element holds. -/
inductive Slot
  /-- An object of its own, or null. -/
  | direct (value : Option ObjectId)
  /-- Whatever another attribute or element holds. -/
  | reference (target : ObjectId)
  deriving DecidableEq

/-- The object in a slot. -/
def Slot.value? : Slot → Option ObjectId
  | .direct value => value
  | .reference _ => none

/-- What an object is. -/
inductive Object
  | simple (typeName : Option FullName) (value : SimpleValue)
  | complex (typeName : Option FullName) (attributes children : Option ObjectId)
  | attr (name : String) (slot : Slot)
  | element (name : FullName) (slot : Slot)
  | attributeSet (items : List ObjectId)
  | childSet (memberName : Option String) (items : List ObjectId)
  | childList (memberName : Option String) (items : List ObjectId)

/-- The sorts of objects. -/
inductive ObjectSort
  | simple
  | complex
  | attr
  | element
  | attributeSet
  | childSet
  | childList
  deriving DecidableEq

/-- The words for a sort. -/
def ObjectSort.text : ObjectSort → String
  | .simple => "simple"
  | .complex => "complex"
  | .attr => "attribute"
  | .element => "element"
  | .attributeSet => "attribute set"
  | .childSet => "child set"
  | .childList => "child list"

namespace Object

/-- The sort of an object. -/
def sort : Object → ObjectSort
  | .simple _ _ => .simple
  | .complex _ _ _ => .complex
  | .attr _ _ => .attr
  | .element _ _ => .element
  | .attributeSet _ => .attributeSet
  | .childSet _ _ => .childSet
  | .childList _ _ => .childList

/-- Whether the object is an instance of a type. -/
def isInstance : Object → Bool
  | .simple _ _ | .complex _ _ _ => true
  | _ => false

/-- The type that the object names. -/
def typeName? : Object → Option FullName
  | .simple n _ | .complex n _ _ => n
  | _ => none

/-- What the object holds, if it is an attribute or an element. -/
def slot? : Object → Option Slot
  | .attr _ s | .element _ s => some s
  | _ => none

/-- What the object holds in order, if it is a set or a list. -/
def items? : Object → Option (List ObjectId)
  | .attributeSet items | .childSet _ items | .childList _ items => some items
  | _ => none

/-- The objects that the object owns, in order. -/
def owned : Object → List ObjectId
  | .simple _ _ => []
  | .complex _ attributes children => attributes.toList ++ children.toList
  | .attr _ (.direct v) | .element _ (.direct v) => v.toList
  | .attr _ (.reference _) | .element _ (.reference _) => []
  | .attributeSet items | .childSet _ items | .childList _ items => items

/-- The same object, owning others instead. References stay as they are. -/
def mapOwned (f : ObjectId → ObjectId) : Object → Object
  | .simple n v => .simple n v
  | .complex n attributes children => .complex n (attributes.map f) (children.map f)
  | .attr n (.direct v) => .attr n (.direct (v.map f))
  | .element n (.direct v) => .element n (.direct (v.map f))
  | .attr n (.reference t) => .attr n (.reference t)
  | .element n (.reference t) => .element n (.reference t)
  | .attributeSet items => .attributeSet (items.map f)
  | .childSet n items => .childSet n (items.map f)
  | .childList n items => .childList n (items.map f)

/-- An attribute or an element with another slot. -/
def withSlot (slot : Slot) : Object → Object
  | .attr n _ => .attr n slot
  | .element n _ => .element n slot
  | o => o

/-- A complex object with other attributes. -/
def withAttributes (set : ObjectId) : Object → Object
  | .complex n _ children => .complex n (some set) children
  | o => o

/-- A complex object with other children. -/
def withChildren (children : ObjectId) : Object → Object
  | .complex n attributes _ => .complex n attributes (some children)
  | o => o

/-- A set or a list with one more item at its end. -/
def withItem (item : ObjectId) : Object → Object
  | .attributeSet items => .attributeSet (items ++ [item])
  | .childSet n items => .childSet n (items ++ [item])
  | .childList n items => .childList n (items ++ [item])
  | o => o

theorem owned_mapOwned (f : ObjectId → ObjectId) (o : Object) :
    (o.mapOwned f).owned = o.owned.map f := by
  cases o with
  | complex n as cs => cases as <;> cases cs <;> simp [mapOwned, owned]
  | attr n s => cases s with
    | direct v => cases v <;> simp [mapOwned, owned]
    | reference t => simp [mapOwned, owned]
  | element n s => cases s with
    | direct v => cases v <;> simp [mapOwned, owned]
    | reference t => simp [mapOwned, owned]
  | _ => simp [mapOwned, owned]

theorem sort_mapOwned (f : ObjectId → ObjectId) (o : Object) : (o.mapOwned f).sort = o.sort := by
  cases o with
  | attr n s => cases s <;> rfl
  | element n s => cases s <;> rfl
  | _ => rfl

end Object

/-- An object in its tree. -/
structure Node where
  object : Object
  parent : Option ObjectId := none
  span : Option Span := none

/-- A tree of objects, or several trees side by side. -/
structure Tree where
  nodes : Array Node := #[]

/-! ## Faults -/

/-- Why an operation on a tree is refused. -/
inductive TreeFault
  | unknown (id : ObjectId)
  /-- The object is of another sort than the ones expected. -/
  | wrongSort (id : ObjectId) (sort : ObjectSort) (expected : String)
  | attributeExists (name : String) (set : ObjectId)
  | notAChild (sort : ObjectSort) (child container : ObjectId)
  | notAValue (value holder : ObjectId)
  | notReferable (holder target : ObjectId)
  | ancestor (child parent : ObjectId)
  | loop (holder current : ObjectId)
  | referencedAlready (holder target : ObjectId)
  deriving DecidableEq

namespace TreeFault

/-- The families of faults. -/
inductive Family
  | invalidObject
  | invalidOperation
  | circularReference
  deriving DecidableEq

/-- The words that open the message of a family. -/
def Family.text : Family → String
  | .invalidObject => "invalid object"
  | .invalidOperation => "invalid operation"
  | .circularReference => "circular reference"

/-- The family of a fault. -/
def family : TreeFault → Family
  | .unknown _ | .wrongSort .. => .invalidObject
  | .attributeExists .. | .notAChild .. | .notAValue .. | .notReferable .. => .invalidOperation
  | .ancestor .. | .loop .. | .referencedAlready .. => .circularReference

/-- What a fault is about. -/
def detail : TreeFault → String
  | .unknown id => s!"unknown object {id.text}"
  | .wrongSort id sort expected => s!"object {id.text} is a {sort.text} object, expected {expected}"
  | .attributeExists name set => s!"attribute '{name}' already exists in {set.text}"
  | .notAChild sort child container =>
    s!"{sort.text} object {child.text} cannot be a child of {container.text}"
  | .notAValue value holder => s!"object {value.text} cannot be the value of {holder.text}"
  | .notReferable holder target => s!"object {holder.text} cannot reference {target.text}"
  | .ancestor child parent => s!"object {child.text} is an ancestor of {parent.text}"
  | .loop holder current => s!"reference chain of {holder.text} loops at {current.text}"
  | .referencedAlready holder target =>
    s!"{holder.text} is already referenced by {target.text}"

/-- The wording of a fault. -/
def message (f : TreeFault) : String := s!"{f.family.text}: {f.detail}"

end TreeFault

/-! ## Looking at a tree -/

namespace Tree

/-- The number of objects. -/
def size (t : Tree) : Nat := t.nodes.size

/-- An object with what the tree knows of it, if there is one of the number. -/
def node? (t : Tree) (id : ObjectId) : Option Node := t.nodes[id.index]?

/-- An object. -/
def get (t : Tree) (id : ObjectId) : Except TreeFault Object :=
  match t.node? id with
  | some n => .ok n.object
  | none => .error (.unknown id)

/-- The parent of an object. -/
def parent? (t : Tree) (id : ObjectId) : Option ObjectId := (t.node? id).bind (·.parent)

/-- The place of an object. -/
def span? (t : Tree) (id : ObjectId) : Option Span := (t.node? id).bind (·.span)

/-- The ancestors of an object up to a number of steps, the nearest first. -/
def ancestorsUpTo (t : Tree) : Nat → ObjectId → List ObjectId
  | 0, _ => []
  | steps + 1, id =>
    match t.parent? id with
    | none => []
    | some p => p :: t.ancestorsUpTo steps p

/-- The ancestors of an object, the nearest first. No object is its own ancestor, so there are no
more of them than objects. -/
def ancestors (t : Tree) (id : ObjectId) : List ObjectId := t.ancestorsUpTo t.size id

/-- The number of ancestors. -/
def depth (t : Tree) (id : ObjectId) : Nat := (t.ancestors id).length

/-- The items of a set or a list. -/
def items (t : Tree) (container : ObjectId) : Except TreeFault (List ObjectId) := do
  let o ← t.get container
  match o.items? with
  | some items => .ok items
  | none => .error (.wrongSort container o.sort "container")

/-- The attributes of a complex object. -/
def attributes (t : Tree) (complex : ObjectId) : Except TreeFault (List ObjectId) := do
  match ← t.get complex with
  | .complex _ none _ => .ok []
  | .complex _ (some set) _ => t.items set
  | o => .error (.wrongSort complex o.sort "complex")

/-- The first of some objects that is an attribute of a given name. -/
def firstNamed (t : Tree) (name : String) : List ObjectId → Except TreeFault (Option ObjectId)
  | [] => .ok none
  | id :: rest => do
    match ← t.get id with
    | .attr n _ => if n = name then .ok (some id) else t.firstNamed name rest
    | _ => t.firstNamed name rest

/-- The attribute of a complex object by name. -/
def findAttribute (t : Tree) (complex : ObjectId) (name : String) :
    Except TreeFault (Option ObjectId) := do
  t.firstNamed name (← t.attributes complex)

/-! ## Following references -/

/-- What an attribute or an element holds. -/
def slot (t : Tree) (holder : ObjectId) : Except TreeFault Slot := do
  let o ← t.get holder
  match o.slot? with
  | some s => .ok s
  | none => .error (.wrongSort holder o.sort "attribute or element")

/-- Follow references from an attribute or an element that was reached from another one, for as
many steps as the fuel allows. The last one found has a slot of its own. -/
def followReferences (t : Tree) (start : ObjectId) :
    Nat → List ObjectId → ObjectId → Except TreeFault ObjectId
  | 0, _, current => .error (.loop start current)
  | fuel + 1, passed, current => do
    if passed.contains current then .error (.loop start current)
    else
      match ← t.slot current with
      | .direct _ => .ok current
      | .reference target => t.followReferences start fuel (current :: passed) target

/-- The one whose slot an attribute or element reads and writes: itself, the one it refers to, or
the one which that refers to, and so on. -/
def effective (t : Tree) (holder : ObjectId) : Except TreeFault ObjectId :=
  t.followReferences holder (t.size + 1) [] holder

/-- The number of references from an attribute or an element to the last one of its chain. A walk
that does not come to that one runs out of fuel. -/
def referencesTo (t : Tree) (last : ObjectId) : Nat → ObjectId → Except TreeFault Nat
  | 0, current => .error (.loop last current)
  | fuel + 1, current =>
    if current = last then .ok 0
    else do
      let next := match ← t.slot current with
        | .reference target => target
        | .direct _ => current
      return (← t.referencesTo last fuel next) + 1

/-- The number of references that lead to the effective one. -/
def referenceDepth (t : Tree) (holder : ObjectId) : Except TreeFault Nat := do
  t.referencesTo (← t.effective holder) (t.size + 1) holder

/-- The value that is read at an attribute or an element. -/
def valueOf (t : Tree) (holder : ObjectId) : Except TreeFault (Option ObjectId) := do
  return (← t.slot (← t.effective holder)).value?

end Tree

end Schemata
