import Schemata.Objects.Basic

/-!
# Editing object trees

New objects are roots. Attaching a root to an owner moves it there, and attaching an object that
has a parent already attaches a copy of it and of everything that it owns, so that no object ever
has two owners. An object is never attached below itself. What a slot or a complex object held
before becomes a root.

An edit that is refused leaves the tree as it was: it checks before it writes.
-/

namespace Schemata

/-- A step of editing a tree. -/
abbrev Edit (α : Type) := ExceptT TreeFault (StateM Tree) α

namespace Tree

/-- The tree with one node changed. -/
def modify (t : Tree) (id : ObjectId) (f : Node → Node) : Tree :=
  ⟨t.nodes.modify id.index f⟩

/-- The tree with one more node. -/
def push (t : Tree) (n : Node) : ObjectId × Tree := (⟨t.size⟩, ⟨t.nodes.push n⟩)

theorem size_modify (t : Tree) (id : ObjectId) (f : Node → Node) :
    (t.modify id f).size = t.size := by
  simp [modify, size]

theorem node?_modify (t : Tree) (id other : ObjectId) (f : Node → Node) :
    (t.modify id f).node? other =
      if other = id then (t.node? other).map f else t.node? other := by
  obtain ⟨i⟩ := id
  obtain ⟨j⟩ := other
  simp only [modify, node?, Array.getElem?_modify, ObjectId.mk.injEq, eq_comm]

theorem size_push (t : Tree) (n : Node) : (t.push n).2.size = t.size + 1 := by
  simp [push, size]

theorem node?_push (t : Tree) (n : Node) (id : ObjectId) :
    (t.push n).2.node? id = if id = (t.push n).1 then some n else t.node? id := by
  obtain ⟨i⟩ := id
  simp only [push, node?, size, Array.getElem?_push, ObjectId.mk.injEq]

/-- An object and all that it owns, directly or not, level by level. The fuel bounds how many
there are. -/
def ownedFrom (t : Tree) : Nat → List ObjectId → Except TreeFault (List ObjectId)
  | 0, _ => .ok []
  | _, [] => .ok []
  | fuel + 1, id :: rest => do
    let o ← t.get id
    .ok (id :: (← t.ownedFrom fuel (rest ++ o.owned)))

/-- An object and all that it owns, directly or not. -/
def subtree (t : Tree) (root : ObjectId) : Except TreeFault (List ObjectId) :=
  t.ownedFrom t.size [root]

/-- The number of the copy of an object, when copies are numbered on from a base. -/
def copyId (order : List ObjectId) (base : Nat) (id : ObjectId) : Option ObjectId :=
  (order.idxOf? id).map fun i => ⟨base + i⟩

/-- The copy of a node of a subtree. The root of the copy has no parent. -/
def copyNode (order : List ObjectId) (base : Nat) (root id : ObjectId) (n : Node) : Node :=
  { n with
    object := n.object.mapOwned fun id => (copyId order base id).getD id
    parent := if id = root then none else n.parent.bind (copyId order base) }

/-- The copies of some nodes of a tree. -/
def copies (t : Tree) (order : List ObjectId) (root : ObjectId) : List Node :=
  order.filterMap fun id => (t.node? id).map (copyNode order t.size root id)

end Tree

namespace Edit

/-- Ask the tree something. -/
def ask {α : Type} (question : Tree → Except TreeFault α) : Edit α := do
  ExceptT.mk (pure (question (← getThe Tree)))

/-- Refuse the edit. -/
def refuse {α : Type} (f : TreeFault) : Edit α := throw f

/-- Refuse the edit unless something holds. -/
def require (holds : Bool) (f : TreeFault) : Edit Unit :=
  if holds then pure () else refuse f

/-- Change one node. -/
def change (id : ObjectId) (f : Node → Node) : Edit Unit := do
  let _ ← ask (·.get id)
  modify (·.modify id f)

/-- Change what an object is. -/
def changeObject (id : ObjectId) (f : Object → Object) : Edit Unit :=
  change id fun n => { n with object := f n.object }

/-- Add a root. -/
def create (o : Object) : Edit ObjectId := modifyGet (·.push { object := o })

/-! ## New objects -/

/-- A simple object. -/
def newSimple (typeName : Option FullName) (value : SimpleValue) : Edit ObjectId :=
  create (.simple typeName value)

/-- A complex object without attributes and children. -/
def newComplex (typeName : Option FullName) : Edit ObjectId := create (.complex typeName none none)

/-- An attribute that holds null. -/
def newAttribute (name : String) : Edit ObjectId := create (.attr name (.direct none))

/-- An element that holds null. -/
def newElement (name : FullName) : Edit ObjectId := create (.element name (.direct none))

/-- An empty attribute set. -/
def newAttributeSet : Edit ObjectId := create (.attributeSet [])

/-- An empty child set. -/
def newChildSet (memberName : Option String) : Edit ObjectId := create (.childSet memberName [])

/-- An empty child list. -/
def newChildList (memberName : Option String) : Edit ObjectId := create (.childList memberName [])

/-! ## Parents -/

/-- Give an object a place. -/
def setSpan (id : ObjectId) (span : Span) : Edit Unit :=
  change id fun n => { n with span := some span }

/-- Copy an object with all that it owns. References refer to what they did before. -/
def copySubtree (root : ObjectId) : Edit ObjectId := do
  let order ← ask (·.subtree root)
  modifyGet fun t => (⟨t.size⟩, ⟨t.nodes ++ (t.copies order root).toArray⟩)

/-- A root itself, or a copy of an object that has a parent. -/
def unattached (id : ObjectId) : Edit ObjectId := do
  if ((← getThe Tree).parent? id).isSome then copySubtree id else pure id

/-- Give an object a parent, or a copy of the object if it has one already. The parent does not own
it yet. -/
def setParent (child parent : ObjectId) : Edit ObjectId := do
  let _ ← ask (·.get child)
  let _ ← ask (·.get parent)
  let above := parent :: (← getThe Tree).ancestors parent
  require (!above.contains child) (.ancestor child parent)
  let attached ← unattached child
  change attached fun n => { n with parent := some parent }
  return attached

/-- Make an object a root again. -/
def detach (id : Option ObjectId) : Edit Unit :=
  match id with
  | none => pure ()
  | some id => change id fun n => { n with parent := none }

/-- Make what was attached before a root again, unless it is what is attached now. -/
def displace (old attached : Option ObjectId) : Edit Unit :=
  if old = attached then pure () else detach old

/-! ## Complex objects -/

/-- Refuse an object of a sort that is not among those accepted. -/
def expectSort (id : ObjectId) (accepted : List ObjectSort) (expected : String) : Edit Unit := do
  let o ← ask (·.get id)
  require (accepted.contains o.sort) (.wrongSort id o.sort expected)

/-- The attributes and the children of a complex object. -/
def complexParts (id : ObjectId) : Edit (Option ObjectId × Option ObjectId) := do
  match ← ask (·.get id) with
  | .complex _ attributes children => return (attributes, children)
  | o => refuse (.wrongSort id o.sort "complex")

/-- Attach an object where another one was, and write it there. -/
def replace (owner new : ObjectId) (old : Option ObjectId)
    (write : ObjectId → Object → Object) : Edit ObjectId := do
  if old = some new then return new
  let attached ← setParent new owner
  displace old (some attached)
  changeObject owner (write attached)
  return attached

/-- Set the attributes of a complex object. -/
def setAttributes (complex set : ObjectId) : Edit ObjectId := do
  expectSort set [.attributeSet] "attribute set"
  let (old, _) ← complexParts complex
  replace complex set old Object.withAttributes

/-- Set the children of a complex object: a child set, or a simple object. -/
def setChildren (complex children : ObjectId) : Edit ObjectId := do
  expectSort children [.childSet, .simple] "child set or simple"
  let (_, old) ← complexParts complex
  replace complex children old Object.withChildren

/-! ## Sets and lists -/

/-- Attach an object at the end of a set or a list. -/
def append (container item : ObjectId) : Edit ObjectId := do
  let attached ← setParent item container
  changeObject container (Object.withItem attached)
  return attached

/-- Add an attribute to an attribute set, whose attributes differ in their names. -/
def addAttribute (set item : ObjectId) : Edit ObjectId := do
  match ← ask (·.get item) with
  | .attr name _ =>
    match ← ask (·.get set) with
    | .attributeSet items =>
      let found ← ask (·.firstNamed name items)
      require found.isNone (.attributeExists name set)
      append set item
    | o => refuse (.wrongSort set o.sort "attribute set")
  | o => refuse (.wrongSort item o.sort "attribute")

/-- The sorts of the children of a set or a list. -/
def childSorts : Object → Option (List ObjectSort)
  | .childSet _ _ => some [.element, .childSet, .childList]
  | .childList _ _ => some [.element, .childSet]
  | _ => none

/-- Add a child to a child set or a child list. -/
def addChild (container child : ObjectId) : Edit ObjectId := do
  let c ← ask (·.get child)
  let o ← ask (·.get container)
  match childSorts o with
  | none => refuse (.wrongSort container o.sort "child set or list")
  | some sorts =>
    require (sorts.contains c.sort) (.notAChild c.sort child container)
    append container child

/-! ## Slots -/

/-- Change what an attribute or an element holds. -/
def writeSlot (holder : ObjectId) (slot : Slot) : Edit Unit := do
  let _ ← ask (·.slot holder)
  changeObject holder (Object.withSlot slot)

/-- Whether an object may be the value of an attribute or an element. -/
def acceptsValue (holder value : ObjectSort) : Bool :=
  value == .simple || (value == .complex && holder != .attr)

/-- Refuse an object that may not be the value of an attribute or an element. -/
def expectValue (holder target : ObjectId) : Option ObjectId → Edit Unit
  | none => pure ()
  | some value => do
    let o ← ask (·.get target)
    let v ← ask (·.get value)
    require (acceptsValue o.sort v.sort) (.notAValue value holder)

/-- Set the value of an attribute or an element, or of the one that it refers to. -/
def setValue (holder : ObjectId) (value : Option ObjectId) : Edit (Option ObjectId) := do
  let target ← ask (·.effective holder)
  expectValue holder target value
  let old := (← ask (·.slot target)).value?
  if old.isSome && old = value then return old
  let attached ← value.mapM fun v => setParent v target
  displace old attached
  writeSlot target (.direct attached)
  return attached

/-- Whether an attribute or an element is found by following references from another one, for as
many steps as the fuel allows. -/
def refersTo (t : Tree) (holder : ObjectId) : Nat → ObjectId → Except TreeFault Bool
  | 0, _ => .ok false
  | fuel + 1, current => do
    if current = holder then .ok true
    else
      match ← t.slot current with
      | .direct _ => .ok false
      | .reference next => refersTo t holder fuel next

/-- Make an attribute or an element read the value of another one. -/
def setReference (holder target : ObjectId) : Edit Unit := do
  let a := (← ask (·.get holder)).sort
  let b := (← ask (·.get target)).sort
  require (a == b && (a == .attr || a == .element)) (.notReferable holder target)
  let found ← ask fun t => refersTo t holder (t.size + 1) target
  require (!found) (.referencedAlready holder target)
  detach (← ask (·.slot holder)).value?
  writeSlot holder (.reference target)

end Edit

/-! ## Operations -/

/-- The ways to build and change a tree. -/
inductive Operation
  | newSimple (typeName : Option FullName) (value : SimpleValue)
  | newComplex (typeName : Option FullName)
  | newAttribute (name : String)
  | newElement (name : FullName)
  | newAttributeSet
  | newChildSet (memberName : Option String)
  | newChildList (memberName : Option String)
  | setSpan (id : ObjectId) (span : Span)
  | setParent (child parent : ObjectId)
  | setAttributes (complex set : ObjectId)
  | setChildren (complex children : ObjectId)
  | addAttribute (set item : ObjectId)
  | addChild (container child : ObjectId)
  | setValue (holder : ObjectId) (value : Option ObjectId)
  | setReference (holder target : ObjectId)

/-- Perform an operation. The result is the object that was made or attached, if there is one. -/
def Operation.perform : Operation → Edit (Option ObjectId)
  | .newSimple typeName value => some <$> Edit.newSimple typeName value
  | .newComplex typeName => some <$> Edit.newComplex typeName
  | .newAttribute name => some <$> Edit.newAttribute name
  | .newElement name => some <$> Edit.newElement name
  | .newAttributeSet => some <$> Edit.newAttributeSet
  | .newChildSet memberName => some <$> Edit.newChildSet memberName
  | .newChildList memberName => some <$> Edit.newChildList memberName
  | .setSpan id span => (fun _ => none) <$> Edit.setSpan id span
  | .setParent child parent => some <$> Edit.setParent child parent
  | .setAttributes complex set => some <$> Edit.setAttributes complex set
  | .setChildren complex children => some <$> Edit.setChildren complex children
  | .addAttribute set item => some <$> Edit.addAttribute set item
  | .addChild container child => some <$> Edit.addChild container child
  | .setValue holder value => Edit.setValue holder value
  | .setReference holder target => (fun _ => none) <$> Edit.setReference holder target

/-- The outcome of an operation, and the tree after it. -/
def Tree.perform (t : Tree) (op : Operation) : Except TreeFault (Option ObjectId) × Tree :=
  op.perform.run.run t

/-- The tree after some operations, one after the other, whether they are refused or not. -/
def Tree.performAll (t : Tree) (ops : List Operation) : Tree :=
  ops.foldl (fun t op => (t.perform op).2) t

end Schemata
