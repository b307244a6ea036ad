import Schemata.Declaration.Basic
import Schemata.Occurs
import Schemata.Schema.Symbol

/-!
# Children of a complex type

The structural children of a type are a set of members, a sequence or a choice. A member is an
element, a set again, or a list of one repeated item. Every member has a name, which its siblings
do not have, and an order, which is its position among them.

Whether a set may be absent follows from its members: a sequence if all of them may, a choice if
one of them may. So an empty sequence may be absent and an empty choice may not.
-/

namespace Schemata

/-- What every member of a set has. -/
structure MemberLabel where
  name : String
  order : Nat
  span : Option Span

/-- A member of a set. -/
inductive Member
  | element (label : MemberLabel) (element : Element) (isOptional : Bool)
  /-- A nested set, with the place of the set. -/
  | set (label : MemberLabel) (kind : SetKind) (members : List Member) (span : Option Span)
  | list (label : MemberLabel) (item : Member) (occurs : Occurs)

/-- The root of structural children. -/
structure ChildSet where
  kind : SetKind
  members : List Member := []
  span : Option Span := none

/-- The children of a complex type: a simple value, or a set. -/
inductive Children
  | simple (type : TypeId)
  | set (s : ChildSet)

namespace Member

/-- What the member has as a member. -/
def label : Member → MemberLabel
  | .element l _ _ => l
  | .set l _ _ _ => l
  | .list l _ _ => l

/-- The name among siblings. -/
def name (m : Member) : String := m.label.name

/-- The same member with another label. -/
def withLabel (label : MemberLabel) : Member → Member
  | .element _ e o => .element label e o
  | .set _ k ms s => .set label k ms s
  | .list _ i o => .list label i o

/-- The same member at another position. -/
def atOrder (order : Nat) (m : Member) : Member :=
  m.withLabel { m.label with order }

mutual

/-- Whether a member may be absent. -/
def isOptional : Member → Bool
  | .element _ _ isOptional => isOptional
  | .set _ .sequence members _ => allOptional members
  | .set _ .choice members _ => anyOptional members
  | .list _ _ occurs => occurs.isEmptiable

/-- Whether all members may be absent. -/
def allOptional : List Member → Bool
  | [] => true
  | m :: ms => isOptional m && allOptional ms

/-- Whether some member may be absent. -/
def anyOptional : List Member → Bool
  | [] => false
  | m :: ms => isOptional m || anyOptional ms

end

theorem allOptional_eq (ms : List Member) : allOptional ms = ms.all isOptional := by
  induction ms with
  | nil => simp [allOptional]
  | cons m ms ih => simp [allOptional, ih]

theorem anyOptional_eq (ms : List Member) : anyOptional ms = ms.any isOptional := by
  induction ms with
  | nil => simp [anyOptional]
  | cons m ms ih => simp [anyOptional, ih]

/-- The member of a given name. -/
def find? (members : List Member) (name : String) : Option Member :=
  members.find? (·.name == name)

/-- Whether a member of a given name is among others. -/
def isIn (members : List Member) (name : String) : Bool := members.any (·.name == name)

theorem name_atOrder (order : Nat) (m : Member) : (m.atOrder order).name = m.name := by
  cases m <;> rfl

end Member

/-- Whether a set may be absent. -/
def ChildSet.isOptional (s : ChildSet) : Bool :=
  match s.kind with
  | .sequence => s.members.all Member.isOptional
  | .choice => s.members.any Member.isOptional

/-- The shape of a member, which a restriction keeps. -/
inductive Shape
  | innerElement
  | elementReference
  | set (kind : SetKind)
  | list
  deriving DecidableEq

/-- The words for a shape. -/
def Shape.text : Shape → String
  | .innerElement => "local element"
  | .elementReference => "global element reference"
  | .set .sequence => "sequence"
  | .set .choice => "choice"
  | .list => "list"

/-- The shape of a member. -/
def Member.shape : Member → Shape
  | .element _ e _ => if e.referenced.isSome then .elementReference else .innerElement
  | .set _ k _ _ => .set k
  | .list _ _ _ => .list

end Schemata
