import Schemata.Objects.Basic
import Schemata.Schema.Derivation

/-!
# Which declaration an object is held against

A `Demand` is what an object has to be: an instance of a type, an attribute that holds one, an
element, a child set or a child list. Children find their demands by matching: an element by its
name, which may also be that of an element that stands in for the declared one, and sets and lists
by the name of the member.
-/

namespace Schemata

/-- What an object has to be. -/
inductive Demand
  /-- An instance of a type or of a type that derives from it. -/
  | instanceOf (type : TypeId)
  /-- An attribute that holds an instance of a type. -/
  | holderOf (type : TypeId) (isNullable : Bool)
  | element (declared : Element)
  | childSet (s : ChildSet)
  | childList (item : Member) (occurs : Occurs)

/-- Whether the name of an object is that of a declared element. A name without a namespace goes
with every namespace. -/
def FullName.matches (given declared : FullName) : Bool :=
  given.name == declared.name && (given.uri.isEmpty || given.uri == declared.uri)

/-- A child that matches a member. -/
structure MemberMatch where
  child : ObjectId
  demand : Demand
  /-- The children before it that were looked at. -/
  before : List ObjectId
  after : List ObjectId

/-- The children that are left for the other members of a set: those that follow in a sequence, and
all others in a choice. -/
def MemberMatch.remaining (kind : SetKind) (found : MemberMatch) : List ObjectId :=
  match kind with
  | .sequence => found.after
  | .choice => found.before ++ found.after

namespace Schema

/-- The global element that a name stands for where a global element is declared: that one, or the
first of those that may stand in for it. -/
def matchGlobal (s : Schema) (name : FullName) (head : ElementId) : Option Element :=
  ((head :: s.allSubstitutors head).filterMap s.element?).find? fun e => name.matches e.fullName

/-- The element that a name stands for where an element is declared. -/
def matchElement (s : Schema) (name : FullName) (declared : Element) : Option Element :=
  match declared.referenced with
  | some head => s.matchGlobal name head
  | none => if name.matches declared.fullName then some declared else none

/-- What a child of a set has to be if it is a given member. -/
def matchMember (s : Schema) (o : Object) (m : Member) : Option Demand :=
  match m, o with
  | .element _ e _, .element name _ => (s.matchElement name e).map .element
  | .set label kind members span, .childSet name _ =>
    if name = some label.name then some (.childSet ⟨kind, members, span⟩) else none
  | .list label item occurs, .childList name _ =>
    if name = some label.name then some (.childList item occurs) else none
  | _, _ => none

/-- What an item of a list has to be. Sets may leave out their name. -/
def matchItem (s : Schema) (o : Object) (item : Member) : Option Demand :=
  match item, o with
  | .element _ e _, .element name _ => (s.matchElement name e).map .element
  | .set label kind members span, .childSet name _ =>
    if name.all (· == label.name) then some (.childSet ⟨kind, members, span⟩) else none
  | _, _ => none

/-- The first child that matches a member. -/
def firstMatch (s : Schema) (t : Tree) (m : Member) : List ObjectId → Option MemberMatch
  | [] => none
  | id :: rest =>
    match (t.node? id).bind fun n => s.matchMember n.object m with
    | some demand => some ⟨id, demand, [], rest⟩
    | none => (s.firstMatch t m rest).map fun found => { found with before := id :: found.before }

theorem eq_of_firstMatch {s : Schema} {t : Tree} {m : Member} {ids : List ObjectId}
    {found : MemberMatch} (h : s.firstMatch t m ids = some found) :
    ids = found.before ++ found.child :: found.after := by
  induction ids generalizing found with
  | nil => simp [firstMatch] at h
  | cons id rest ih =>
    unfold firstMatch at h
    split at h
    · cases h
      rfl
    · obtain ⟨found', h', rfl⟩ := Option.map_eq_some_iff.1 h
      simpa using ih h'

end Schema

end Schemata
