import Schemata.Schema.Basic

/-!
# Derivation and substitution

A type derives from its base, from the base of that, and so on; a global element stands in for the
element that it substitutes, for the one which that substitutes, and so on. Both relations are
walks along one link. `follow` walks a link for as many steps as there are symbols, which is enough
because no symbol comes twice.
-/

namespace Schemata

/-- What is reached from a start along a link, the start included, in at most a number of steps. -/
def follow {α : Type} (link : α → Option α) : Nat → α → List α
  | 0, a => [a]
  | n + 1, a => a :: (link a).elim [] (follow link n)

namespace Schema

/-- The type itself, its base, the base of that, and so on. -/
def baseChain (s : Schema) (id : TypeId) : List TypeId :=
  follow (fun t => (s.typeDef t).base) s.types.size id

/-- Whether a type is another one or derives from it. -/
def derives (s : Schema) (derived base : TypeId) : Bool :=
  (s.baseChain derived).contains base

/-- The number of types above a type. -/
def depth (s : Schema) (id : TypeId) : Nat := (s.baseChain id).length - 1

/-- The element that a global element substitutes. -/
def substituted? (s : Schema) (id : ElementId) : Option ElementId :=
  (s.element? id).bind (·.substituted)

/-- The element itself, the one it substitutes, the one which that substitutes, and so on. -/
def headChain (s : Schema) (id : ElementId) : List ElementId :=
  follow s.substituted? s.elements.size id

/-- Whether an element is another one or may stand in for it. -/
def substitutes (s : Schema) (candidate head : ElementId) : Bool :=
  (s.headChain candidate).contains head

/-- The elements that substitute an element directly, as they were noted. -/
def substitutors (s : Schema) (head : ElementId) : List ElementId :=
  (s.substitutions.filter (·.1 == head)).map (·.2)

/-- The elements that are found from those at hand, the last of which is looked at first. -/
def reachSubstitutors (s : Schema) : Nat → List ElementId → List ElementId → List ElementId
  | 0, _, _ => []
  | _, _, [] => []
  | fuel + 1, seen, current :: pending =>
    let found := (s.substitutors current).filter fun id => !seen.contains id
    found ++ s.reachSubstitutors fuel (found ++ seen) (found.reverse ++ pending)

/-- Every element that may stand in for an element, except itself. -/
def allSubstitutors (s : Schema) (head : ElementId) : List ElementId :=
  s.reachSubstitutors (s.elements.size + 1) [head] [head]

theorem derives_refl (s : Schema) (id : TypeId) : s.derives id id := by
  unfold derives baseChain
  cases s.types.size <;> simp [follow]

theorem substitutes_refl (s : Schema) (id : ElementId) : s.substitutes id id := by
  unfold substitutes headChain
  cases s.elements.size <;> simp [follow]

end Schema

end Schemata
