import Schemata.Proofs.Derivation

/-!
# Numbers that are stored

A schema refers to its symbols by number. `Schema.ids` is every number that is stored anywhere in a
schema: in types and their content, in global attributes and elements, in namespaces, and in the
table of substitutions. `Schema.Issues` says that the schema gave a number out.

Some numbers have to be those of simple types: of the items of a list, of attributes, and of simple
values. These are the `simpleTypes` of a content.
-/

namespace Schemata

/-! ## What is stored -/

/-- The numbers that an attribute stores. -/
def Attribute.ids (a : Attribute) : List SymbolId :=
  .type a.type :: a.referenced.toList.map .attr

/-- The numbers that an element stores. -/
def Element.ids (e : Element) : List SymbolId :=
  .type e.type :: (e.substituted.toList ++ e.referenced.toList).map .element

mutual

/-- The numbers that a member stores. -/
def Member.ids : Member → List SymbolId
  | .element _ e _ => e.ids
  | .set _ _ members _ => Member.allIds members
  | .list _ item _ => Member.ids item

/-- The numbers that some members store. -/
def Member.allIds : List Member → List SymbolId
  | [] => []
  | m :: ms => Member.ids m ++ Member.allIds ms

end

/-- The numbers that children store. -/
def Children.ids : Children → List SymbolId
  | .simple t => [.type t]
  | .set s => Member.allIds s.members

/-- The type of a simple value. -/
def Children.simpleTypes : Children → List TypeId
  | .simple t => [t]
  | .set _ => []

/-- The numbers that content stores. -/
def Content.ids : Content → List SymbolId
  | .simple c => c.item.toList.map .type
  | .complex c =>
    (c.attributes.getD []).flatMap Attribute.ids ++ c.children.toList.flatMap Children.ids

/-- The types in content that have to be simple. -/
def Content.simpleTypes : Content → List TypeId
  | .simple c => c.item.toList
  | .complex c =>
    (c.attributes.getD []).map Attribute.type ++ c.children.toList.flatMap Children.simpleTypes

/-- The numbers that a type stores. -/
def TypeDef.ids (t : TypeDef) : List SymbolId :=
  t.base.toList.map .type ++ t.content.ids

namespace Schema

/-- The numbers that a schema stores. -/
def ids (s : Schema) : List SymbolId :=
  s.types.toList.flatMap TypeDef.ids ++ s.attributes.toList.flatMap Attribute.ids ++
    s.elements.toList.flatMap Element.ids ++ s.namespaces.flatMap (·.members.map (·.2)) ++
    s.substitutions.flatMap fun p => [.element p.1, .element p.2]

/-- The schema gave out the number. -/
def Issues (s : Schema) : SymbolId → Prop
  | .type id => s.Has id
  | .attr id => id.index < s.attributes.size
  | .element id => id.index < s.elements.size

instance (s : Schema) (id : SymbolId) : Decidable (s.Issues id) :=
  match id with
  | .type _ | .attr _ | .element _ => inferInstanceAs (Decidable (_ < _))

theorem Extends.issues {s s' : Schema} (h : s.Extends s') {id : SymbolId} (hid : s.Issues id) :
    s'.Issues id := by
  cases id with
  | type id => exact h.has hid
  | attr id =>
    have := h.attr id _ (Array.getElem?_eq_getElem hid)
    exact (Array.getElem?_eq_some_iff.1 this).1
  | element id => exact Nat.lt_of_lt_of_le hid h.elements_size

end Schema

/-! ## Members -/

theorem Member.allIds_eq (ms : List Member) : allIds ms = ms.flatMap ids := by
  induction ms with
  | nil => simp [allIds]
  | cons m ms ih => simp [allIds, ih]

@[simp]
theorem Member.ids_atOrder (order : Nat) (m : Member) : (m.atOrder order).ids = m.ids := by
  cases m <;> simp [atOrder, withLabel, ids]

end Schemata
