import Schemata.Outline.Basic
import Schemata.Proofs.DisplayNames
import Schemata.Proofs.Integrity

/-!
# Closed outlines

The outline of an accepted schema is closed and unambiguous (`closed_of_accepts`). It speaks of
types and elements by displayed names, in the places where the schema has numbers. Each of these
names is displayed by one type or element only, which is the one that the schema refers to; and
unless it is a built-in type, the outline has one member of that name, which is its own outline.

The names that an outline gives are compared with the numbers that the schema stores, place by
place: first for one symbol, where the elements of a child set are collected at every depth, then
for all that are declared (`Schema.typeNames_outline`, `Schema.elementNames_outline`).
-/

namespace Schemata

/-! ## The names that an outline gives -/

mutual

/-- The elements of a member, at every depth. -/
def MemberOutline.elements : MemberOutline → List ElementOutline
  | .mk _ _ element set item _ => element.toList ++ setElements? set ++ memberElements? item

/-- The elements of a child set, at every depth. -/
def SetOutline.elements : SetOutline → List ElementOutline
  | .mk _ members => memberElements members

/-- The elements of several members. -/
def memberElements : List MemberOutline → List ElementOutline
  | [] => []
  | m :: ms => m.elements ++ memberElements ms

/-- The elements of a member that may be absent. -/
def memberElements? : Option MemberOutline → List ElementOutline
  | none => []
  | some m => m.elements

/-- The elements of a set that may be absent. -/
def setElements? : Option SetOutline → List ElementOutline
  | none => []
  | some s => s.elements

end

/-- The elements that an element substitutes and refers to. -/
def ElementOutline.elementNames (e : ElementOutline) : List String :=
  e.substitutes.toList ++ e.references.toList

namespace TypeOutline

/-- The names of types: of the base, the items, the attributes, the simple content and the
children. -/
def typeNames (t : TypeOutline) : List String :=
  t.base.toList ++ (t.itemType.toList ++ (t.attributes.map (·.typeName) ++
    (t.simpleContent.toList ++ (setElements? t.children).map (·.typeName))))

/-- The names of elements. -/
def elementNames (t : TypeOutline) : List String :=
  (setElements? t.children).flatMap ElementOutline.elementNames

end TypeOutline

namespace SymbolOutline

/-- The names of types that a symbol gives. -/
def typeNames : SymbolOutline → List String
  | .type t => t.typeNames
  | .attr a => [a.typeName]
  | .element e => [e.typeName]

/-- The names of elements that a symbol gives. -/
def elementNames : SymbolOutline → List String
  | .type t => t.elementNames
  | .attr _ => []
  | .element e => e.elementNames

/-- The type that a symbol is, if it is one. -/
def asType? : SymbolOutline → Option TypeOutline
  | .type t => some t
  | _ => none

/-- The element that a symbol is, if it is one. -/
def asElement? : SymbolOutline → Option ElementOutline
  | .element e => some e
  | _ => none

end SymbolOutline

namespace Outline

/-- The members of all namespaces. -/
def symbols (o : Outline) : List SymbolOutline := o.namespaces.flatMap (·.members)

/-- The names of types that an outline gives. -/
def typeNames (o : Outline) : List String := o.symbols.flatMap SymbolOutline.typeNames

/-- The names of elements that an outline gives. -/
def elementNames (o : Outline) : List String := o.symbols.flatMap SymbolOutline.elementNames

/-- The type members. -/
def types (o : Outline) : List TypeOutline := o.symbols.filterMap SymbolOutline.asType?

/-- The element members. -/
def elements (o : Outline) : List ElementOutline := o.symbols.filterMap SymbolOutline.asElement?

end Outline

/-! ## The numbers in their places -/

mutual

/-- The elements of a member, at every depth. -/
def Member.elements : Member → List Element
  | .element _ e _ => [e]
  | .set _ _ members _ => Member.allElements members
  | .list _ item _ => Member.elements item

/-- The elements of some members. -/
def Member.allElements : List Member → List Element
  | [] => []
  | m :: ms => Member.elements m ++ Member.allElements ms

end

mutual

theorem Member.ids_eq : ∀ m : Member, m.ids = m.elements.flatMap Element.ids
  | .element _ e _ => by simp [ids, elements]
  | .set _ _ members _ => by rw [ids, elements, Member.allIds_eq_flatMap members]
  | .list _ item _ => by rw [ids, elements, Member.ids_eq item]

theorem Member.allIds_eq_flatMap :
    ∀ ms : List Member, allIds ms = (allElements ms).flatMap Element.ids
  | [] => rfl
  | m :: ms => by
    rw [allIds, allElements, List.flatMap_append, Member.ids_eq m, Member.allIds_eq_flatMap ms]

end

namespace Schema

variable (s : Schema)

mutual

theorem elements_memberOutline : ∀ m : Member,
    (s.memberOutline m).elements = m.elements.map s.elementOutline
  | .element .. => rfl
  | .set _ _ members _ => by
    rw [memberOutline, MemberOutline.elements, setElements?, SetOutline.elements,
      elements_memberOutlines members]
    simp [memberElements?, Member.elements]
  | .list _ item _ => by
    rw [memberOutline, MemberOutline.elements, memberElements?, elements_memberOutline item]
    simp [setElements?, Member.elements]

theorem elements_memberOutlines : ∀ ms : List Member,
    memberElements (s.memberOutlines ms) = (Member.allElements ms).map s.elementOutline
  | [] => rfl
  | m :: ms => by
    rw [memberOutlines, memberElements, Member.allElements, List.map_append,
      elements_memberOutline m, elements_memberOutlines ms]

end

/-- The numbers that a symbol stores. -/
def symbolIds (s : Schema) : SymbolId → List SymbolId
  | .type id => (s.typeDef id).ids
  | .attr id => (s.attribute? id).elim [] Attribute.ids
  | .element id => (s.element? id).elim [] Element.ids

/-- The symbols that are declared, in the order of their namespaces. -/
def declaredIds (s : Schema) : List SymbolId :=
  (s.namespaces.filter (·.uri != FullName.systemUri)).flatMap (·.members.map (·.2))

/-- The types that declared symbols refer to, in order. -/
def referredTypes (s : Schema) : List TypeId :=
  (s.declaredIds.flatMap s.symbolIds).filterMap (·.asType?)

/-- The elements that declared symbols refer to, in order. -/
def referredElements (s : Schema) : List ElementId :=
  (s.declaredIds.flatMap s.symbolIds).filterMap (·.asElement?)

end Schema

namespace SymbolId

@[simp] theorem asType?_type (id : TypeId) : (type id).asType? = some id := rfl

@[simp] theorem asType?_attr (id : AttributeId) : (attr id).asType? = none := rfl

@[simp] theorem asType?_element (id : ElementId) : (element id).asType? = none := rfl

@[simp] theorem asElement?_type (id : TypeId) : (type id).asElement? = none := rfl

@[simp] theorem asElement?_attr (id : AttributeId) : (attr id).asElement? = none := rfl

@[simp] theorem asElement?_element (id : ElementId) : (element id).asElement? = some id := rfl

theorem asType?_eq_some {i : SymbolId} {id : TypeId} : i.asType? = some id ↔ i = .type id := by
  cases i <;> simp

theorem asElement?_eq_some {i : SymbolId} {id : ElementId} :
    i.asElement? = some id ↔ i = .element id := by
  cases i <;> simp

theorem mem_types {l : List SymbolId} {id : TypeId} :
    id ∈ l.filterMap (·.asType?) ↔ .type id ∈ l := by
  simp [List.mem_filterMap, asType?_eq_some]

theorem mem_elements {l : List SymbolId} {id : ElementId} :
    id ∈ l.filterMap (·.asElement?) ↔ .element id ∈ l := by
  simp [List.mem_filterMap, asElement?_eq_some]

theorem nodup_types {l : List SymbolId} (h : l.Nodup) : (l.filterMap (·.asType?)).Nodup :=
  h.filterMap fun _ _ _ hi hi' => (asType?_eq_some.1 hi).trans (asType?_eq_some.1 hi').symm

theorem nodup_elements {l : List SymbolId} (h : l.Nodup) : (l.filterMap (·.asElement?)).Nodup :=
  h.filterMap fun _ _ _ hi hi' => (asElement?_eq_some.1 hi).trans (asElement?_eq_some.1 hi').symm

end SymbolId

theorem Attribute.types_ids (a : Attribute) : a.ids.filterMap (·.asType?) = [a.type] := by
  cases h : a.referenced <;> simp [ids, h]

theorem Attribute.elements_ids (a : Attribute) : a.ids.filterMap (·.asElement?) = [] := by
  cases h : a.referenced <;> simp [ids, h]

theorem Element.types_ids (e : Element) : e.ids.filterMap (·.asType?) = [e.type] := by
  cases h : e.substituted <;> cases h' : e.referenced <;> simp [ids, h, h']

theorem Element.elements_ids (e : Element) : e.ids.filterMap (·.asElement?) =
    e.substituted.toList ++ e.referenced.toList := by
  cases h : e.substituted <;> cases h' : e.referenced <;> simp [ids, h, h', List.filterMap_cons]

theorem Member.types_allIds (ms : List Member) :
    (allIds ms).filterMap (·.asType?) = (allElements ms).map Element.type := by
  rw [allIds_eq_flatMap, List.filterMap_flatMap]
  simp only [Element.types_ids, ← List.map_eq_flatMap]

theorem Member.elements_allIds (ms : List Member) : (allIds ms).filterMap (·.asElement?) =
    (allElements ms).flatMap fun e => e.substituted.toList ++ e.referenced.toList := by
  rw [allIds_eq_flatMap, List.filterMap_flatMap]
  simp only [Element.elements_ids]

namespace Schema

variable (s : Schema)

theorem elementNames_elementOutline (e : Element) : (s.elementOutline e).elementNames =
    (e.substituted.toList ++ e.referenced.toList).map s.elementName := by
  cases h : e.substituted <;> cases h' : e.referenced <;>
    simp [elementOutline, ElementOutline.elementNames, h, h']

theorem elements_setOutline (set : ChildSet) : (s.setOutline set).elements =
    (Member.allElements set.members).map s.elementOutline := by
  rw [setOutline, SetOutline.elements, elements_memberOutlines]

theorem typeNames_typeOutline (t : TypeDef) :
    (s.typeOutline t).typeNames = (t.ids.filterMap (·.asType?)).map s.typeName := by
  rw [typeOutline, TypeDef.ids]
  cases t.content with
  | simple c =>
    simp [TypeOutline.typeNames, headerOutline, Content.ids, setElements?, Option.toList_map,
      List.filterMap_map, Function.comp_def]
  | complex c =>
    have hattributes : ((c.attributes.getD []).flatMap Attribute.ids).filterMap (·.asType?) =
        (c.attributes.getD []).map (·.type) := by
      rw [List.filterMap_flatMap]
      simp only [Attribute.types_ids, ← List.map_eq_flatMap]
    rw [Content.ids, List.filterMap_append, List.filterMap_append, hattributes]
    rcases hc : c.children with _ | ⟨type⟩ | ⟨set⟩
    all_goals
      simp [TypeOutline.typeNames, headerOutline, setElements?, ComplexContent.childSet?, hc,
        attributeOutline, elementOutline, elements_setOutline, Children.ids, Member.types_allIds,
        Option.toList_map, List.filterMap_map, Function.comp_def]

theorem elementNames_typeOutline (t : TypeDef) :
    (s.typeOutline t).elementNames = (t.ids.filterMap (·.asElement?)).map s.elementName := by
  rw [typeOutline, TypeDef.ids]
  cases t.content with
  | simple c => simp [TypeOutline.elementNames, headerOutline, Content.ids, setElements?]
  | complex c =>
    have hattributes : ((c.attributes.getD []).flatMap Attribute.ids).filterMap (·.asElement?) =
        [] := by
      rw [List.filterMap_flatMap]
      simp [Attribute.elements_ids]
    rw [Content.ids, List.filterMap_append, List.filterMap_append, hattributes]
    rcases hc : c.children with _ | ⟨type⟩ | ⟨set⟩
    all_goals
      simp [TypeOutline.elementNames, setElements?, ComplexContent.childSet?, hc,
        elements_setOutline, Children.ids, Member.elements_allIds, List.flatMap_map,
        List.map_flatMap, elementNames_elementOutline]

/-! ## The members of an outline -/

theorem symbols_outline : s.outline.symbols = s.declaredIds.filterMap s.symbolOutline? := by
  rw [declaredIds, List.filterMap_flatMap, outline, Outline.symbols, List.flatMap_map]
  simp only [List.filterMap_map, Function.comp_def]

theorem types_outline : s.outline.types =
    (s.declaredIds.filterMap (·.asType?)).map fun id => s.typeOutline (s.typeDef id) := by
  have hsymbol : ∀ id : SymbolId, (s.symbolOutline? id).bind SymbolOutline.asType? =
      id.asType?.map fun id => s.typeOutline (s.typeDef id) := by
    rintro (id | id | id)
    · rfl
    · cases h : s.attribute? id <;> simp [symbolOutline?, h, SymbolOutline.asType?]
    · cases h : s.element? id <;> simp [symbolOutline?, h, SymbolOutline.asType?]
  rw [Outline.types, symbols_outline, List.filterMap_filterMap, List.map_filterMap]
  simp only [hsymbol]

theorem elements_outline : s.outline.elements = (s.declaredIds.filterMap (·.asElement?)).filterMap
    fun id => (s.element? id).map s.elementOutline := by
  have hsymbol : ∀ id : SymbolId, (s.symbolOutline? id).bind SymbolOutline.asElement? =
      id.asElement?.bind fun id => (s.element? id).map s.elementOutline := by
    rintro (id | id | id)
    · rfl
    · cases h : s.attribute? id <;> simp [symbolOutline?, h, SymbolOutline.asElement?]
    · cases h : s.element? id <;> simp [symbolOutline?, h, SymbolOutline.asElement?]
  rw [Outline.elements, symbols_outline, List.filterMap_filterMap, List.filterMap_filterMap]
  simp only [hsymbol]

theorem typeNames_symbolOutline? (id : SymbolId) :
    (s.symbolOutline? id).elim [] SymbolOutline.typeNames =
      ((s.symbolIds id).filterMap (·.asType?)).map s.typeName := by
  rcases id with id | id | id
  · exact s.typeNames_typeOutline _
  · cases h : s.attribute? id with
    | none => simp [symbolOutline?, symbolIds, h]
    | some a => simp [symbolOutline?, symbolIds, h, SymbolOutline.typeNames, attributeOutline,
        Attribute.types_ids]
  · cases h : s.element? id with
    | none => simp [symbolOutline?, symbolIds, h]
    | some e => simp [symbolOutline?, symbolIds, h, SymbolOutline.typeNames, elementOutline,
        Element.types_ids]

theorem elementNames_symbolOutline? (id : SymbolId) :
    (s.symbolOutline? id).elim [] SymbolOutline.elementNames =
      ((s.symbolIds id).filterMap (·.asElement?)).map s.elementName := by
  rcases id with id | id | id
  · exact s.elementNames_typeOutline _
  · cases h : s.attribute? id with
    | none => simp [symbolOutline?, symbolIds, h]
    | some a => simp [symbolOutline?, symbolIds, h, SymbolOutline.elementNames,
        Attribute.elements_ids]
  · cases h : s.element? id with
    | none => simp [symbolOutline?, symbolIds, h]
    | some e => simp [symbolOutline?, symbolIds, h, SymbolOutline.elementNames,
        elementNames_elementOutline, Element.elements_ids]

theorem flatMap_filterMap {α β γ : Type} (l : List α) (f : α → Option β) (g : β → List γ) :
    (l.filterMap f).flatMap g = l.flatMap fun a => (f a).elim [] g := by
  induction l with
  | nil => rfl
  | cons a l ih => cases h : f a <;> simp [h, ih]

/-- The names of types that an outline gives are those of the types that are referred to, place by
place. -/
theorem typeNames_outline : s.outline.typeNames = s.referredTypes.map s.typeName := by
  rw [Outline.typeNames, symbols_outline, flatMap_filterMap, referredTypes, List.filterMap_flatMap,
    List.map_flatMap]
  simp only [typeNames_symbolOutline?]

theorem elementNames_outline : s.outline.elementNames =
    s.referredElements.map s.elementName := by
  rw [Outline.elementNames, symbols_outline, flatMap_filterMap, referredElements,
    List.filterMap_flatMap, List.map_flatMap]
  simp only [elementNames_symbolOutline?]

theorem mem_ids_of_mem_symbolIds {id i : SymbolId} (hid : s.Issues id) (hi : i ∈ s.symbolIds id) :
    i ∈ s.ids := by
  unfold ids
  simp only [List.mem_append, List.mem_flatMap, Array.mem_toList_iff]
  rcases id with id | id | id
  · have hlt : id.index < s.types.size := hid
    have hdef : s.typeDef id = s.types[id.index] := by
      rw [typeDef, Array.getElem?_eq_getElem hlt, Option.getD_some]
    rw [symbolIds, hdef] at hi
    exact .inl (.inl (.inl (.inl ⟨_, Array.getElem_mem hid, hi⟩)))
  · rw [symbolIds, attribute?, Array.getElem?_eq_getElem hid] at hi
    exact .inl (.inl (.inl (.inr ⟨_, Array.getElem_mem hid, hi⟩)))
  · rw [symbolIds, element?, Array.getElem?_eq_getElem hid] at hi
    exact .inl (.inl (.inr ⟨_, Array.getElem_mem hid, hi⟩))

/-! ## What names stand for -/

/-- A name is displayed by one type only. The type is built in, or the outline has one member of the
name, which is the outline of the type. -/
structure NamesType (s : Schema) (name : String) (id : TypeId) : Prop where
  issued : s.Has id
  displays : s.typeName id = name
  unique : ∀ id', s.Has id' → s.typeName id' = name → id' = id
  member : (∃ k : Kind, id = k.typeId) ∧ s.outline.types.filter (·.name == name) = [] ∨
    s.outline.types.filter (·.name == name) = [s.typeOutline (s.typeDef id)]

/-- A name is displayed by one element only, and the outline has one member of the name, which is
the outline of the element. -/
structure NamesElement (s : Schema) (name : String) (id : ElementId) : Prop where
  displays : s.elementName id = name
  unique : ∀ id', s.Issues (.element id') → s.elementName id' = name → id' = id
  member : ∃ e, s.element? id = some e ∧
    s.outline.elements.filter (·.name == name) = [s.elementOutline e]

/-- The outline of a schema is closed and unambiguous. -/
structure Closed (s : Schema) : Prop where
  types : ∀ id id', s.Has id → s.Has id' → s.typeName id = s.typeName id' → id = id'
  elements : ∀ id id', s.Issues (.element id) → s.Issues (.element id') →
    s.elementName id = s.elementName id' → id = id'
  /-- Names of types stand for what the schema refers to, place by place. -/
  typeNames : List.Forall₂ s.NamesType s.outline.typeNames s.referredTypes
  elementNames : List.Forall₂ s.NamesElement s.outline.elementNames s.referredElements

/-- Displayed names tell symbols apart, everything but the built-in types is declared, once, and
what is referred to was given out. -/
structure WellNamed (s : Schema) : Prop where
  types : ∀ id id', s.Has id → s.Has id' → s.typeName id = s.typeName id' → id = id'
  elements : ∀ id id', s.Issues (.element id) → s.Issues (.element id') →
    s.elementName id = s.elementName id' → id = id'
  nodup : s.declaredIds.Nodup
  declared : ∀ id, s.Issues id → (∃ k : Kind, id = .type k.typeId) ∨ id ∈ s.declaredIds
  issued : ∀ id ∈ s.declaredIds, s.Issues id
  undeclared : ∀ k : Kind, .type k.typeId ∉ s.declaredIds
  referred : ∀ id ∈ s.declaredIds.flatMap s.symbolIds, s.Issues id

variable {s : Schema}

theorem name_typeOutline (t : TypeDef) : (s.typeOutline t).name = t.fullName.text := by
  unfold typeOutline
  split <;> rfl

/-- Where one entry of a list has a property, the filter leaves what is made of it. -/
theorem filter_filterMap_eq_singleton {α β : Type} {f : α → Option β} {p : β → Bool} {l : List α}
    (hl : l.Nodup) {a : α} (ha : a ∈ l) {b : β} (hb : f a = some b) (hpb : p b)
    (hp : ∀ x ∈ l, ∀ y, f x = some y → p y → x = a) : (l.filterMap f).filter p = [b] := by
  induction l with
  | nil => cases ha
  | cons x l ih =>
    obtain ⟨hx, hl⟩ := List.nodup_cons.1 hl
    obtain ⟨hpx, hp⟩ := List.forall_mem_cons.1 hp
    by_cases heq : x = a
    · subst heq
      rw [List.filterMap_cons_some hb, List.filter_cons_of_pos hpb, List.cons.injEq]
      refine ⟨rfl, List.filter_eq_nil_iff.2 fun y hy hpy => ?_⟩
      obtain ⟨z, hz, hfz⟩ := List.mem_filterMap.1 hy
      exact hx (hp z hz y hfz hpy ▸ hz)
    · have hrest := ih hl ((List.mem_cons.1 ha).resolve_left (Ne.symm heq)) hp
      cases hfx : f x with
      | none => rw [List.filterMap_cons_none hfx, hrest]
      | some y =>
        rw [List.filterMap_cons_some hfx, List.filter_cons_of_neg, hrest]
        exact fun hpy => heq (hpx y hfx hpy)

namespace WellNamed

variable (h : s.WellNamed)
include h

theorem namesType {id : TypeId} (hid : s.Has id) : s.NamesType (s.typeName id) id := by
  have hunique : ∀ x ∈ s.declaredIds.filterMap (·.asType?),
      s.typeName x = s.typeName id → x = id :=
    fun x hx => h.types x id (h.issued _ (SymbolId.mem_types.1 hx)) hid
  refine ⟨hid, rfl, fun x hx => h.types x id hx hid, ?_⟩
  rw [types_outline]
  rcases h.declared (.type id) hid with ⟨k, hk⟩ | hdeclared
  · refine .inl ⟨⟨k, SymbolId.type.inj hk⟩, List.filter_eq_nil_iff.2 fun t ht hname => ?_⟩
    obtain ⟨x, hx, rfl⟩ := List.mem_map.1 ht
    rw [name_typeOutline, beq_iff_eq] at hname
    obtain rfl := hunique x hx hname
    exact h.undeclared k (hk ▸ SymbolId.mem_types.1 hx)
  · have hmem := SymbolId.mem_types.2 hdeclared
    refine .inr ?_
    rw [← List.filterMap_eq_map]
    refine filter_filterMap_eq_singleton (SymbolId.nodup_types h.nodup) hmem rfl ?_ ?_
    · rw [name_typeOutline, beq_iff_eq, typeName]
    · rintro x hx t ht hname
      cases ht
      rw [name_typeOutline, beq_iff_eq] at hname
      exact hunique x hx hname

theorem namesElement {id : ElementId} (hid : s.Issues (.element id)) :
    s.NamesElement (s.elementName id) id := by
  have hname : ∀ x e, s.element? x = some e → (s.elementOutline e).name = s.elementName x := by
    intro x e he
    rw [elementName, he]
    rfl
  obtain ⟨e, he⟩ : ∃ e, s.element? id = some e := ⟨_, Array.getElem?_eq_getElem hid⟩
  have houtline : (s.element? id).map s.elementOutline = some (s.elementOutline e) := by
    rw [he, Option.map_some]
  have hbuiltin : ¬∃ k : Kind, SymbolId.element id = .type k.typeId := by
    rintro ⟨k, hk⟩
    cases hk
  have hmem := SymbolId.mem_elements.2 ((h.declared (.element id) hid).resolve_left hbuiltin)
  refine ⟨rfl, fun x hx => h.elements x id hx hid, e, he, ?_⟩
  rw [elements_outline]
  refine filter_filterMap_eq_singleton (SymbolId.nodup_elements h.nodup) hmem houtline ?_ ?_
  · rw [hname id e he, beq_iff_eq]
  · intro x hx o ho heq
    obtain ⟨e', he', rfl⟩ := Option.map_eq_some_iff.1 ho
    rw [hname x e' he', beq_iff_eq] at heq
    exact h.elements x id (h.issued _ (SymbolId.mem_elements.1 hx)) hid heq

theorem closed : s.Closed := by
  refine ⟨h.types, h.elements, ?_, ?_⟩
  · rw [typeNames_outline, List.forall₂_map_left_iff, List.forall₂_same]
    exact fun id hid => h.namesType (h.referred _ (SymbolId.mem_types.1 hid))
  · rw [elementNames_outline, List.forall₂_map_left_iff, List.forall₂_same]
    exact fun id hid => h.namesElement (h.referred _ (SymbolId.mem_elements.1 hid))

end WellNamed

end Schema

/-! ## The outline of an accepted schema -/

namespace Builder.Completes

variable {b : Builder} {namespaces : List NamespaceDecl} {limits : Limits}

/-- No two declarations have the same symbol. -/
theorem nodup_values_named (h : b.Completes namespaces limits) :
    ((b.named (Catalog.ofNamespaces namespaces).1).map Prod.snd).Nodup := by
  rw [named, List.map_filterMap]
  refine (Catalog.nodup_ids _).filterMap fun o p id ho hp => ?_
  have hsymbol : ∀ o, id ∈ (((Catalog.ofNamespaces namespaces).1.get? o).bind fun d =>
      (b.symbol? o).map (d.fullName, ·)).map Prod.snd → b.symbol? o = some id := by
    intro o ho
    obtain ⟨q, hq, rfl⟩ := Option.map_eq_some_iff.1 ho
    obtain ⟨d, -, hq⟩ := Option.bind_eq_some_iff.1 hq
    obtain ⟨s, hs, rfl⟩ := Option.map_eq_some_iff.1 hq
    exact hs
  exact h.numbered.inj (hsymbol o ho) (hsymbol p hp)

/-- The members of a namespace but the one of the built-in types are what was declared in it. -/
theorem members_of_mem (h : b.Completes namespaces limits) {ns : Namespace}
    (hns : ns ∈ (b.published (Catalog.ofNamespaces namespaces).1).namespaces)
    (huri : ns.uri ≠ FullName.systemUri) : ns.members =
      ((b.named (Catalog.ofNamespaces namespaces).1).filter (·.1.uri = ns.uri)).map
        fun p => (p.1.name, p.2) := by
  have hmembers : (b.published (Catalog.ofNamespaces namespaces).1).members ns.uri = ns.members :=
    Namespace.membersAt_of_mem h.nodup_uris hns
  rw [← hmembers, h.members_published, if_neg huri, List.nil_append]

theorem exists_named (h : b.Completes namespaces limits) {ns : Namespace}
    (hns : ns ∈ (b.published (Catalog.ofNamespaces namespaces).1).namespaces)
    (huri : ns.uri ≠ FullName.systemUri) {id : SymbolId} (hid : id ∈ ns.members.map (·.2)) :
    ∃ p ∈ b.named (Catalog.ofNamespaces namespaces).1, p.1.uri = ns.uri ∧ p.2 = id := by
  rw [h.members_of_mem hns huri, List.map_map] at hid
  obtain ⟨p, hp, rfl⟩ := List.mem_map.1 hid
  obtain ⟨hp, huri⟩ := List.mem_filter.1 hp
  exact ⟨p, hp, of_decide_eq_true huri, rfl⟩

theorem mem_declaredIds (h : b.Completes namespaces limits) {id : SymbolId} :
    id ∈ (b.published (Catalog.ofNamespaces namespaces).1).declaredIds ↔
      id ∈ (b.named (Catalog.ofNamespaces namespaces).1).map Prod.snd := by
  simp only [Schema.declaredIds, List.mem_flatMap, List.mem_filter, bne_iff_ne]
  constructor
  · rintro ⟨ns, ⟨hns, huri⟩, hid⟩
    obtain ⟨p, hp, -, rfl⟩ := h.exists_named hns huri hid
    exact List.mem_map_of_mem hp
  · intro hid
    obtain ⟨p, hp, rfl⟩ := List.mem_map.1 hid
    have hsystem : p.1.uri ≠ FullName.systemUri := by
      simpa [FullName.isSystem] using h.not_isSystem_of_mem_named hp
    have hmem : (p.1.name, p.2) ∈
        (b.published (Catalog.ofNamespaces namespaces).1).members p.1.uri := by
      rw [h.members_published, if_neg hsystem, List.nil_append]
      exact List.mem_map_of_mem (List.mem_filter.2 ⟨hp, by simp⟩)
    rw [Schema.members, Namespace.membersAt] at hmem
    cases hfind : (b.published (Catalog.ofNamespaces namespaces).1).namespaces.find?
        (·.uri == p.1.uri) with
    | none =>
      rw [hfind] at hmem
      cases hmem
    | some ns =>
      rw [hfind, Option.elim_some] at hmem
      have huri : ns.uri = p.1.uri := by simpa using List.find?_some hfind
      exact ⟨ns, ⟨List.mem_of_find?_eq_some hfind, huri ▸ hsystem⟩, List.mem_map_of_mem hmem⟩

theorem nodup_declaredIds (h : b.Completes namespaces limits) :
    (b.published (Catalog.ofNamespaces namespaces).1).declaredIds.Nodup := by
  rw [Schema.declaredIds, List.nodup_flatMap]
  constructor
  · intro ns hns
    obtain ⟨hns, huri⟩ := List.mem_filter.1 hns
    rw [h.members_of_mem hns (by simpa using huri), List.map_map]
    exact (h.nodup_values_named.sublist (List.filter_sublist.map Prod.snd))
  · have huris := (List.pairwise_map.1 h.nodup_uris).filter (·.uri != FullName.systemUri)
    refine huris.imp_of_mem fun {ns ns'} hns hns' hne id hid hid' => ?_
    obtain ⟨hns, huri⟩ := List.mem_filter.1 hns
    obtain ⟨hns', huri'⟩ := List.mem_filter.1 hns'
    obtain ⟨p, hp, hpuri, rfl⟩ := h.exists_named hns (by simpa using huri) hid
    obtain ⟨q, hq, hquri, heq⟩ := h.exists_named hns' (by simpa using huri') hid'
    obtain rfl : q = p := List.inj_on_of_nodup_map h.nodup_values_named hq hp heq
    exact hne (hpuri.symm.trans hquri)

/-- What was given out is a built-in type or is declared. -/
theorem builtin_or_mem_declaredIds (h : b.Completes namespaces limits) {id : SymbolId}
    (hid : b.schema.Issues id) : (∃ k : Kind, id = .type k.typeId) ∨
      id ∈ (b.published (Catalog.ofNamespaces namespaces).1).declaredIds := by
  refine (h.numbered.issued id hid).imp_right fun hmem => ?_
  obtain ⟨p, hp, rfl⟩ := List.mem_map.1 hmem
  obtain ⟨d, hd, -⟩ := h.numbered.declares p.1 p.2 hp
  have hsymbol := h.numbered.eq_of_symbol hp
  exact h.mem_declaredIds.2 (List.mem_map_of_mem (mem_named.2 ⟨p.1, d, hd, hsymbol, rfl⟩))

theorem wellNamed (h : b.Completes namespaces limits) :
    (b.published (Catalog.ofNamespaces namespaces).1).WellNamed := by
  have hsymbol : ∀ id ∈ (b.published (Catalog.ofNamespaces namespaces).1).declaredIds,
      ∃ o, b.symbol? o = some id := by
    intro id hid
    obtain ⟨p, hp, rfl⟩ := List.mem_map.1 (h.mem_declaredIds.1 hid)
    obtain ⟨o, d, -, ho, -⟩ := mem_named.1 hp
    exact ⟨o, ho⟩
  have hissued : ∀ id ∈ (b.published (Catalog.ofNamespaces namespaces).1).declaredIds,
      (b.published (Catalog.ofNamespaces namespaces).1).Issues id := by
    intro id hid
    obtain ⟨o, ho⟩ := hsymbol id hid
    exact issues_published.2 (h.placed.symbol ho)
  refine ⟨fun _ _ => h.typeName_inj, fun _ _ => h.elementName_inj, h.nodup_declaredIds,
    fun id hid => h.builtin_or_mem_declaredIds (issues_published.1 hid), hissued, fun k hk => ?_,
    fun id hid => ?_⟩
  · obtain ⟨o, ho⟩ := hsymbol _ hk
    exact h.ne_typeId ho k rfl
  · obtain ⟨d, hd, hid⟩ := List.mem_flatMap.1 hid
    exact issues_published.2
      (h.issues_of_mem_ids (Schema.mem_ids_of_mem_symbolIds _ (hissued d hd) hid))

end Builder.Completes

/-- The outline of an accepted schema is closed and unambiguous. -/
theorem closed_of_accepts {namespaces : List NamespaceDecl} {limits : Limits} {s : Schema}
    (h : Accepts namespaces limits s) : s.Closed := by
  obtain ⟨b, hb, rfl⟩ := h.exists_builder
  exact hb.wellNamed.closed

/-- Words are declared outside every namespace, and used in one whose URI has braces. The price is
in a list in a choice. -/
def shop : List NamespaceDecl :=
  let text (name : String) : Ident := ⟨name, none⟩
  let price : ChildItem := .element
    { name := text "price", type := .ofText "Decimal", occurs := some ⟨1, 2, none⟩ }
  let label : ChildItem := .reference { reference := .ofText "label" }
  let item : TypeBody := .complex
    (some { items := [.declared { name := text "tags", type := .ofText "Tags" }] })
    (some (.set { kind := .sequence, items := [
      .set (some (text "line")) .choice [price, label] none none] }))
  let word : TypeBody := .restriction (.ofText "String")
    (some { lengthRange := some { greatest := some 8 } }) none none
  [{ uri := ""
     members := [.type { name := text "Word", body := word }] },
   { uri := "\x7bshop\x7d"
     imports := [{ uri := "", aliasName := some (text "plain") }]
     members := [
      .type { name := text "Tags", body := .list (.ofText "plain:Word") },
      .type { name := text "Item", body := item },
      .type { name := text "Text", body := .extension (.ofText "plain:Word") none none },
      .element { name := text "label", type := .ofText "Text" },
      .element
        { name := text "mark", type := .ofText "Text", substitutes := some (.ofText "label") }] }]

theorem shop_closed : Accepts shop {} (schemaOf shop {}) ∧ (schemaOf shop {}).Closed ∧
    (schemaOf shop {}).outline.types.map (·.name) =
      ["Word", "\x7b\x7bshop\x7d\x7dTags", "\x7b\x7bshop\x7d\x7dItem",
        "\x7b\x7bshop\x7d\x7dText"] ∧
    (schemaOf shop {}).outline.elementNames =
      ["\x7b\x7bshop\x7d\x7dlabel", "\x7b\x7bshop\x7d\x7dlabel"] := by
  have hs : Accepts shop {} (schemaOf shop {}) := accepts_schemaOf (by decide +kernel)
  exact ⟨hs, closed_of_accepts hs, by decide +kernel, by decide +kernel⟩

end Schemata
