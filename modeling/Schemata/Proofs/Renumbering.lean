import Mathlib.Data.Set.Function
import Schemata.Proofs.Numbers

/-!
# Other numbers for the same symbols

The numbers of symbols tell in which order the symbols came to be, and nothing else. A `Renumbering`
gives each of them another number. It can be applied to whatever stores numbers (`HasNumbers`), and
all that matters there are the numbers that are stored. Names, bounds and flags stay as they are, so
what is looked up by name is found under the same name.
-/

namespace Schemata

/-- Other numbers for symbols. -/
structure Renumbering where
  type : TypeId → TypeId
  attr : AttributeId → AttributeId
  element : ElementId → ElementId

/-- The symbol with its other number. -/
def Renumbering.symbol (ρ : Renumbering) : SymbolId → SymbolId
  | .type id => .type (ρ.type id)
  | .attr id => .attr (ρ.attr id)
  | .element id => .element (ρ.element id)

/-- What stores numbers of symbols. -/
class HasNumbers (α : Type) where
  /-- The numbers that are stored. -/
  ids : α → List SymbolId
  /-- The same with other numbers. -/
  renumber : Renumbering → α → α
  renumber_congr : ∀ {ρ ρ' : Renumbering} {x : α}, (∀ i ∈ ids x, ρ.symbol i = ρ'.symbol i) →
    renumber ρ x = renumber ρ' x

namespace Renumbering

/-- Something with other numbers. -/
def on {α : Type} [HasNumbers α] (ρ : Renumbering) (x : α) : α := HasNumbers.renumber ρ x

variable {α β : Type} [HasNumbers α] [HasNumbers β] {ρ ρ' : Renumbering}

theorem on_congr {x : α} (h : ∀ i ∈ HasNumbers.ids x, ρ.symbol i = ρ'.symbol i) :
    ρ.on x = ρ'.on x :=
  HasNumbers.renumber_congr h

theorem type_eq {id : TypeId} (h : ρ.symbol (.type id) = ρ'.symbol (.type id)) :
    ρ.type id = ρ'.type id :=
  SymbolId.type.inj h

theorem attr_eq {id : AttributeId} (h : ρ.symbol (.attr id) = ρ'.symbol (.attr id)) :
    ρ.attr id = ρ'.attr id :=
  SymbolId.attr.inj h

theorem element_eq {id : ElementId} (h : ρ.symbol (.element id) = ρ'.symbol (.element id)) :
    ρ.element id = ρ'.element id :=
  SymbolId.element.inj h

/-! ## Numbers, and several things -/

instance : HasNumbers TypeId :=
  ⟨fun id => [.type id], Renumbering.type, fun h => type_eq (h _ List.mem_cons_self)⟩

instance : HasNumbers AttributeId :=
  ⟨fun id => [.attr id], Renumbering.attr, fun h => attr_eq (h _ List.mem_cons_self)⟩

instance : HasNumbers ElementId :=
  ⟨fun id => [.element id], Renumbering.element, fun h => element_eq (h _ List.mem_cons_self)⟩

instance : HasNumbers (List α) where
  ids xs := xs.flatMap HasNumbers.ids
  renumber ρ xs := xs.map ρ.on
  renumber_congr h := List.map_congr_left fun _ hx => on_congr fun i hi =>
    h i (List.mem_flatMap_of_mem hx hi)

instance : HasNumbers (Option α) where
  ids o := o.toList.flatMap HasNumbers.ids
  renumber ρ o := o.map ρ.on
  renumber_congr {_ _ o} h := by
    cases o with
    | none => rfl
    | some x => exact congrArg some (on_congr fun i hi => h i (by simpa using hi))

instance : HasNumbers (α × β) where
  ids p := HasNumbers.ids p.1 ++ HasNumbers.ids p.2
  renumber ρ p := (ρ.on p.1, ρ.on p.2)
  renumber_congr h := Prod.ext (on_congr fun i hi => h i (List.mem_append_left _ hi))
    (on_congr fun i hi => h i (List.mem_append_right _ hi))

@[simp]
theorem on_type (id : TypeId) : ρ.on id = ρ.type id := rfl

@[simp]
theorem on_attr (id : AttributeId) : ρ.on id = ρ.attr id := rfl

@[simp]
theorem on_element (id : ElementId) : ρ.on id = ρ.element id := rfl

theorem on_list (xs : List α) : ρ.on xs = xs.map ρ.on := rfl

@[simp]
theorem on_nil : ρ.on ([] : List α) = [] := rfl

@[simp]
theorem on_cons (x : α) (xs : List α) : ρ.on (x :: xs) = ρ.on x :: ρ.on xs := rfl

@[simp]
theorem on_append (xs ys : List α) : ρ.on (xs ++ ys) = ρ.on xs ++ ρ.on ys := List.map_append

@[simp]
theorem on_none : ρ.on (none : Option α) = none := rfl

@[simp]
theorem on_some (x : α) : ρ.on (some x) = some (ρ.on x) := rfl

@[simp]
theorem on_pair (x : α) (y : β) : ρ.on (x, y) = (ρ.on x, ρ.on y) := rfl

theorem ids_attrs (o : Option AttributeId) : HasNumbers.ids o = o.toList.map SymbolId.attr := by
  cases o <;> rfl

theorem ids_elements (o : Option ElementId) :
    HasNumbers.ids o = o.toList.map SymbolId.element := by
  cases o <;> rfl

/-! ## Attributes and elements -/

theorem ids_attribute (a : Attribute) :
    a.ids = HasNumbers.ids a.type ++ HasNumbers.ids a.referenced := by
  rw [ids_attrs]
  rfl

theorem ids_element (e : Element) : e.ids = HasNumbers.ids e.type ++
    (HasNumbers.ids e.substituted ++ HasNumbers.ids e.referenced) := by
  rw [ids_elements, ids_elements, ← List.map_append]
  rfl

instance : HasNumbers Attribute where
  ids := Attribute.ids
  renumber ρ a := { a with type := ρ.type a.type, referenced := ρ.on a.referenced }
  renumber_congr {_ _ a} h := by
    rw [ids_attribute, List.forall_mem_append] at h
    rw [on_congr h.2, ← on_type, on_congr h.1]
    rfl

instance : HasNumbers Element where
  ids := Element.ids
  renumber ρ e := { e with
    type := ρ.type e.type
    substituted := ρ.on e.substituted
    referenced := ρ.on e.referenced }
  renumber_congr {_ _ e} h := by
    rw [ids_element, List.forall_mem_append, List.forall_mem_append] at h
    rw [on_congr h.2.1, on_congr h.2.2, ← on_type, on_congr h.1]
    rfl

section Attribute

variable (ρ) (a : Attribute)

@[simp]
theorem fullName_attribute : (ρ.on a).fullName = a.fullName := rfl

@[simp]
theorem name_attribute : (ρ.on a).name = a.name := rfl

@[simp]
theorem type_attribute : (ρ.on a).type = ρ.type a.type := rfl

@[simp]
theorem isOptional_attribute : (ρ.on a).isOptional = a.isOptional := rfl

@[simp]
theorem isNullable_attribute : (ρ.on a).isNullable = a.isNullable := rfl

@[simp]
theorem find?_attribute (set : List Attribute) (name : String) :
    Attribute.find? (ρ.on set) name = ρ.on (Attribute.find? set name) := by
  induction set with
  | nil => rfl
  | cons a set ih =>
    unfold Attribute.find? at ih ⊢
    rw [on_cons, List.find?_cons, List.find?_cons, name_attribute]
    cases a.name == name with
    | true => rfl
    | false => exact ih

@[simp]
theorem isIn_attribute (set : List Attribute) (name : String) :
    Attribute.isIn (ρ.on set) name = Attribute.isIn set name := by
  simp [Attribute.isIn, on_list, Function.comp_def]

end Attribute

section Element

variable (ρ) (e : Element)

@[simp]
theorem type_element : (ρ.on e).type = ρ.type e.type := rfl

@[simp]
theorem isNullable_element : (ρ.on e).isNullable = e.isNullable := rfl

@[simp]
theorem isSealed_element : (ρ.on e).isSealed = e.isSealed := rfl

@[simp]
theorem fullName_element : (ρ.on e).fullName = e.fullName := rfl

@[simp]
theorem referenced_element : (ρ.on e).referenced = ρ.on e.referenced := rfl

end Element

end Renumbering

/-! ## Members -/

mutual

/-- A member with other numbers. -/
def Member.renumber (ρ : Renumbering) : Member → Member
  | .element label e isOptional => .element label (ρ.on e) isOptional
  | .set label kind members span => .set label kind (Member.renumberAll ρ members) span
  | .list label item occurs => .list label (Member.renumber ρ item) occurs

/-- Some members with other numbers. -/
def Member.renumberAll (ρ : Renumbering) : List Member → List Member
  | [] => []
  | m :: ms => Member.renumber ρ m :: Member.renumberAll ρ ms

end

mutual

theorem Member.renumber_congr {ρ ρ' : Renumbering} {m : Member}
    (h : ∀ i ∈ m.ids, ρ.symbol i = ρ'.symbol i) : m.renumber ρ = m.renumber ρ' := by
  cases m with
  | element label e isOptional =>
    rw [Member.ids] at h
    rw [renumber, renumber, Renumbering.on_congr h]
  | set label kind members span =>
    rw [Member.ids] at h
    rw [renumber, renumber, Member.renumberAll_congr h]
  | list label item occurs =>
    rw [Member.ids] at h
    rw [renumber, renumber, Member.renumber_congr h]

theorem Member.renumberAll_congr {ρ ρ' : Renumbering} {ms : List Member}
    (h : ∀ i ∈ Member.allIds ms, ρ.symbol i = ρ'.symbol i) :
    Member.renumberAll ρ ms = Member.renumberAll ρ' ms := by
  cases ms with
  | nil => rfl
  | cons m ms =>
    obtain ⟨hm, hms⟩ := List.forall_mem_append.1 h
    rw [renumberAll, renumberAll, Member.renumber_congr hm, Member.renumberAll_congr hms]

end

namespace Renumbering

variable {ρ ρ' : Renumbering}

instance : HasNumbers Member := ⟨Member.ids, Member.renumber, Member.renumber_congr⟩

theorem renumberAll_eq (ms : List Member) : Member.renumberAll ρ ms = ρ.on ms := by
  induction ms with
  | nil => rfl
  | cons m ms ih => rw [Member.renumberAll, ih]; rfl

section Member

variable (ρ)

@[simp]
theorem on_elementMember (label : MemberLabel) (e : Element) (isOptional : Bool) :
    ρ.on (Member.element label e isOptional) = .element label (ρ.on e) isOptional := rfl

@[simp]
theorem on_setMember (label : MemberLabel) (kind : SetKind) (ms : List Member)
    (span : Option Span) : ρ.on (Member.set label kind ms span) = .set label kind (ρ.on ms) span :=
  congrArg (Member.set label kind · span) (renumberAll_eq ms)

@[simp]
theorem on_listMember (label : MemberLabel) (item : Member) (occurs : Occurs) :
    ρ.on (Member.list label item occurs) = .list label (ρ.on item) occurs := rfl

@[simp]
theorem label_member (m : Member) : (ρ.on m).label = m.label := by
  cases m <;> simp [Member.label]

@[simp]
theorem name_member (m : Member) : (ρ.on m).name = m.name :=
  congrArg MemberLabel.name (label_member ρ m)

@[simp]
theorem atOrder_member (order : Nat) (m : Member) :
    (ρ.on m).atOrder order = ρ.on (m.atOrder order) := by
  cases m <;> simp [Member.atOrder, Member.withLabel, Member.label]

@[simp]
theorem find?_member (ms : List Member) (name : String) :
    Member.find? (ρ.on ms) name = ρ.on (Member.find? ms name) := by
  induction ms with
  | nil => rfl
  | cons m ms ih =>
    unfold Member.find? at ih ⊢
    rw [on_cons, List.find?_cons, List.find?_cons, name_member]
    cases m.name == name with
    | true => rfl
    | false => exact ih

@[simp]
theorem isIn_member (ms : List Member) (name : String) :
    Member.isIn (ρ.on ms) name = Member.isIn ms name := by
  simp [Member.isIn, on_list, Function.comp_def]

end Member

end Renumbering

mutual

theorem Member.isOptional_renumber (ρ : Renumbering) (m : Member) :
    (m.renumber ρ).isOptional = m.isOptional := by
  cases m with
  | element label e o => simp [renumber, isOptional]
  | set label kind members span =>
    have h := Member.optional_renumberAll ρ members
    cases kind with
    | sequence => simp [renumber, isOptional, h.1]
    | choice => simp [renumber, isOptional, h.2]
  | list label item occurs => simp [renumber, isOptional]

theorem Member.optional_renumberAll (ρ : Renumbering) (ms : List Member) :
    allOptional (renumberAll ρ ms) = allOptional ms ∧
      anyOptional (renumberAll ρ ms) = anyOptional ms := by
  cases ms with
  | nil => simp [renumberAll]
  | cons m ms =>
    have hm := Member.isOptional_renumber ρ m
    have hms := Member.optional_renumberAll ρ ms
    simp [renumberAll, allOptional, anyOptional, hm, hms.1, hms.2]

end

namespace Renumbering

variable (ρ : Renumbering)

@[simp]
theorem isOptional_member (m : Member) : (ρ.on m).isOptional = m.isOptional :=
  m.isOptional_renumber ρ

/-! ## Content -/

theorem ids_set (s : ChildSet) : (Children.set s).ids = HasNumbers.ids s.members :=
  Member.allIds_eq s.members

instance : HasNumbers Children where
  ids := Children.ids
  renumber ρ
    | .simple type => .simple (ρ.type type)
    | .set s => .set { s with members := ρ.on s.members }
  renumber_congr {_ _ x} h := by
    cases x with
    | simple type => exact congrArg _ (type_eq (h _ List.mem_cons_self))
    | set s =>
      rw [ids_set] at h
      simp only [on_congr h]

instance : HasNumbers SimpleContent where
  ids x := HasNumbers.ids x.item
  renumber ρ x := { x with item := ρ.on x.item }
  renumber_congr h := by simp only [on_congr h]

instance : HasNumbers ComplexContent where
  ids x := HasNumbers.ids x.attributes ++ HasNumbers.ids x.children
  renumber ρ x := ⟨ρ.on x.attributes, ρ.on x.children⟩
  renumber_congr h := by
    obtain ⟨ha, hc⟩ := List.forall_mem_append.1 h
    simp only [on_congr ha, on_congr hc]

instance : HasNumbers Content where
  ids
    | .simple x => HasNumbers.ids x
    | .complex x => HasNumbers.ids x
  renumber ρ
    | .simple x => .simple (ρ.on x)
    | .complex x => .complex (ρ.on x)
  renumber_congr {_ _ x} h := by
    cases x with
    | simple x => exact congrArg Content.simple (on_congr h)
    | complex x => exact congrArg Content.complex (on_congr h)

theorem ids_content (x : Content) : x.ids = HasNumbers.ids x := by
  cases x with
  | simple x =>
    obtain ⟨facets, item⟩ := x
    cases item <;> rfl
  | complex x =>
    obtain ⟨attributes, children⟩ := x
    cases attributes with
    | none => rfl
    | some attributes => simp only [Content.ids, Option.getD_some, HasNumbers.ids,
        Option.toList_some, List.flatMap_singleton]

instance : HasNumbers TypeDef where
  ids t := HasNumbers.ids t.base ++ HasNumbers.ids t.content
  renumber ρ t := { t with base := ρ.on t.base, content := ρ.on t.content }
  renumber_congr h := by
    obtain ⟨hb, hc⟩ := List.forall_mem_append.1 h
    simp only [on_congr hb, on_congr hc]

end Renumbering

/-- One schema has what another one has, under other numbers. -/
structure Schema.Renumbers (ρ : Renumbering) (s s' : Schema) : Prop where
  symbols : Set.BijOn ρ.symbol {i | s.Issues i} {i | s'.Issues i}
  types : ∀ t, s.Has t → s'.typeDef (ρ.type t) = ρ.on (s.typeDef t)
  attributes : ∀ i a, s.attribute? i = some a → s'.attribute? (ρ.attr i) = some (ρ.on a)
  elements : ∀ i e, s.element? i = some e → s'.element? (ρ.element i) = some (ρ.on e)
  /-- The same names are found. -/
  lookup : ∀ n, s'.lookup n = (s.lookup n).map ρ.symbol
  /-- The same elements substitute the same ones. -/
  substitutions : (ρ.on s.substitutions).Perm s'.substitutions

end Schemata
