import Schemata.Proofs.Publication
import Schemata.Proofs.Sources

/-!
# What blocks add

What a block of attributes or of children declares can be told from the finished schema, in which
every reference stands for what its name finds. `AttributeItem.attribute?` and `ChildItem.member?`
say what an entry makes. Where a compilation ends without an error, the entries of a block come one
after the other behind what is there, and none is left out (`Takes.appendsAttributes`,
`Takes.appendsMembers`).
-/

namespace Schemata

/-! ## What entries make -/

/-- The full name of what a reference stands for. -/
def Catalog.target? (c : Catalog) (scope : Scope) (r : NameRef) : Option FullName :=
  match c.resolve scope r with
  | .ok (.builtin k) => some (.system k.name)
  | .ok (.declared o) => (c.get? o).map (·.fullName)
  | .error _ => none

namespace Schema

/-- The symbol that a reference stands for. -/
def referent? (s : Schema) (c : Catalog) (scope : Scope) (r : NameRef) : Option SymbolId :=
  (c.target? scope r).bind s.lookup

/-- The default value of a type that a literal, if there is one, stands for. -/
def default? (s : Schema) (type : TypeId) : Option String → Option (Option SimpleValue)
  | none => some none
  | some literal =>
    match s.readValue type literal with
    | .ok (some v) => some (some v)
    | _ => none

end Schema

/-- The element that is declared inside a type of a namespace. -/
def ElementDecl.inner (d : ElementDecl) (uri : String) (type : TypeId) (span : Option Span) :
    Element :=
  { fullName := ⟨uri, d.name.text⟩
    standing := .inner
    type
    isNullable := d.isNullable
    isAbstract := false
    isSealed := false
    substituted := none
    referenced := none
    span }

/-- The bounds of an item, which are exactly once if none are written. -/
def ChildItem.bounds? (item : ChildItem) : Option Occurs :=
  match item.occurs with
  | none => some .once
  | some d => if (⟨d.least, d.most⟩ : Occurs).isValid then some ⟨d.least, d.most⟩ else none

section

variable (s : Schema) (c : Catalog) (scope : Scope)

/-- The attribute that an entry of a block makes. -/
def AttributeItem.attribute? (item : AttributeItem) : Option Attribute :=
  match item with
  | .declared d => do
    let type ← (s.referent? c scope d.type).bind (·.asType?)
    let default ← s.default? type d.defaultValue
    return { fullName := .unqualified d.name.text
             standing := .inner
             type
             isOptional := d.isOptional
             isNullable := d.isNullable
             defaultValue := default
             referenced := none
             span := item.span }
  | .reference u => do
    let id ← (s.referent? c scope u.reference).bind (·.asAttribute?)
    let a ← s.attribute? id
    return { a with
      standing := .reference
      isOptional := u.isOptional
      referenced := some id
      span := item.span }
  | .delete _ => none

mutual

/-- The member that an item makes at a position. -/
def ChildItem.member? (order : Nat) : ChildItem → Option Member
  | .element d => do
    let item := ChildItem.element d
    let occurs ← item.bounds?
    let type ← (s.referent? c scope d.type).bind (·.asType?)
    return elementMember ⟨item.memberName order, order, item.span⟩
      (d.inner scope.uri type item.span) occurs
  | .reference u => do
    let item := ChildItem.reference u
    let occurs ← item.bounds?
    let id ← (s.referent? c scope u.reference).bind (·.asElement?)
    let e ← s.element? id
    return elementMember ⟨item.memberName order, order, item.span⟩ (e.asReference id item.span)
      occurs
  | .set name kind items span bounds => do
    let item := ChildItem.set name kind items span bounds
    let occurs ← item.bounds?
    let members ← ChildItem.members? 0 items
    return setMember ⟨item.memberName order, order, span⟩ kind members span occurs
  | .delete _ => none

/-- The members that items make, the first of them at a position and each of the others one further
on. -/
def ChildItem.members? (order : Nat) : List ChildItem → Option (List Member)
  | [] => some []
  | item :: rest => do
    let m ← ChildItem.member? order item
    let ms ← ChildItem.members? (order + 1) rest
    return m :: ms

end

end

namespace Builder

/-! ## What becomes of a builder -/

/-- A builder that recorded no error becomes a schema, in which names find its symbols. -/
structure Becomes (e : Builder) (c : Catalog) (s : Schema) : Prop where
  inv : e.Inv c
  clean : e.Clean
  schema : ∃ names, s = { e.schema with namespaces := names }
  builtin : ∀ k : Kind, s.lookup (.system k.name) = some (.type k.typeId)
  declared : ∀ o id, e.symbol? o = some id →
    ∃ d, c.get? o = some d ∧ s.lookup d.fullName = some id

theorem Completes.becomes {namespaces : List NamespaceDecl} {limits : Limits} {b : Builder}
    (h : b.Completes namespaces limits) : b.Becomes (Catalog.ofNamespaces namespaces).1
      (b.published (Catalog.ofNamespaces namespaces).1) where
  inv := h.inv
  clean := h.clean
  schema := b.published_eq _
  builtin k := h.lookup_eq_some_iff.2 (Or.inl ⟨k, rfl, rfl⟩)
  declared o id ho := by
    obtain ⟨d, hd, -⟩ := h.numbered.declares o id (mem_of_symbol? ho)
    exact ⟨d, hd, h.lookup_eq_some_iff.2 (Or.inr ⟨o, d, hd, ho, rfl⟩)⟩

namespace Becomes

variable {c : Catalog} {s : Schema} {b e : Builder} {scope : Scope} {r : NameRef}

theorem typeDef (h : e.Becomes c s) (id : TypeId) : s.typeDef id = e.schema.typeDef id := by
  obtain ⟨names, rfl⟩ := h.schema
  rfl

theorem attribute? (h : e.Becomes c s) (id : AttributeId) :
    s.attribute? id = e.schema.attribute? id := by
  obtain ⟨names, rfl⟩ := h.schema
  rfl

theorem element? (h : e.Becomes c s) (id : ElementId) : s.element? id = e.schema.element? id := by
  obtain ⟨names, rfl⟩ := h.schema
  rfl

theorem readValue (h : e.Becomes c s) (id : TypeId) (literal : String) :
    s.readValue id literal = e.schema.readValue id literal := by
  obtain ⟨names, rfl⟩ := h.schema
  rfl

theorem referent_of_symbol (h : e.Becomes c s) {o : DeclarationId} {id : SymbolId}
    (hr : c.resolve scope r = .ok (.declared o)) (ho : e.symbol? o = some id) :
    s.referent? c scope r = some id := by
  obtain ⟨d, hd, hlookup⟩ := h.declared o id ho
  rw [Schema.referent?, Catalog.target?, hr]
  simp only [hd, Option.map_some, Option.bind_some, hlookup]

theorem referent_type (h : e.Becomes c s) (hl : b.Lasts e) {t : TypeId}
    (hn : b.NamesType c scope r t) : s.referent? c scope r = some (.type t) := by
  obtain ⟨k, hr, rfl⟩ | ⟨o, hr, ho⟩ := hn
  · rw [Schema.referent?, Catalog.target?, hr]
    exact h.builtin k
  · exact h.referent_of_symbol hr (hl.symbol o _ ho)

theorem referent_attribute (h : e.Becomes c s) (hl : b.Lasts e) {id : AttributeId}
    (hn : b.NamesAttribute c scope r id) : s.referent? c scope r = some (.attr id) := by
  obtain ⟨o, hr, ho⟩ := hn
  exact h.referent_of_symbol hr (hl.symbol o _ ho)

theorem referent_element (h : e.Becomes c s) (hl : b.Lasts e) {id : ElementId}
    (hn : b.NamesElement c scope r id) : s.referent? c scope r = some (.element id) := by
  obtain ⟨o, hr, ho⟩ := hn
  exact h.referent_of_symbol hr (hl.symbol o _ ho)

end Becomes

namespace Takes

variable {c : Catalog} {limits : Limits} {s : Schema} {b e : Builder} (he : e.Becomes c s)

include he

/-- Nothing need be said of a run after a fault that was recorded. -/
theorem fault_bind {α : Type} {f : Fault} {span : Option Span} {m : Unit → Build α}
    {P : Builder → α → Builder → Prop} {Q : α → Builder → Prop}
    (hm : ∀ b₁ : Builder, b₁.Takes c limits .all (m ()) (P b₁)) :
    b.Takes c limits .all (Build.note (f.diagnostic span) >>= m) fun a b₁ => b₁.Lasts e → Q a b₁ :=
  (note _).bind fun _ b₁ _ ⟨_, hne⟩ => (hm b₁).mono fun _ _ hl _ hlast =>
    absurd ((hl.trans hlast).clean he.clean) (hne (f.isError_diagnostic span))

theorem fault_pure {α : Type} {f : Fault} {span : Option Span} {a : α} {Q : α → Prop} :
    b.Takes c limits .all (Build.note (f.diagnostic span) >>= fun _ => Pure.pure a)
      fun a b₁ => b₁.Lasts e → Q a :=
  fault_bind he (P := fun _ _ _ => True) fun _ => .pure trivial

/-! ## Attributes -/

/-- What a literal stands for in the end it stands for when it is read. -/
theorem readsDefault {t : TypeId} (ht : b.schema.Has t)
    (hk : b.Clean → (b.schema.typeDef t).kind.isSimple) (literal : Option String)
    (span : Option Span) :
    b.Takes c limits .all (Schemata.defaultValue c limits t literal span) fun v b₁ =>
      b₁.Lasts e → s.default? t literal = some v := by
  unfold Schemata.defaultValue
  cases literal with
  | none => exact .pure fun _ => rfl
  | some literal =>
    refine .schema_bind ?_
    split
    · rename_i hnot
      refine .pure fun hlast => ?_
      rw [hk (hlast.clean he.clean)] at hnot
      cases hnot
    · rename_i hsimple
      simp only [Bool.not_eq_true', Bool.not_eq_false] at hsimple
      refine (ensureSimple ht hsimple).bind fun _ b₁ hl hf => .schema_bind ?_
      extract_lets name
      refine of_inv fun hb₁ hp₁ => .reading_bind fun r hread => ?_
      have hvalue : b₁.Lasts e → s.readValue t literal = .ok r := fun hlast => by
        rw [he.readValue, hlast.readValue_eq hb₁ he.inv hp₁ (hl.schema.has ht) hf, hread]
      split
      · exact fault_pure he
      · split
        · exact .pure fun hlast => by rw [Schema.default?, hvalue hlast]
        · exact fault_pure he

theorem makesAttribute (scope : Scope) {item : AttributeItem}
    (hitem : ∀ d, item = .delete d → False) :
    b.Takes c limits .all (Schemata.makeAttribute c limits scope item) fun r b₁ => b₁.Lasts e →
      ∃ a, r = some a ∧ item.attribute? s c scope = some a := by
  unfold Schemata.makeAttribute
  cases item with
  | declared d =>
    refine (simpleTypeOf scope d.type).bind fun t b₁ _ ht => of_inv fun _ hp => ?_
    obtain ⟨hnames, hk⟩ := ht
    refine (readsDefault he (hnames.has hp) hk d.defaultValue _).bind fun v b₂ hl hv =>
      .pure fun hlast => ⟨_, rfl, ?_⟩
    have ht := he.referent_type (hl.trans hlast) hnames
    simp [AttributeItem.attribute?, ht, hv hlast, SymbolId.asType?]
  | reference u =>
    refine (attributeOf scope u.reference).bind fun used b₁ _ hused =>
      .pure fun hlast => ⟨_, rfl, ?_⟩
    obtain ⟨i, g⟩ := used
    obtain ⟨hnames, hg⟩ := hused
    have hi : s.referent? c scope u.reference = some (.attr i) :=
      he.referent_attribute hlast hnames
    have hg : s.attribute? i = some g := (he.attribute? i).trans (hlast.schema.attr i g hg)
    simp [AttributeItem.attribute?, hi, hg, SymbolId.asAttribute?]
  | delete d => exact (hitem d rfl).elim

/-- The attributes of a block come after those that are there. -/
theorem appendsAttributes (scope : Scope) (items : List AttributeItem) (set : List Attribute) :
    b.Takes c limits .all (Schemata.addAttributes c limits scope items set) fun r b₁ =>
      b₁.Lasts e → ∃ new, items.mapM (·.attribute? s c scope) = some new ∧ r = set ++ new := by
  induction items generalizing b set with
  | nil => exact .pure fun _ => ⟨[], rfl, (List.append_nil set).symm⟩
  | cons item rest ih =>
    unfold Schemata.addAttributes
    split
    · exact fault_bind he fun _ => ih set
    · rename_i hitem
      refine (makesAttribute he scope hitem).bind fun r b₁ _ hr => ?_
      cases r with
      | none =>
        refine (ih set).mono fun _ b₂ hl _ hlast => ?_
        obtain ⟨a, ha, -⟩ := hr (hl.trans hlast)
        cases ha
      | some a =>
        dsimp only
        split
        · exact fault_bind he fun _ => ih set
        · refine (ih (set ++ [a])).mono fun _ b₂ hl hrest hlast => ?_
          obtain ⟨new, hnew, rfl⟩ := hrest hlast
          obtain ⟨_, ⟨⟩, ha⟩ := hr (hl.trans hlast)
          refine ⟨a :: new, ?_, by rw [List.append_assoc, List.singleton_append]⟩
          rw [List.mapM_cons, ha, hnew]
          rfl

/-! ## Members -/

/-- What is made with the bounds of an item is made with valid ones. -/
theorem bounds_bind {α : Type} (item : ChildItem) {f : Occurs → Build (Option α)}
    {Q : Option α → Prop} (hf : ∀ occurs, item.bounds? = some occurs → ∀ b₁ : Builder,
      b₁.Takes c limits .all (f occurs) fun r b₂ => b₂.Lasts e → Q r) :
    b.Takes c limits .all (Schemata.occursOf item >>= fun
      | none => Pure.pure none
      | some occurs => f occurs) fun r b₁ => b₁.Lasts e → Q r := by
  unfold Schemata.occursOf
  unfold ChildItem.bounds? at hf
  cases hd : item.occurs with
  | none =>
    rw [hd] at hf
    exact hf _ rfl b
  | some d =>
    simp only [hd] at hf ⊢
    split
    · rename_i hvalid
      exact hf _ (if_pos hvalid) b
    · rw [bind_assoc]
      exact fault_pure he

omit he in
theorem makesInner (scope : Scope) (d : ElementDecl) (span : Option Span) :
    b.Takes c limits .all (Schemata.innerElement c limits scope d span) fun e' b₁ =>
      ∃ t, b₁.NamesType c scope d.type t ∧ e' = d.inner scope.uri t span := by
  unfold Schemata.innerElement
  exact (typeOf scope d.type).bind fun t b₁ _ hnames => .pure ⟨t, hnames, rfl⟩

mutual

theorem makesMember {b : Builder} (scope : Scope) (order : Nat) (item : ChildItem)
    (hitem : ∀ d, item = .delete d → False) :
    b.Takes c limits .all (Schemata.makeMember c limits scope order item) fun r b₁ =>
      b₁.Lasts e → ∃ m, r = some m ∧ item.member? s c scope order = some m := by
  unfold Schemata.makeMember
  cases item with
  | element d =>
    refine bounds_bind he _ fun occurs hbounds b₁ => ?_
    refine (makesInner scope d _).bind fun e' b₂ _ ⟨t, hnames, he'⟩ =>
      .pure fun hlast => ⟨_, rfl, ?_⟩
    have ht := he.referent_type hlast hnames
    simp [ChildItem.member?, hbounds, ht, he', SymbolId.asType?]
  | reference u =>
    refine bounds_bind he _ fun occurs hbounds b₁ => ?_
    refine (elementReference scope u.reference _).bind fun ⟨i, e'⟩ b₂ _ ⟨hnames, g, hg, he'⟩ =>
      .pure fun hlast => ⟨_, rfl, ?_⟩
    have hi := he.referent_element hlast hnames
    have hg : s.element? i = some g := (he.element? i).trans (hlast.schema.element i g hg)
    have he' : e' = g.asReference i _ := he'
    simp [ChildItem.member?, hbounds, hi, hg, he', SymbolId.asElement?]
  | set name kind items span bounds =>
    refine bounds_bind he _ fun occurs hbounds b₁ => ?_
    refine (appendsMembers scope items []).bind fun ms b₂ _ hms =>
      .pure fun hlast => ⟨_, rfl, ?_⟩
    obtain ⟨new, hnew, rfl⟩ := hms hlast
    rw [List.length_nil] at hnew
    simp [ChildItem.member?, hbounds, hnew]
  | delete d => exact (hitem d rfl).elim

/-- The members of a block come after those that are there. -/
theorem appendsMembers {b : Builder} (scope : Scope) (items : List ChildItem)
    (members : List Member) :
    b.Takes c limits .all (Schemata.addMembers c limits scope items members) fun ms b₁ =>
      b₁.Lasts e → ∃ new, ChildItem.members? s c scope members.length items = some new ∧
        ms = members ++ new := by
  cases items with
  | nil =>
    unfold Schemata.addMembers
    exact .pure fun _ => ⟨[], by rw [ChildItem.members?], (List.append_nil members).symm⟩
  | cons item rest =>
    unfold Schemata.addMembers
    split
    · exact fault_bind he fun _ => appendsMembers scope rest members
    · rename_i hitem
      refine (makesMember scope members.length item hitem).bind fun r b₁ _ hr => ?_
      cases r with
      | none =>
        refine (appendsMembers scope rest members).mono fun _ b₂ hl _ hlast => ?_
        obtain ⟨m, hm, -⟩ := hr (hl.trans hlast)
        cases hm
      | some m =>
        dsimp only
        split
        · exact fault_bind he fun _ => appendsMembers scope rest members
        · refine (appendsMembers scope rest (members ++ [m])).mono fun _ b₂ hl hrest hlast => ?_
          obtain ⟨new, hnew, rfl⟩ := hrest hlast
          obtain ⟨_, ⟨⟩, hm⟩ := hr (hl.trans hlast)
          rw [List.length_append, List.length_singleton] at hnew
          refine ⟨m :: new, ?_, by rw [List.append_assoc, List.singleton_append]⟩
          rw [ChildItem.members?, hm, hnew]
          rfl

end

end Takes

end Builder

end Schemata
