import Schemata.Proofs.Compilation
import Schemata.Proofs.SimpleSequences

/-!
# Compilations step by step

What is done to a builder while a complex type gets its content, and in a whole compilation. The
numbers in the content of a complex type are in their place: attributes, members and simple values
that are inherited have been given out before, and what is declared has been looked up.
-/

namespace Schemata

namespace Builder

variable {c : Catalog} {limits : Limits} {b b' : Builder}

/-- The numbers of some attributes are in their place. -/
def PlacesAttributes (b : Builder) (set : List Attribute) : Prop :=
  ∀ a ∈ set, b.Places a.ids [a.type]

/-- The numbers of some members are in their place. -/
def PlacesMembers (b : Builder) (ms : List Member) : Prop := ∀ m ∈ ms, b.Places m.ids []

/-- The numbers of children, if there are any, are in their place. -/
def PlacesChildren (b : Builder) (children : Option Children) : Prop :=
  ∀ x, children = some x → b.Places x.ids x.simpleTypes

theorem PlacesAttributes.mono {set : List Attribute} (hl : b.Lasts b')
    (h : b.PlacesAttributes set) : b'.PlacesAttributes set :=
  fun a ha => (h a ha).mono hl

theorem PlacesMembers.mono {ms : List Member} (hl : b.Lasts b') (h : b.PlacesMembers ms) :
    b'.PlacesMembers ms :=
  fun m hm => (h m hm).mono hl

theorem PlacesChildren.mono {children : Option Children} (hl : b.Lasts b')
    (h : b.PlacesChildren children) : b'.PlacesChildren children :=
  fun x hx => (h x hx).mono hl

theorem placesContent_iff {x : ComplexContent} : b.PlacesContent (.complex x) ↔
    b.PlacesAttributes (x.attributes.getD []) ∧ b.PlacesChildren x.children := by
  rw [PlacesContent, Content.ids, Content.simpleTypes, places_append, places_flatMap,
    List.map_eq_flatMap, places_flatMap]
  simp [PlacesAttributes, PlacesChildren]

namespace Takes

/-! ## Attributes -/

theorem makeAttribute (scope : Scope) (item : AttributeItem) :
    b.Takes c limits .all (makeAttribute c limits scope item) fun r b₁ =>
      ∀ a, r = some a → b₁.Places a.ids [a.type] := by
  unfold Schemata.makeAttribute
  cases item with
  | declared d =>
    refine (simpleTypeOf scope d.type).bind fun t b₁ _ ⟨hnames, hk⟩ => of_inv fun _ hp => ?_
    have ht := hnames.has hp
    refine (defaultValue ht d.defaultValue _).bind fun v b₂ hl _ => .pure ?_
    rintro _ ⟨⟩
    exact places_attribute (hl.schema.has ht) (fun hc => hl.schema.isSimple (hk (hl.clean hc))) nofun
  | reference u =>
    refine (attributeOf scope u.reference).bind fun ⟨i, g⟩ b₁ _ ⟨hnames, hg⟩ =>
      of_inv fun _ hp => .pure ?_
    rintro _ ⟨⟩
    obtain ⟨o, -, ho⟩ := hnames
    have hplaces := hp.attributes i g hg
    refine places_attribute (hplaces.ids _ List.mem_cons_self)
      (fun hc => hplaces.simple hc _ List.mem_cons_self) ?_
    rintro _ ⟨⟩
    exact hp.symbol ho
  | delete d => exact .pure nofun

theorem addAttributes (scope : Scope) (items : List AttributeItem) {set : List Attribute}
    (hset : b.PlacesAttributes set) :
    b.Takes c limits .all (addAttributes c limits scope items set) fun r b₁ =>
      b₁.PlacesAttributes r := by
  induction items generalizing b set with
  | nil => exact .pure hset
  | cons item rest ih =>
    unfold Schemata.addAttributes
    split
    · exact (note _).bind fun _ b₁ hl _ => ih (hset.mono hl)
    · refine (makeAttribute scope item).bind fun r b₁ hl hr => ?_
      cases r with
      | none => exact ih (hset.mono hl)
      | some a =>
        dsimp only
        split
        · exact (note _).bind fun _ b₂ hl₂ _ => ih (hset.mono (hl.trans hl₂))
        · refine ih (List.forall_mem_append.2 ⟨hset.mono hl, ?_⟩)
          exact List.forall_mem_singleton.2 (hr a rfl)

theorem restrictEachAttribute (scope : Scope) (base : List Attribute)
    (items : List AttributeItem) {r : RestrictedAttributes} (hr : b.PlacesAttributes r.found) :
    b.Takes c limits .all (restrictEachAttribute c limits scope base items r) fun r b₁ =>
      b₁.PlacesAttributes r.found := by
  induction items generalizing b r with
  | nil => exact .pure hr
  | cons item rest ih =>
    unfold Schemata.restrictEachAttribute
    split
    · extract_lets name
      exact (noteFaults _ _).bind fun _ b₁ hl _ => ih (hr.mono hl)
    · refine (makeAttribute scope item).bind fun m b₁ hl hm => ?_
      cases m with
      | none => exact ih (hr.mono hl)
      | some a =>
        dsimp only
        split
        · exact (note _).bind fun _ b₂ hl₂ _ => ih (hr.mono (hl.trans hl₂))
        · split
          · exact (note _).bind fun _ b₂ hl₂ _ => ih (hr.mono (hl.trans hl₂))
          · refine .schema_bind ?_
            refine (noteFaults _ _).bind fun _ b₂ hl₂ _ => ih ?_
            exact List.forall_mem_cons.2 ⟨(hm a rfl).mono hl₂, hr.mono (hl.trans hl₂)⟩

theorem restrictAttributes (scope : Scope) (base : List Attribute) (block : AttributeBlock) :
    b.Takes c limits .all (restrictAttributes c limits scope base block) fun set b₁ =>
      b₁.PlacesAttributes set := by
  unfold Schemata.restrictAttributes
  have hstart : b.PlacesAttributes ({} : RestrictedAttributes).found := nofun
  refine (restrictEachAttribute scope base block.items hstart).bind fun r b₁ _ hr => ?_
  refine (noteEach _ (fun _ => rfl) _).bind fun _ b₂ hl _ => .pure fun a ha => ?_
  obtain ⟨i, -, hai⟩ := List.mem_filterMap.1 ha
  exact (hr a (Attribute.mem_of_find? hai)).mono hl

/-! ## Members -/

theorem places_reference {id : ElementId} {g : Element} (hp : b.Placed)
    (hg : b.schema.element? id = some g) (span : Option Span) :
    b.Places (g.asReference id span).ids [] := by
  have hplaces := hp.elements id g hg
  refine ⟨fun i hi => ?_, fun _ t ht => by cases ht⟩
  simp only [Element.ids, Element.asReference, Option.toList_none, List.nil_append,
    Option.toList_some, List.map_singleton, List.mem_cons, List.not_mem_nil, or_false] at hi
  rcases hi with rfl | rfl
  · exact hplaces.ids _ List.mem_cons_self
  · exact Schema.index_lt_of_element hg

theorem places_inner {e : Element} (ht : b.schema.Has e.type) (hs : e.substituted = none)
    (hr : e.referenced = none) : b.Places e.ids [] := by
  refine ⟨?_, fun _ => nofun⟩
  simpa [Element.ids, hs, hr, Schema.Issues] using ht

theorem places_elementMember {label : MemberLabel} {e : Element} {occurs : Occurs}
    (he : b.Places e.ids []) : b.Places (elementMember label e occurs).ids [] := by
  unfold elementMember
  split <;> simpa [Member.ids] using he

theorem places_allIds {ms : List Member} : b.Places (Member.allIds ms) [] ↔ b.PlacesMembers ms := by
  have hnil : ms.flatMap (fun _ => ([] : List TypeId)) = [] := by simp
  rw [Member.allIds_eq, ← hnil, places_flatMap]
  rfl

theorem places_setMember {label : MemberLabel} {kind : SetKind} {ms : List Member}
    {span : Option Span} {occurs : Occurs} (h : b.PlacesMembers ms) :
    b.Places (setMember label kind ms span occurs).ids [] := by
  unfold setMember
  split <;> simpa [Member.ids] using places_allIds.2 h

theorem occursOf (item : ChildItem) : b.Takes c limits .all (occursOf item) fun _ _ => True := by
  unfold Schemata.occursOf
  split
  · exact .pure trivial
  · dsimp only
    split
    · exact .pure trivial
    · exact (note _).bind fun _ _ _ _ => .pure trivial

theorem innerElement (scope : Scope) (d : ElementDecl) (span : Option Span) :
    b.Takes c limits .all (innerElement c limits scope d span) fun e b₁ => b₁.Places e.ids [] := by
  unfold Schemata.innerElement
  exact (typeOf scope d.type).bind fun t b₁ _ hnames => of_inv fun _ hp =>
    .pure (places_inner (hnames.has hp) rfl rfl)

mutual

theorem makeMember {b : Builder} (scope : Scope) (order : Nat) (item : ChildItem) :
    b.Takes c limits .all (makeMember c limits scope order item) fun r b₁ =>
      ∀ m, r = some m → b₁.Places m.ids [] := by
  cases item with
  | element d =>
    unfold Schemata.makeMember
    refine (occursOf _).bind fun o b₁ _ _ => ?_
    cases o with
    | none => exact .pure nofun
    | some occurs =>
      refine (innerElement scope d _).bind fun e b₂ _ he => .pure ?_
      rintro _ ⟨⟩
      exact places_elementMember he
  | reference u =>
    unfold Schemata.makeMember
    refine (occursOf _).bind fun o b₁ _ _ => ?_
    cases o with
    | none => exact .pure nofun
    | some occurs =>
      refine (elementReference scope u.reference _).bind fun ⟨i, e⟩ b₂ _ ⟨_, g, hg, he⟩ =>
        of_inv fun _ hp => .pure ?_
      rintro _ ⟨⟩
      rw [show e = _ from he]
      exact places_elementMember (places_reference hp hg _)
  | set name kind items span bounds =>
    unfold Schemata.makeMember
    refine (occursOf _).bind fun o b₁ _ _ => ?_
    cases o with
    | none => exact .pure nofun
    | some occurs =>
      refine (addMembers scope items (nofun : b₁.PlacesMembers [])).bind fun ms b₂ _ hms => .pure ?_
      rintro _ ⟨⟩
      exact places_setMember hms
  | delete d =>
    unfold Schemata.makeMember
    exact .pure nofun

theorem addMembers {b : Builder} (scope : Scope) (items : List ChildItem) {members : List Member}
    (hms : b.PlacesMembers members) :
    b.Takes c limits .all (addMembers c limits scope items members) fun ms b₁ =>
      b₁.PlacesMembers ms := by
  cases items with
  | nil =>
    unfold Schemata.addMembers
    exact .pure hms
  | cons item rest =>
    unfold Schemata.addMembers
    split
    · exact (note _).bind fun _ b₁ hl _ => addMembers scope rest (hms.mono hl)
    · refine (makeMember scope members.length item).bind fun r b₁ hl hr => ?_
      cases r with
      | none => exact addMembers scope rest (hms.mono hl)
      | some m =>
        dsimp only
        split
        · exact (note _).bind fun _ b₂ hl₂ _ => addMembers scope rest (hms.mono (hl.trans hl₂))
        · refine addMembers scope rest (List.forall_mem_append.2 ⟨hms.mono hl, ?_⟩)
          exact List.forall_mem_singleton.2 (hr m rfl)

end

/-! ## Restricted members -/

theorem restrictOccurs (base : Member) (item : ChildItem) :
    b.Takes c limits .all (restrictOccurs base item) fun r _ =>
      ∀ p, r = some p → p.target.ids = base.ids := by
  unfold Schemata.restrictOccurs
  refine (occursOf item).bind fun o b₁ _ _ => ?_
  cases o with
  | none => exact .pure nofun
  | some occurs =>
    dsimp only
    split
    · refine (require _ _ _).bind fun _ b₂ _ _ => ?_
      refine (require _ _ _).bind fun _ b₃ _ _ => .pure ?_
      rintro _ ⟨⟩
      simp [Member.ids]
    · split
      · exact (note _).bind fun _ b₂ _ _ => .pure nofun
      · refine (require _ _ _).bind fun _ b₂ _ _ => .pure ?_
        rintro _ ⟨⟩
        rfl

theorem shapeDiffers (base : Member) (span : Option Span) :
    b.Takes c limits .all (shapeDiffers base span) fun r _ => r = none := by
  unfold Schemata.shapeDiffers
  exact (note _).bind fun _ _ _ _ => .pure rfl

theorem restrictInnerElement (scope : Scope) {base : Element} (hbase : b.Places base.ids [])
    (d : ElementDecl) (span : Option Span) :
    b.Takes c limits .all (restrictInnerElement c limits scope base d span) fun e b₁ =>
      b₁.Places e.ids [] := by
  unfold Schemata.restrictInnerElement
  refine (typeOf scope d.type).bind fun t b₁ hl hnames => .schema_bind ?_
  refine of_inv fun _ hp => ?_
  refine (require _ _ _).bind fun _ b₂ hl₂ _ => ?_
  refine (require _ _ _).bind fun _ b₃ hl₃ _ => .pure ⟨?_, fun _ => nofun⟩
  have hbase := hbase.mono (hl.trans (hl₂.trans hl₃))
  exact List.forall_mem_cons.2 ⟨(hl₂.trans hl₃).schema.has (hnames.has hp),
    (List.forall_mem_cons.1 hbase.ids).2⟩

theorem restrictReference (scope : Scope) (base : ElementId) (r : NameRef)
    (span : Option Span) :
    b.Takes c limits .all (restrictReference c limits scope base r span) fun e b₁ =>
      b₁.Places e.ids [] := by
  unfold Schemata.restrictReference
  refine (elementReference scope r span).bind fun ⟨i, e⟩ b₁ _ ⟨_, g, hg, he⟩ =>
    of_inv fun _ hp => .schema_bind ?_
  extract_lets baseName
  refine (require _ _ _).bind fun _ b₂ hl _ => .pure ?_
  rw [show e = _ from he]
  exact (places_reference hp hg span).mono hl

theorem finishRestriction (kind : SetKind) (base : List Member) (span : Option Span)
    {r : RestrictedMembers} (hr : b.PlacesMembers r.found) :
    b.Takes c limits .all (finishRestriction kind base span r) fun ms b₁ =>
      b₁.PlacesMembers ms := by
  unfold Schemata.finishRestriction
  refine (noteEach _ (fun m => Fault.isError_diagnostic _ _) _).bind fun _ b₁ hl _ => ?_
  extract_lets members
  refine (require _ _ _).bind fun _ b₂ hl₂ _ => .pure fun m hm => ?_
  obtain ⟨i, hi, rfl⟩ := List.mem_mapIdx.1 hm
  obtain ⟨j, -, hj⟩ := List.mem_filterMap.1 (List.getElem_mem hi)
  rw [Member.ids_atOrder]
  exact (hr _ (Member.mem_of_find? hj)).mono (hl.trans hl₂)

theorem placesMembers_set {l : MemberLabel} {kind : SetKind} {ms : List Member}
    {span : Option Span} : b.Places (Member.set l kind ms span).ids [] ↔ b.PlacesMembers ms := by
  rw [Member.ids, places_allIds]

mutual

theorem restrictSingle {b : Builder} (scope : Scope) {base : Member}
    (hbase : b.Places base.ids []) (isOptional : Bool) (item : ChildItem) :
    b.Takes c limits .all (restrictSingle c limits scope base isOptional item) fun r b₁ =>
      ∀ m, r = some m → b₁.Places m.ids [] := by
  have hshape : ∀ span, b.Takes c limits .all (Schemata.shapeDiffers base span)
      fun r b₁ => ∀ m, r = some m → b₁.Places m.ids [] := fun span =>
    (shapeDiffers base span).mono fun _ _ _ hr _ hm => by cases hr.symm.trans hm
  unfold Schemata.restrictSingle
  cases item with
  | element d =>
    cases base with
    | element label e o =>
      dsimp only
      split
      · exact hshape _
      · rw [Member.ids] at hbase
        refine (restrictInnerElement scope hbase d _).bind fun e' b₁ _ he => .pure ?_
        rintro _ ⟨⟩
        rwa [Member.ids]
    | set label kind members p => exact hshape _
    | list label i o => exact hshape _
  | reference u =>
    cases base with
    | element label e o =>
      dsimp only
      split
      · exact hshape _
      · refine (restrictReference scope _ u.reference _).bind fun e' b₁ _ he => .pure ?_
        rintro _ ⟨⟩
        rwa [Member.ids]
    | set label kind members p => exact hshape _
    | list label i o => exact hshape _
  | set name kind items span bounds =>
    cases base with
    | element label e o => exact hshape _
    | set label baseKind members p =>
      dsimp only
      split
      · refine (restrictEachMember scope kind (placesMembers_set.1 hbase) 0 items (r := {})
          nofun).bind fun r b₁ _ hr => ?_
        refine (finishRestriction kind members span hr).bind fun ms b₂ _ hms => .pure ?_
        rintro _ ⟨⟩
        exact placesMembers_set.2 hms
      · exact hshape _
    | list label i o => exact hshape _
  | delete d => exact hshape _

theorem restrictEachMember {b : Builder} (scope : Scope) (kind : SetKind) {base : List Member}
    (hbase : b.PlacesMembers base) (order : Nat) (items : List ChildItem)
    {r : RestrictedMembers} (hr : b.PlacesMembers r.found) :
    b.Takes c limits .all (restrictEachMember c limits scope kind base order items r) fun r b₁ =>
      b₁.PlacesMembers r.found := by
  cases items with
  | nil =>
    unfold Schemata.restrictEachMember
    exact .pure hr
  | cons item rest =>
    unfold Schemata.restrictEachMember
    extract_lets name mentioned
    have hrest : ∀ {b₁ : Builder} (r' : RestrictedMembers), b.Lasts b₁ →
        b₁.PlacesMembers r'.found → b₁.Takes c limits .all
          (Schemata.restrictEachMember c limits scope kind base (order + 1) rest r')
          fun r b₂ => b₂.PlacesMembers r.found :=
      fun _ hl hr' => restrictEachMember scope kind (hbase.mono hl) (order + 1) rest hr'
    split
    · exact (noteFaults _ _).bind fun _ b₁ hl _ => hrest _ hl (hr.mono hl)
    · split
      · exact (note _).bind fun _ b₁ hl _ => hrest _ hl (hr.mono hl)
      · split
        · exact (note _).bind fun _ b₁ hl _ => hrest _ hl (hr.mono hl)
        · rename_i inherited hinherited
          have hin := hbase _ (Member.mem_of_find? hinherited)
          refine (restrictOccurs inherited item).bind fun plan b₁ hl₁ hplan => ?_
          cases plan with
          | none => exact hrest _ hl₁ (hr.mono hl₁)
          | some plan =>
            have htarget : b₁.Places plan.target.ids [] := by
              rw [hplan plan rfl]
              exact hin.mono hl₁
            refine (restrictSingle scope htarget plan.isOptional item).bind fun m b₂ hl₂ hm => ?_
            have hl := hl₁.trans hl₂
            cases m with
            | none => exact hrest _ hl (hr.mono hl)
            | some m =>
              refine hrest _ hl (List.forall_mem_cons.2 ⟨?_, hr.mono hl⟩)
              split
              · exact hm m rfl
              · rw [Member.ids]
                exact hm m rfl

end

/-! ## Content of complex types -/

theorem makeChildren (scope : Scope) (d : ChildrenDecl) :
    b.Takes c limits .all (makeChildren c limits scope d) fun x b₁ =>
      b₁.Places x.ids x.simpleTypes := by
  unfold Schemata.makeChildren
  cases d with
  | simple type span =>
    refine (simpleTypeOf scope type).bind fun t b₁ _ ⟨hnames, hk⟩ => of_inv fun _ hp => .pure ?_
    exact placesItem_some (hnames.has hp) hk
  | set d =>
    refine (addMembers scope d.items (nofun : b.PlacesMembers [])).bind fun ms b₁ _ hms => .pure ?_
    exact places_allIds.2 hms

theorem ownContent (scope : Scope) (attributes : Option AttributeBlock)
    (children : Option ChildrenDecl) :
    b.Takes c limits .all (ownContent c limits scope attributes children) fun x b₁ =>
      b₁.PlacesContent (.complex x) := by
  unfold Schemata.ownContent
  have hattributes : b.Takes c limits .all
      (attributes.mapM fun block => Schemata.addAttributes c limits scope block.items [])
      fun r b₁ => b₁.PlacesAttributes (r.getD []) := by
    cases attributes with
    | none => exact .pure nofun
    | some block => exact .map (addAttributes scope block.items (nofun : b.PlacesAttributes []))
  refine hattributes.bind fun r b₁ _ hr => ?_
  have hchildren : b₁.Takes c limits .all (children.mapM (Schemata.makeChildren c limits scope))
      fun x b₂ => b₂.PlacesChildren x := by
    cases children with
    | none => exact .pure nofun
    | some d =>
      refine .map ((makeChildren scope d).mono fun x b₂ _ hx => ?_)
      rintro _ ⟨⟩
      exact hx
  exact hchildren.bind fun x b₂ hl hx => .pure (placesContent_iff.2 ⟨hr.mono hl, hx⟩)

theorem extendChildren (scope : Scope) {base : Option Children} (hbase : b.PlacesChildren base)
    (d : ChildrenDecl) :
    b.Takes c limits .all (extendChildren c limits scope base d) fun x b₁ =>
      b₁.PlacesChildren (some x) := by
  have hsome : ∀ {b : Builder} {x : Children}, b.Places x.ids x.simpleTypes →
      b.PlacesChildren (some x) := by
    rintro b x hx _ ⟨⟩
    exact hx
  unfold Schemata.extendChildren
  split
  · exact (makeChildren scope d).mono fun x b₁ _ hx => hsome hx
  · exact (note _).bind fun _ b₁ hl _ => .pure (hbase.mono hl)
  · exact (note _).bind fun _ b₁ hl _ => .pure (hbase.mono hl)
  · refine (addMembers scope _ (places_allIds.1 (hbase _ rfl))).bind fun ms b₁ _ hms => .pure ?_
    exact hsome (places_allIds.2 hms)

theorem extensionContent (scope : Scope) {base : ComplexContent}
    (hbase : b.PlacesContent (.complex base)) (attributes : Option AttributeBlock)
    (children : Option ChildrenDecl) :
    b.Takes c limits .all (extensionContent c limits scope base attributes children) fun x b₁ =>
      b₁.PlacesContent (.complex x) := by
  obtain ⟨hattributes, hchildren⟩ := placesContent_iff.1 hbase
  unfold Schemata.extensionContent
  extract_lets jp
  have hjp : ∀ r b₁, b.Lasts b₁ → b₁.PlacesAttributes (r.getD []) →
      b₁.Takes c limits .all (jp r) fun x b₂ => b₂.PlacesContent (.complex x) := by
    intro r b₁ hl hr
    dsimp only [jp]
    cases children with
    | none => exact .pure (placesContent_iff.2 ⟨hr, hchildren.mono hl⟩)
    | some d =>
      exact (extendChildren scope (hchildren.mono hl) d).map_bind fun x b₂ hl₂ hx =>
        .pure (placesContent_iff.2 ⟨hr.mono hl₂, hx⟩)
  cases attributes with
  | none => exact hjp _ b (.refl b) hattributes
  | some block =>
    exact (addAttributes scope block.items hattributes).map_bind fun r b₁ hl hr => hjp _ b₁ hl hr

theorem restrictChildren (scope : Scope) {base : Option Children} (hbase : b.PlacesChildren base)
    (d : ChildrenDecl) :
    b.Takes c limits .all (restrictChildren c limits scope base d) fun x b₁ =>
      b₁.PlacesChildren x := by
  unfold Schemata.restrictChildren
  split
  · exact (note _).bind fun _ b₁ _ _ => .pure nofun
  · rename_i up r span
    refine (simpleTypeOf scope r).bind fun t b₁ hl ⟨hnames, hk⟩ => .schema_bind ?_
    refine of_inv fun _ hp => ?_
    split
    · refine .pure ?_
      rintro _ ⟨⟩
      exact placesItem_some (hnames.has hp) hk
    · exact (note _).bind fun _ b₂ hl₂ _ => .pure (hbase.mono (hl.trans hl₂))
  · rename_i base d
    split
    · refine (restrictEachMember scope base.kind (places_allIds.1 (hbase _ rfl)) 0 d.items
        (r := {}) nofun).bind fun r b₁ _ hr => ?_
      refine (finishRestriction base.kind base.members d.span hr).bind fun ms b₂ _ hms => .pure ?_
      rintro _ ⟨⟩
      exact places_allIds.2 hms
    · exact (note _).bind fun _ b₁ hl _ => .pure (hbase.mono hl)
  · exact (note _).bind fun _ b₁ hl _ => .pure (hbase.mono hl)

theorem restrictionContent (scope : Scope) {base : ComplexContent}
    (hbase : b.PlacesContent (.complex base)) (facets : Option FacetBlock)
    (attributes : Option AttributeBlock) (children : Option ChildrenDecl) :
    b.Takes c limits .all (restrictionContent c limits scope base facets attributes children)
      fun x b₁ => b₁.PlacesContent (.complex x) := by
  obtain ⟨hattributes, hchildren⟩ := placesContent_iff.1 hbase
  unfold Schemata.restrictionContent
  extract_lets jp jp'
  have hjp : ∀ r b₁, b.Lasts b₁ → b₁.PlacesAttributes (r.getD []) →
      b₁.Takes c limits .all (jp r) fun x b₂ => b₂.PlacesContent (.complex x) := by
    intro r b₁ hl hr
    dsimp only [jp]
    cases children with
    | none => exact .pure (placesContent_iff.2 ⟨hr, hchildren.mono hl⟩)
    | some d =>
      exact (restrictChildren scope (hchildren.mono hl) d).bind fun x b₂ hl₂ hx =>
        .pure (placesContent_iff.2 ⟨hr.mono hl₂, hx⟩)
  have hjp' : ∀ u b₁, b.Lasts b₁ →
      b₁.Takes c limits .all (jp' u) fun x b₂ => b₂.PlacesContent (.complex x) := by
    intro u b₁ hl
    dsimp only [jp']
    cases attributes with
    | none => exact hjp _ b₁ hl (hattributes.mono hl)
    | some block =>
      exact (restrictAttributes scope (base.attributes.getD []) block).map_bind
        fun r b₂ hl₂ hr => hjp _ b₂ (hl.trans hl₂) hr
  cases facets with
  | none => exact hjp' () b (.refl b)
  | some block => exact (note _).bind fun u b₁ hl _ => hjp' u b₁ hl

/-- The content that an extension starts from stores numbers that are in their place. -/
theorem placesContent_extended (hb : b.Inv c) (hp : b.Placed) {up : TypeId} (hup : b.schema.Has up) :
    b.PlacesContent (.complex ((b.schema.typeDef up).extended up)) := by
  have hplaces := hp.contents up
  unfold TypeDef.extended
  split
  · rename_i x hx
    rwa [hx] at hplaces
  · rename_i x hx
    refine placesContent_iff.2 ⟨nofun, ?_⟩
    rintro _ ⟨⟩
    refine placesItem_some hup fun _ => ?_
    rw [hb.contents, TypeDef.asSimple?, hx]
    rfl

theorem complexContent (scope : Scope) {base : TypeId} (hbase : b.schema.Has base)
    (body : TypeBody) :
    b.Takes c limits .all (complexContent c limits scope base body) fun x b₁ =>
      b₁.PlacesContent (.complex x) := by
  refine of_inv fun hb hp => ?_
  have hextended := placesContent_extended hb hp hbase
  unfold Schemata.complexContent
  refine .schema_bind ?_
  extract_lets inherited
  cases body with
  | list item => exact .pure (placesContent_iff.2 ⟨nofun, nofun⟩)
  | complex attributes children => exact ownContent scope attributes children
  | extension up attributes children => exact extensionContent scope hextended attributes children
  | restriction up facets attributes children =>
    exact restrictionContent scope hextended facets attributes children

end Takes

/-! ## Compilations -/

theorem Takes.resolveDeclaration (o : DeclarationId) :
    b.Takes c limits .all (resolveDeclaration c limits o) fun _ _ => True := by
  unfold Schemata.resolveDeclaration
  split
  · exact .pure trivial
  · rename_i d hd
    split
    · exact (resolveType o).bind fun _ _ _ _ => .pure trivial
    · rename_i a ha
      have hget : c.getAs? (·.asAttribute?) o = some (d, a) :=
        Catalog.getAs?_eq_some_iff.2 ⟨hd, by rw [Declaration.asAttribute?, ha]⟩
      exact (resolveAttribute hget).bind fun _ _ _ _ => .pure trivial
    · exact (resolveElement o).bind fun _ _ _ _ => .pure trivial

theorem Takes.resolveAll (ids : List DeclarationId) :
    b.Takes c limits .all (ids.forM (Schemata.resolveDeclaration c limits)) fun _ _ => True := by
  induction ids generalizing b with
  | nil => exact .pure trivial
  | cons o ids ih =>
    change b.Takes c limits .all (Schemata.resolveDeclaration c limits o >>= fun _ =>
      ids.forM (Schemata.resolveDeclaration c limits)) _
    exact (resolveDeclaration o).bind fun _ b₁ _ _ => ih

theorem run_finishComplex {id : TypeId} {o : DeclarationId} {d : Declaration} {t : TypeDecl}
    {up : TypeId} (ho : b.origin? id = some o) (hget : c.getAs? (·.asType?) o = some (d, t))
    (hup : (b.schema.typeDef id).base = some up) :
    (finishComplex c limits id).run b = (complexContent c limits d.scope up t.body >>= fun content =>
      modify (·.finish id (.complex content))).run (b.openType id) := by
  rw [finishComplex]
  simp [Build.schema, ho, hget, hup]

/-- What a complex type gets as its content when every type before it has its own. -/
theorem exists_complexTurn (hb : b.Inv c) (hp : b.Placed) {id : TypeId} (hid : b.schema.Has id)
    (hf : ¬b.isFinished id) (hk : (b.schema.typeDef id).kind.isSimple = false)
    (hn : b.FinishedBelow id.index) (hrun : (finishComplex c limits id).run b = .ok ((), b')) :
    ∃ o d t up x b₁, b.origin? id = some o ∧ c.getAs? (·.asType?) o = some (d, t) ∧
      (b.schema.typeDef id).base = some up ∧ up.index < id.index ∧
      (complexContent c limits d.scope up t.body).run (b.openType id) = .ok (x, b₁) ∧
      (b.openType id).Lasts b₁ ∧ id ∉ b₁.finished ∧ b' = b₁.finish id (.complex x) := by
  obtain ⟨hdeclared, hmem⟩ := not_or.1 (mt isFinished_iff.2 hf)
  obtain ⟨o, ho⟩ := Option.ne_none_iff_exists'.1 hdeclared
  obtain ⟨d, t, up, hd, ht, hu, hlt, -⟩ := hb.declared id o ho
  have hget := Catalog.getAs?_eq_some_iff.2 ⟨hd, ht⟩
  rw [run_finishComplex ho hget hu] at hrun
  obtain ⟨⟨x, b₁⟩, hx, hlast⟩ := bind_eq_ok hrun
  cases hlast
  have hb₀ : (b.openType id).Inv c := withOpen_inv hb b.openAttributes (id :: b.openTypes)
  have hopen : b.TypeStep c limits (b.openType id) := .openType id
  have hhas : (b.openType id).schema.Has up := (hn up hlt).1
  obtain ⟨hg, -, hs, -⟩ := Takes.complexContent d.scope hhas t.body (hopen.placed hp) hb₀ x b₁ hx
  exact ⟨o, d, t, up, x, b₁, ho, hget, hu, hlt, hx, hs.lasts, hg.not_mem hid hk hmem, rfl⟩

/-- A complex type gets its content when every type before it has its own. -/
theorem steps_finishComplex (hb : b.Inv c) (hp : b.Placed) {id : TypeId} (hid : b.schema.Has id)
    (hf : ¬b.isFinished id) (hk : (b.schema.typeDef id).kind.isSimple = false)
    (hn : b.FinishedBelow id.index) (hrun : (finishComplex c limits id).run b = .ok ((), b')) :
    Extent.all.Steps c limits b b' := by
  obtain ⟨o, d, t, up, x, b₁, ho, hget, hu, hlt, hx, hl, hunfinished, rfl⟩ :=
    exists_complexTurn hb hp hid hf hk hn hrun
  have hb₀ : (b.openType id).Inv c := withOpen_inv hb b.openAttributes (id :: b.openTypes)
  have hopen : b.TypeStep c limits (b.openType id) := .openType id
  have hp₀ : (b.openType id).Placed := hopen.placed hp
  have hhas : (b.openType id).schema.Has up := (hn up hlt).1
  obtain ⟨-, -, hs, hplaces⟩ := Takes.complexContent d.scope hhas t.body hp₀ hb₀ x b₁ hx
  have hkind : (b₁.schema.typeDef id).kind.isSimple = false := by
    rw [hl.schema.kind id hid]
    exact hk
  have hup : ∀ up, ((b.openType id).schema.typeDef id).base = some up →
      (b.openType id).isFinished up := fun up hup => (hn up (hb.ordered.base id up hup)).2
  have hbase : ((b.openType id).schema.typeDef id).base.getD Kind.complexType.typeId = up := by
    change (b.schema.typeDef id).base.getD Kind.complexType.typeId = up
    rw [hu, Option.getD_some]
  refine (Relation.ReflTransGen.head (Step.type (.openType id)) hs).tail ?_
  exact Step.finish (hl.origin id o ho) hget hunfinished hkind hb₀ hp₀ hup (hbase ▸ hx) hplaces hid

theorem steps_finishType (hb : b.Inv c) (hp : b.Placed) {n : Nat} (hn : b.FinishedBelow n)
    (hid : b.schema.Has ⟨n⟩) (hrun : (finishType c limits ⟨n⟩).run b = .ok ((), b')) :
    Extent.all.Steps c limits b b' := by
  have hrun : (if b.isFinished ⟨n⟩ then pure ()
      else if b.openTypes.contains ⟨n⟩ then Build.internal .contentReentered
      else if (b.schema.typeDef ⟨n⟩).kind.isSimple then finishSimple c limits ⟨n⟩
      else finishComplex c limits ⟨n⟩ : Build Unit).run b = .ok ((), b') := hrun
  split at hrun
  · cases hrun
    exact .refl
  · rename_i hf
    split at hrun
    · cases hrun
    split at hrun
    · rename_i hk
      exact ((Takes.finishSimple hid hf hk fun up hu =>
        (hn up (hb.ordered.base _ up hu)).2).apply hp hb hrun).1
    · rename_i hk
      exact steps_finishComplex hb hp hid hf (by simpa using hk) hn hrun

theorem steps_finishTypes (hb : b.Inv c) (hp : b.Placed) {n count : Nat} (hn : b.FinishedBelow n)
    (hsize : n + count ≤ b.schema.types.size)
    (hrun : (((List.range' n count).map TypeId.mk).forM (finishType c limits)).run b =
      .ok ((), b')) : Extent.all.Steps c limits b b' := by
  induction count generalizing n b with
  | zero =>
    obtain ⟨⟩ := Except.ok.inj hrun
    exact .refl
  | succ count ih =>
    obtain ⟨⟨_, b₁⟩, hrun₁, hrun₂⟩ := bind_eq_ok hrun
    have hid : b.schema.Has ⟨n⟩ := show n < _ by omega
    have hs := steps_finishType hb hp hn hid hrun₁
    obtain ⟨hg₁, hb₁, hn₁⟩ := finishType_ok hb hn hid hrun₁
    have hsize₁ := hg₁.schema.types_size
    exact hs.trans (ih hb₁ (hs.placed hp) hn₁ (by omega) hrun₂)

/-- A compilation is a sequence of steps. -/
theorem steps_buildAll (hb : b.Inv c) (hp : b.Placed)
    (hrun : (buildAll c limits).run b = .ok ((), b')) : Extent.all.Steps c limits b b' := by
  obtain ⟨⟨_, b₁⟩, hrun₁, hrun₂⟩ := bind_eq_ok hrun
  obtain ⟨hs, hb₁, hp₁, -⟩ := (Takes.resolveAll c.ids).apply hp hb hrun₁
  have hrun₂ : (b₁.declaredTypes.forM (finishType c limits)).run b₁ = .ok ((), b') := hrun₂
  rw [declaredTypes_eq] at hrun₂
  have hstart : b₁.FinishedBelow Kind.all.length := fun id hid =>
    ⟨hb₁.has_of_builtin hid, isFinished_iff.2 (Or.inl (origin_of_builtin hid))⟩
  exact hs.trans (steps_finishTypes hb₁ hp₁ hstart hb₁.size.ge hrun₂)

/-- The builder that a compilation starts with has nothing out of its place. -/
theorem start_placed (ledger : Ledger) : Placed { ledger } where
  builtin k := k.rank_lt
  symbols := nofun
  contents id := by
    by_cases hid : id.index < Kind.all.length
    · obtain ⟨k, hk⟩ := Kind.exists_rank hid
      obtain rfl : k.typeId = id := congrArg TypeId.mk hk
      rw [Schema.builtin_typeDef]
      exact placesContent_empty _ k
    · have hnot : ¬Schema.builtin.Has id := hid
      rw [Schema.typeDef_of_not_has hnot]
      exact placesContent_empty _ .complexType
  attributes id a h := by
    simp [Schema.attribute?, Schema.builtin] at h
  elements id e h := by
    simp [Schema.element?, Schema.builtin] at h

end Builder

end Schemata
