import Schemata.Proofs.SimpleReports

/-!
# Content that is made or not

What the functions that make attributes, members and the content of complex types report, as long as
what they are given is mentioned: everything that is wrong with content is recorded, and nothing of
it stops a compilation but a name that does not stand for what it has to, or a literal that is too
long to count. The items of a set nest, so the statements about one item and about several are
proved together, by recursion on the items.
-/

namespace Schemata

namespace Builder.Reports

variable {c : Catalog} {b : Builder} {limits : Limits} {scope : Scope}

/-! ## Attributes -/

theorem attributeOf {r : NameRef} (hrest : b.AtRest) (hm : c.Mentions scope (.attr r)) :
    b.Reports c (attributeOf c limits scope r) fun _ _ => True := by
  unfold Schemata.attributeOf
  extract_lets fault
  refine .orAbort_bind (fun d h => Catalog.explains_of_resolve hm rfl h) fun referent h => ?_
  cases referent with
  | builtin k =>
    refine abort (Catalog.explains_fault hm (fun hmeets => ?_) rfl _)
    obtain ⟨id, hid, -⟩ := hmeets.declaresAttribute h
    cases hid
  | declared id =>
    dsimp only
    split
    · rename_i hnone
      refine abort (Catalog.explains_fault hm (fun hmeets => ?_) rfl _)
      obtain ⟨id', hid, hd⟩ := hmeets.declaresAttribute h
      cases hid
      rw [Catalog.DeclaresAttribute, ← Catalog.isSome_getAs?, hnone] at hd
      cases hd
    · rename_i d a hget
      refine (resolveAttribute hget hrest).bind fun i b₁ _ _ h₁ => .schema_bind ?_
      split
      · exact .pure trivial
      · rename_i hnone
        have hi := h₁.1
        rw [hnone] at hi
        cases hi

theorem makeAttribute {item : AttributeItem} (hrest : b.AtRest)
    (hm : ∀ m ∈ item.mentions, c.Mentions scope m) :
    b.Reports c (makeAttribute c limits scope item) fun _ _ => True := by
  unfold Schemata.makeAttribute
  cases item with
  | declared d =>
    have htype : c.Mentions scope (.type d.type) := hm _ (by simp [AttributeItem.mentions])
    have hdefault : ∀ text, d.defaultValue = some text → c.Mentions scope (.literal text) :=
      fun text htext => hm _ (by simp [AttributeItem.mentions, htext])
    refine (simpleTypeOf htype).bind fun t b₁ _ hk _ => ?_
    exact (defaultValue (hrest.mono hk).types hdefault).last
  | reference u =>
    exact (attributeOf hrest (hm _ (by simp [AttributeItem.mentions]))).last
  | delete d => exact .pure trivial

theorem addAttributes {items : List AttributeItem} {set : List Attribute} (hrest : b.AtRest)
    (hm : ∀ m ∈ items.flatMap AttributeItem.mentions, c.Mentions scope m) :
    b.Reports c (addAttributes c limits scope items set) fun _ _ => True := by
  induction items generalizing b set with
  | nil => exact .pure trivial
  | cons item rest ih =>
    rw [List.flatMap_cons, List.forall_mem_append] at hm
    unfold Schemata.addAttributes
    split
    · exact (fault (by rfl) _).bind fun _ b₁ _ hk _ => ih (hrest.mono hk) hm.2
    · refine (makeAttribute hrest hm.1).bind fun r b₁ _ hk _ => ?_
      have hrest₁ := hrest.mono hk
      cases r with
      | none => exact ih hrest₁ hm.2
      | some a =>
        dsimp only
        split
        · exact (fault (by rfl) _).bind fun _ b₂ _ hk₂ _ => ih (hrest₁.mono hk₂) hm.2
        · exact ih hrest₁ hm.2

theorem ordinary_attributeFaults (s : Schema) (a base : Attribute) :
    ∀ f ∈ attributeFaults s a base, f.code.isFinal = false := by
  simp only [attributeFaults, List.forall_mem_append]
  refine ⟨⟨?_, ?_⟩, ?_⟩ <;> split <;> simp [Fault.code, Code.isFinal, Code.isLookup]

theorem ordinary_attributeDeletionFaults (base : List Attribute) (name : String) :
    ∀ f ∈ attributeDeletionFaults base name, f.code.isFinal = false := by
  unfold attributeDeletionFaults
  split
  · simp [Fault.code, Code.isFinal, Code.isLookup]
  · split <;> simp [Fault.code, Code.isFinal, Code.isLookup]

theorem restrictEachAttribute {base : List Attribute} {items : List AttributeItem}
    {r : RestrictedAttributes} (hrest : b.AtRest)
    (hm : ∀ m ∈ items.flatMap AttributeItem.mentions, c.Mentions scope m) :
    b.Reports c (restrictEachAttribute c limits scope base items r) fun _ _ => True := by
  induction items generalizing b r with
  | nil => exact .pure trivial
  | cons item rest ih =>
    rw [List.flatMap_cons, List.forall_mem_append] at hm
    unfold Schemata.restrictEachAttribute
    split
    · exact (faults (ordinary_attributeDeletionFaults base _) _).bind
        fun _ b₁ _ hk _ => ih (hrest.mono hk) hm.2
    · refine (makeAttribute hrest hm.1).bind fun made b₁ _ hk _ => ?_
      have hrest₁ := hrest.mono hk
      cases made with
      | none => exact ih hrest₁ hm.2
      | some a =>
        dsimp only
        split
        · exact (fault (by rfl) _).bind fun _ b₂ _ hk₂ _ => ih (hrest₁.mono hk₂) hm.2
        · split
          · exact (fault (by rfl) _).bind fun _ b₂ _ hk₂ _ => ih (hrest₁.mono hk₂) hm.2
          · refine .schema_bind ?_
            exact (faults (ordinary_attributeFaults _ _ _) _).bind
              fun _ b₂ _ hk₂ _ => ih (hrest₁.mono hk₂) hm.2

theorem restrictAttributes {base : List Attribute} {block : AttributeBlock} (hrest : b.AtRest)
    (hm : ∀ m ∈ block.mentions, c.Mentions scope m) :
    b.Reports c (restrictAttributes c limits scope base block) fun _ _ => True := by
  unfold Schemata.restrictAttributes
  refine (restrictEachAttribute hrest hm).bind fun r b₁ _ _ _ => ?_
  exact (noteEach _ fun a _ => by rfl).last

/-! ## Members that are declared -/

theorem occursOf (item : ChildItem) : b.Reports c (occursOf item) fun _ _ => True := by
  unfold Schemata.occursOf
  split
  · exact .pure trivial
  · extract_lets occurs
    split
    · exact .pure trivial
    · exact (fault (by rfl) _).last

theorem innerElement {d : ElementDecl} (hm : c.Mentions scope (.type d.type))
    (span : Option Span) :
    b.Reports c (innerElement c limits scope d span) fun _ _ => True := by
  unfold Schemata.innerElement
  exact (typeOf hm).last

mutual

theorem makeMember {b : Builder} (order : Nat) (item : ChildItem)
    (hm : ∀ m ∈ item.mentions, c.Mentions scope m) :
    b.Reports c (makeMember c limits scope order item) fun _ _ => True := by
  unfold Schemata.makeMember
  cases item with
  | element d =>
    refine (occursOf _).bind fun o b₁ _ _ _ => ?_
    cases o with
    | none => exact .pure trivial
    | some occurs =>
      exact (innerElement (hm _ (by simp [ChildItem.mentions])) _).last
  | reference u =>
    refine (occursOf _).bind fun o b₁ _ _ _ => ?_
    cases o with
    | none => exact .pure trivial
    | some occurs =>
      exact (elementReference (hm _ (by simp [ChildItem.mentions])) _).last
  | set name kind items span bounds =>
    refine (occursOf _).bind fun o b₁ _ _ _ => ?_
    cases o with
    | none => exact .pure trivial
    | some occurs =>
      rw [ChildItem.mentions] at hm
      exact (addMembers items [] hm).last
  | delete d => exact .pure trivial

theorem addMembers {b : Builder} (items : List ChildItem) (members : List Member)
    (hm : ∀ m ∈ ChildItem.allMentions items, c.Mentions scope m) :
    b.Reports c (addMembers c limits scope items members) fun _ _ => True := by
  cases items with
  | nil =>
    unfold Schemata.addMembers
    exact .pure trivial
  | cons item rest =>
    rw [ChildItem.allMentions, List.forall_mem_append] at hm
    unfold Schemata.addMembers
    split
    · exact (fault (by rfl) _).bind fun _ b₁ _ _ _ => addMembers rest members hm.2
    · refine (makeMember members.length item hm.1).bind fun r b₁ _ _ _ => ?_
      cases r with
      | none => exact addMembers rest members hm.2
      | some m =>
        dsimp only
        split
        · exact (fault (by rfl) _).bind fun _ b₂ _ _ _ => addMembers rest members hm.2
        · exact addMembers rest _ hm.2

end

/-! ## Members that restrict others -/

theorem restrictOccurs (base : Member) (item : ChildItem) :
    b.Reports c (restrictOccurs base item) fun _ _ => True := by
  unfold Schemata.restrictOccurs
  refine (occursOf item).bind fun o b₁ _ _ _ => ?_
  cases o with
  | none => exact .pure trivial
  | some occurs =>
    dsimp only
    split
    · exact (require _ (by rfl) _).bind fun _ b₂ _ _ _ =>
        (require _ (by rfl) _).bind fun _ b₃ _ _ _ => .pure trivial
    · split
      · exact (fault (by rfl) _).last
      · exact (require _ (by rfl) _).last

theorem shapeDiffers (base : Member) (span : Option Span) :
    b.Reports c (shapeDiffers base span) fun _ _ => True := by
  unfold Schemata.shapeDiffers
  exact (fault (by rfl) _).last

theorem restrictInnerElement {base : Element} {d : ElementDecl}
    (hm : c.Mentions scope (.type d.type)) (span : Option Span) :
    b.Reports c (restrictInnerElement c limits scope base d span) fun _ _ => True := by
  unfold Schemata.restrictInnerElement
  refine (typeOf hm).bind fun t b₁ _ _ _ => .schema_bind ?_
  exact (require _ (by rfl) _).bind fun _ b₂ _ _ _ =>
    (require _ (by rfl) _).bind fun _ b₃ _ _ _ => .pure trivial

theorem restrictReference {base : ElementId} {r : NameRef} (hm : c.Mentions scope (.element r))
    (span : Option Span) :
    b.Reports c (restrictReference c limits scope base r span) fun _ _ => True := by
  unfold Schemata.restrictReference
  refine (elementReference hm span).bind fun ⟨id, e⟩ b₁ _ _ _ => .schema_bind ?_
  exact (require _ (by rfl) _).last

theorem finishRestriction {kind : SetKind} {base : List Member} {r : RestrictedMembers}
    (span : Option Span) :
    b.Reports c (finishRestriction kind base span r) fun _ _ => True := by
  unfold Schemata.finishRestriction
  refine (noteEach _ fun m _ => by rfl).bind fun _ b₁ _ _ _ => ?_
  exact (require _ (by rfl) _).last

theorem ordinary_memberDeletionFaults (kind : SetKind) (base : List Member) (name : String) :
    ∀ f ∈ memberDeletionFaults kind base name, f.code.isFinal = false := by
  unfold memberDeletionFaults
  split
  · simp [Fault.code, Code.isFinal, Code.isLookup]
  · split <;> simp [Fault.code, Code.isFinal, Code.isLookup]

mutual

theorem restrictSingle {b : Builder} (base : Member) (isOptional : Bool) (item : ChildItem)
    (hm : ∀ m ∈ item.mentions, c.Mentions scope m) :
    b.Reports c (restrictSingle c limits scope base isOptional item) fun _ _ => True := by
  unfold Schemata.restrictSingle
  cases item with
  | element d =>
    have htype : c.Mentions scope (.type d.type) := hm _ (by simp [ChildItem.mentions])
    dsimp only
    split
    · split
      · exact shapeDiffers _ _
      · exact (restrictInnerElement htype _).last
    · exact shapeDiffers _ _
  | reference u =>
    have helement : c.Mentions scope (.element u.reference) :=
      hm _ (by simp [ChildItem.mentions])
    dsimp only
    split
    · split
      · exact shapeDiffers _ _
      · exact (restrictReference helement _).last
    · exact shapeDiffers _ _
  | set name kind items span bounds =>
    rw [ChildItem.mentions] at hm
    dsimp only
    split
    · split
      · refine (restrictEachMember kind _ 0 items {} hm).bind fun r b₁ _ _ _ => ?_
        exact (finishRestriction span).last
      · exact shapeDiffers _ _
    · exact shapeDiffers _ _
  | delete d => exact shapeDiffers _ _

theorem restrictEachMember {b : Builder} (kind : SetKind) (base : List Member) (order : Nat)
    (items : List ChildItem) (r : RestrictedMembers)
    (hm : ∀ m ∈ ChildItem.allMentions items, c.Mentions scope m) :
    b.Reports c (restrictEachMember c limits scope kind base order items r) fun _ _ => True := by
  cases items with
  | nil =>
    unfold Schemata.restrictEachMember
    exact .pure trivial
  | cons item rest =>
    rw [ChildItem.allMentions, List.forall_mem_append] at hm
    unfold Schemata.restrictEachMember
    extract_lets name mentioned
    -- the items that are left may be gone through with whatever was found so far
    have hrest : ∀ (b₁ : Builder) (r : RestrictedMembers), b₁.Reports c
        (Schemata.restrictEachMember c limits scope kind base (order + 1) rest r)
          fun _ _ => True :=
      fun b₁ r => restrictEachMember kind base (order + 1) rest r hm.2
    split
    · exact (faults (ordinary_memberDeletionFaults kind base _) _).bind
        fun _ b₁ _ _ _ => hrest b₁ _
    · split
      · exact (fault (by rfl) _).bind fun _ b₁ _ _ _ => hrest b₁ _
      · split
        · exact (fault (by rfl) _).bind fun _ b₁ _ _ _ => hrest b₁ _
        · rename_i inherited _
          refine (restrictOccurs inherited item).bind fun plan b₁ _ _ _ => ?_
          cases plan with
          | none => exact hrest b₁ _
          | some plan =>
            refine (restrictSingle plan.target plan.isOptional item hm.1).bind
              fun m b₂ _ _ _ => ?_
            cases m with
            | none => exact hrest b₂ _
            | some m => exact hrest b₂ _

end

/-! ## Content of complex types -/

theorem makeChildren {d : ChildrenDecl} (hm : ∀ m ∈ d.mentions, c.Mentions scope m) :
    b.Reports c (makeChildren c limits scope d) fun _ _ => True := by
  unfold Schemata.makeChildren
  cases d with
  | simple type span =>
    exact (simpleTypeOf (hm _ (by simp [ChildrenDecl.mentions]))).last
  | set d => exact (addMembers d.items [] hm).last

/-- What the content of a type mentions is mentioned by its attributes and its children. -/
theorem forall_contentMentions {attributes : Option AttributeBlock}
    {children : Option ChildrenDecl} {P : Mention → Prop}
    (h : ∀ m ∈ TypeBody.contentMentions attributes children, P m) :
    (∀ block, attributes = some block → ∀ m ∈ block.mentions, P m) ∧
      ∀ d, children = some d → ∀ m ∈ d.mentions, P m := by
  rw [TypeBody.contentMentions, List.forall_mem_append] at h
  constructor
  · rintro block rfl m hm
    exact h.1 m (by simpa using hm)
  · rintro d rfl m hm
    exact h.2 m (by simpa using hm)

theorem ownContent {attributes : Option AttributeBlock} {children : Option ChildrenDecl}
    (hrest : b.AtRest)
    (hm : ∀ m ∈ TypeBody.contentMentions attributes children, c.Mentions scope m) :
    b.Reports c (ownContent c limits scope attributes children) fun _ _ => True := by
  unfold Schemata.ownContent
  obtain ⟨hattribute, hchild⟩ := forall_contentMentions hm
  have hattributes : b.Reports c
      (attributes.mapM fun block => Schemata.addAttributes c limits scope block.items [])
      fun _ _ => True := by
    cases attributes with
    | none => exact .pure trivial
    | some block =>
      exact .map (addAttributes hrest (hattribute block rfl))
  refine hattributes.bind fun r b₁ _ _ _ => ?_
  have hchildren : b₁.Reports c (children.mapM (Schemata.makeChildren c limits scope))
      fun _ _ => True := by
    cases children with
    | none => exact .pure trivial
    | some d => exact .map (makeChildren (hchild d rfl))
  exact hchildren.last

theorem extendChildren {base : Option Children} {d : ChildrenDecl}
    (hm : ∀ m ∈ d.mentions, c.Mentions scope m) :
    b.Reports c (extendChildren c limits scope base d) fun _ _ => True := by
  have hextended : ∀ bySet, (Fault.simpleValueExtended bySet).code.isFinal = false := by decide
  unfold Schemata.extendChildren
  split
  · exact makeChildren hm
  · exact (fault (hextended _) _).last
  · exact (fault (by rfl) _).last
  · exact (addMembers _ _ hm).last

theorem extensionContent {base : ComplexContent} {attributes : Option AttributeBlock}
    {children : Option ChildrenDecl} (hrest : b.AtRest)
    (hm : ∀ m ∈ TypeBody.contentMentions attributes children, c.Mentions scope m) :
    b.Reports c (extensionContent c limits scope base attributes children) fun _ _ => True := by
  unfold Schemata.extensionContent
  obtain ⟨hattribute, hchild⟩ := forall_contentMentions hm
  extract_lets jp
  have hjp : ∀ b₁ r, Builder.Reports b₁ c (jp r) fun _ _ => True := by
    intro b₁ r
    dsimp only [jp]
    cases children with
    | none => exact .pure trivial
    | some d =>
      exact (extendChildren (hchild d rfl)).map_bind
        fun _ _ _ _ _ => .pure trivial
  cases attributes with
  | none => exact hjp b _
  | some block =>
    exact (addAttributes hrest (hattribute block rfl)).map_bind
      fun _ b₁ _ _ _ => hjp b₁ _

theorem restrictChildren {base : Option Children} {d : ChildrenDecl}
    (hm : ∀ m ∈ d.mentions, c.Mentions scope m) :
    b.Reports c (restrictChildren c limits scope base d) fun _ _ => True := by
  unfold Schemata.restrictChildren
  split
  · exact (fault (by rfl) _).last
  · refine (simpleTypeOf (hm _ (by simp [ChildrenDecl.mentions]))).bind
      fun t b₁ _ _ _ => .schema_bind ?_
    split
    · exact .pure trivial
    · exact (fault (by rfl) _).last
  · split
    · refine (restrictEachMember _ _ 0 _ {} hm).bind fun r b₁ _ _ _ => ?_
      exact (finishRestriction _).last
    · exact (fault (by rfl) _).last
  · exact (fault (by rfl) _).last

theorem restrictionContent {base : ComplexContent} {facets : Option FacetBlock}
    {attributes : Option AttributeBlock} {children : Option ChildrenDecl} (hrest : b.AtRest)
    (hm : ∀ m ∈ TypeBody.contentMentions attributes children, c.Mentions scope m) :
    b.Reports c (restrictionContent c limits scope base facets attributes children)
      fun _ _ => True := by
  unfold Schemata.restrictionContent
  obtain ⟨hattribute, hchild⟩ := forall_contentMentions hm
  extract_lets jp jp'
  have hjp : ∀ b₁ r, Builder.Reports b₁ c (jp r) fun _ _ => True := by
    intro b₁ r
    dsimp only [jp]
    cases children with
    | none => exact .pure trivial
    | some d =>
      exact (restrictChildren (hchild d rfl)).last
  have hjp' : ∀ b₁ u, b₁.AtRest → Builder.Reports b₁ c (jp' u) fun _ _ => True := by
    intro b₁ u hrest₁
    dsimp only [jp']
    cases attributes with
    | none => exact hjp b₁ _
    | some block =>
      exact (restrictAttributes hrest₁ (hattribute block rfl)).map_bind
        fun _ b₂ _ _ _ => hjp b₂ _
  cases facets with
  | none => exact hjp' b () hrest
  | some block =>
    exact (fault (by rfl) _).bind fun u b₁ _ hk _ => hjp' b₁ u (hrest.mono hk)

theorem complexContent {base : TypeId} {body : TypeBody} (hrest : b.AtRest)
    (hm : ∀ m ∈ body.mentions, c.Mentions scope m) :
    b.Reports c (complexContent c limits scope base body) fun _ _ => True := by
  unfold Schemata.complexContent
  refine .schema_bind ?_
  extract_lets inherited
  cases body with
  | list item => exact .pure trivial
  | complex attributes children => exact ownContent hrest hm
  | extension up attributes children =>
    exact extensionContent hrest fun m h => hm m (List.mem_cons_of_mem _ h)
  | restriction up facets attributes children =>
    exact restrictionContent hrest fun m h => hm m (List.mem_append_right _ h)

/-- While the content of a complex type is made, the type is in the making, and with it no other
that was not before. -/
theorem finishComplex {id : TypeId} {o : DeclarationId} (ho : b.origin? id = some o)
    (hid : b.schema.Has id) (hk : (b.schema.typeDef id).kind.isSimple = false)
    (hrest : b.AtRest) : b.Reports c (finishComplex c limits id) fun _ _ => True := by
  refine .of_orderly fun horder => ?_
  obtain ⟨hbuiltin, d, t, hget⟩ := horder.exists_getAs? ho
  unfold Schemata.finishComplex
  refine .get_bind ?_
  simp only [ho, Option.bind_some, hget]
  have hopen : (b.openType id).AtRest :=
    ⟨hrest.attributes, List.forall_mem_cons.2 ⟨⟨hid, hk⟩, hrest.types⟩⟩
  refine .schema_bind (making hbuiltin (complexContent hopen fun m hm => ?_))
  exact Catalog.mentions_of_type hget hm

end Builder.Reports

end Schemata
