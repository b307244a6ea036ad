import Schemata.Proofs.Likeness

/-!
# Content from two catalogs

The steps that make content, and with them whole compilations, are alike in two catalogs that hold
the same declarations apart from their scopes. The items of a set nest, so the statements about one
item and about several are proved together, by recursion on the items.
-/

namespace Schemata

namespace Comparison

variable {K : Comparison} {c c' : Catalog} {limits : Limits} {s s' : Scope}

namespace Alike

/-! ## Attributes -/

section

variable (h : K.Catalogs c c')
include h

theorem makeGlobalAttribute {d d' : Declaration} (hd : K.Declarations c c' d d')
    (a : GlobalAttributeDecl) :
    K.Alike (makeGlobalAttribute c limits d a) (makeGlobalAttribute c' limits d' a) := by
  unfold Schemata.makeGlobalAttribute
  rw [hd.fullName]
  refine (simpleTypeOf h hd.scope a.type).bind fun type => ?_
  exact (defaultValue h type _ _).bind fun _ => .pure _

theorem resolveAttribute (id : DeclarationId) {d d' : Declaration}
    (hd : K.Declarations c c' d d') (a : GlobalAttributeDecl) :
    K.Alike (resolveAttribute c limits id d a) (resolveAttribute c' limits id d' a) := by
  unfold Schemata.resolveAttribute
  rw [hd.fullName]
  refine .get_bind (fun _ _ => rfl) fun b => .orAbort_bind (.refl K _) fun known => ?_
  cases known with
  | some known => exact .pure known
  | none =>
    dsimp only
    split
    · exact abort _
    · refine .bind (.modify (fun _ _ => rfl) fun _ => rfl) fun _ => ?_
      refine (makeGlobalAttribute h hd a).bind fun made => ?_
      exact .modifyGet (fun _ _ => rfl) fun _ => rfl

theorem attributeOf (hs : K.Scopes c c' s s') (r : NameRef) :
    K.Alike (attributeOf c limits s r) (attributeOf c' limits s' r) := by
  unfold Schemata.attributeOf
  refine .orAbort_bind (hs.resolve r) fun referent => ?_
  cases referent with
  | builtin k => exact abort _
  | declared id =>
    dsimp only
    rcases h.getAs?_cases (·.asAttribute?) id with ⟨hc, hc'⟩ | ⟨d, d', a, hd, hc, hc'⟩
    · rw [hc, hc']
      exact abort _
    · rw [hc, hc']
      refine (resolveAttribute h id hd a).bind fun attributeId => .schema_bind fun schema => ?_
      split
      · exact .pure _
      · exact abort _

theorem makeAttribute (hs : K.Scopes c c' s s') (item : AttributeItem) :
    K.Alike (makeAttribute c limits s item) (makeAttribute c' limits s' item) := by
  unfold Schemata.makeAttribute
  cases item with
  | declared d =>
    refine (simpleTypeOf h hs d.type).bind fun type => ?_
    exact (defaultValue h type _ _).bind fun _ => .pure _
  | reference u => exact (attributeOf h hs u.reference).bind fun _ => .pure _
  | delete d => exact .pure none

theorem addAttributes (hs : K.Scopes c c' s s') (items : List AttributeItem)
    (set : List Attribute) :
    K.Alike (addAttributes c limits s items set) (addAttributes c' limits s' items set) := by
  induction items generalizing set with
  | nil => exact .pure set
  | cons item rest ih =>
    unfold Schemata.addAttributes
    split
    · exact (note _).bind fun _ => ih set
    · refine (makeAttribute h hs item).bind fun made => ?_
      cases made with
      | none => exact ih set
      | some a => exact .ite_note_bind _ (ih set) (ih (set ++ [a]))

theorem restrictEachAttribute (hs : K.Scopes c c' s s') (base : List Attribute)
    (items : List AttributeItem) (r : RestrictedAttributes) :
    K.Alike (restrictEachAttribute c limits s base items r)
      (restrictEachAttribute c' limits s' base items r) := by
  induction items generalizing r with
  | nil => exact .pure r
  | cons item rest ih =>
    unfold Schemata.restrictEachAttribute
    split
    · exact (notes _ _).bind fun _ => ih _
    · refine (makeAttribute h hs item).bind fun made => ?_
      cases made with
      | none => exact ih r
      | some a =>
        refine .ite_note_bind _ (ih r) ?_
        split
        · exact (note _).bind fun _ => ih _
        · exact .schema_bind fun _ => (notes _ _).bind fun _ => ih _

theorem restrictAttributes (hs : K.Scopes c c' s s') (base : List Attribute)
    (block : AttributeBlock) :
    K.Alike (restrictAttributes c limits s base block)
      (restrictAttributes c' limits s' base block) :=
  (restrictEachAttribute h hs base block.items {}).bind fun _ =>
    (notes _ _).bind fun _ => .pure _

end

/-! ## Members that are declared -/

theorem occursOf (item : ChildItem) : K.Alike (occursOf item) (occursOf item) := by
  unfold Schemata.occursOf
  split
  · exact .pure _
  · dsimp only
    split
    · exact .pure _
    · exact (note _).bind fun _ => .pure _

section

variable (h : K.Catalogs c c')
include h

theorem elementReference (hs : K.Scopes c c' s s') (r : NameRef) (span : Option Span) :
    K.Alike (elementReference c limits s r span) (elementReference c' limits s' r span) := by
  unfold Schemata.elementReference
  refine (elementOf h hs r).bind fun id => .schema_bind fun schema => ?_
  split
  · exact .pure _
  · exact abort _

theorem innerElement (hs : K.Scopes c c' s s') (d : ElementDecl) (span : Option Span) :
    K.Alike (innerElement c limits s d span) (innerElement c' limits s' d span) := by
  unfold Schemata.innerElement
  rw [hs.uri]
  exact (typeOf h hs d.type).bind fun _ => .pure _

end

mutual

theorem makeMember (h : K.Catalogs c c') (hs : K.Scopes c c' s s') (order : Nat)
    (item : ChildItem) :
    K.Alike (makeMember c limits s order item) (makeMember c' limits s' order item) := by
  unfold Schemata.makeMember
  cases item with
  | element d =>
    refine (occursOf _).bind fun occurs => ?_
    cases occurs with
    | none => exact .pure none
    | some occurs => exact (innerElement h hs d _).bind fun _ => .pure _
  | reference u =>
    refine (occursOf _).bind fun occurs => ?_
    cases occurs with
    | none => exact .pure none
    | some occurs => exact (elementReference h hs u.reference _).bind fun _ => .pure _
  | set name kind items span bounds =>
    refine (occursOf _).bind fun occurs => ?_
    cases occurs with
    | none => exact .pure none
    | some occurs => exact (addMembers h hs items []).bind fun _ => .pure _
  | delete d => exact .pure none

theorem addMembers (h : K.Catalogs c c') (hs : K.Scopes c c' s s') (items : List ChildItem)
    (members : List Member) :
    K.Alike (addMembers c limits s items members) (addMembers c' limits s' items members) := by
  cases items with
  | nil =>
    unfold Schemata.addMembers
    exact .pure members
  | cons item rest =>
    unfold Schemata.addMembers
    split
    · exact (note _).bind fun _ => addMembers h hs rest members
    · refine (makeMember h hs _ item).bind fun made => ?_
      cases made with
      | none => exact addMembers h hs rest members
      | some m =>
        exact .ite_note_bind _ (addMembers h hs rest members)
          (addMembers h hs rest (members ++ [m]))

end

/-! ## Members that restrict others -/

theorem restrictOccurs (base : Member) (item : ChildItem) :
    K.Alike (restrictOccurs base item) (restrictOccurs base item) := by
  unfold Schemata.restrictOccurs
  refine (occursOf item).bind fun occurs => ?_
  cases occurs with
  | none => exact .pure none
  | some occurs =>
    dsimp only
    split
    · exact (require _ _ _).bind fun _ => (require _ _ _).bind fun _ => .pure _
    · split
      · exact (note _).bind fun _ => .pure none
      · exact (require _ _ _).bind fun _ => .pure _

theorem shapeDiffers (base : Member) (span : Option Span) :
    K.Alike (shapeDiffers base span) (shapeDiffers base span) :=
  (note _).bind fun _ => .pure none

theorem finishRestriction (kind : SetKind) (base : List Member) (span : Option Span)
    (r : RestrictedMembers) :
    K.Alike (finishRestriction kind base span r) (finishRestriction kind base span r) :=
  (notes _ _).bind fun _ => (require _ _ _).bind fun _ => .pure _

section

variable (h : K.Catalogs c c')
include h

theorem restrictInnerElement (hs : K.Scopes c c' s s') (base : Element) (d : ElementDecl)
    (span : Option Span) :
    K.Alike (restrictInnerElement c limits s base d span)
      (restrictInnerElement c' limits s' base d span) :=
  (typeOf h hs d.type).bind fun _ => .schema_bind fun _ =>
    (require _ _ _).bind fun _ => (require _ _ _).bind fun _ => .pure _

theorem restrictReference (hs : K.Scopes c c' s s') (base : ElementId) (r : NameRef)
    (span : Option Span) :
    K.Alike (restrictReference c limits s base r span)
      (restrictReference c' limits s' base r span) :=
  (elementReference h hs r span).bind fun _ => .schema_bind fun _ =>
    (require _ _ _).bind fun _ => .pure _

end

mutual

theorem restrictSingle (h : K.Catalogs c c') (hs : K.Scopes c c' s s') (base : Member)
    (isOptional : Bool) (item : ChildItem) :
    K.Alike (restrictSingle c limits s base isOptional item)
      (restrictSingle c' limits s' base isOptional item) := by
  unfold Schemata.restrictSingle
  cases item with
  | element d =>
    dsimp only
    split
    · split
      · exact shapeDiffers _ _
      · exact (restrictInnerElement h hs _ d _).bind fun _ => .pure _
    · exact shapeDiffers _ _
  | reference u =>
    dsimp only
    split
    · split
      · exact shapeDiffers _ _
      · exact (restrictReference h hs _ u.reference _).bind fun _ => .pure _
    · exact shapeDiffers _ _
  | set name kind items span bounds =>
    dsimp only
    split
    · split
      · refine (restrictEachMember h hs kind _ 0 items {}).bind fun r => ?_
        exact (finishRestriction _ _ _ r).bind fun _ => .pure _
      · exact shapeDiffers _ _
    · exact shapeDiffers _ _
  | delete d => exact shapeDiffers _ _

theorem restrictEachMember (h : K.Catalogs c c') (hs : K.Scopes c c' s s') (kind : SetKind)
    (base : List Member) (order : Nat) (items : List ChildItem) (r : RestrictedMembers) :
    K.Alike (restrictEachMember c limits s kind base order items r)
      (restrictEachMember c' limits s' kind base order items r) := by
  cases items with
  | nil =>
    unfold Schemata.restrictEachMember
    exact .pure r
  | cons item rest =>
    have hrest (r : RestrictedMembers) :
        K.Alike (Schemata.restrictEachMember c limits s kind base (order + 1) rest r)
          (Schemata.restrictEachMember c' limits s' kind base (order + 1) rest r) :=
      restrictEachMember h hs kind base (order + 1) rest r
    unfold Schemata.restrictEachMember
    dsimp only
    split
    · exact (notes _ _).bind fun _ => hrest _
    · refine .ite_note_bind _ (hrest r) ?_
      split
      · exact (note _).bind fun _ => hrest _
      · refine (restrictOccurs _ item).bind fun plan => ?_
        cases plan with
        | none => exact hrest _
        | some plan =>
          refine (restrictSingle h hs plan.target plan.isOptional item).bind fun made => ?_
          cases made with
          | none => exact hrest _
          | some m => exact hrest _

end

/-! ## Complex types -/

section

variable (h : K.Catalogs c c')
include h

theorem makeChildren (hs : K.Scopes c c' s s') (d : ChildrenDecl) :
    K.Alike (makeChildren c limits s d) (makeChildren c' limits s' d) := by
  unfold Schemata.makeChildren
  cases d with
  | simple type span => exact (simpleTypeOf h hs type).bind fun _ => .pure _
  | set d => exact (addMembers h hs d.items []).bind fun _ => .pure _

theorem ownContent (hs : K.Scopes c c' s s') (attributes : Option AttributeBlock)
    (children : Option ChildrenDecl) :
    K.Alike (ownContent c limits s attributes children)
      (ownContent c' limits s' attributes children) := by
  unfold Schemata.ownContent
  refine .bind ?_ fun made => .bind ?_ fun _ => .pure _
  · cases attributes with
    | none => exact .pure none
    | some block => exact (addAttributes h hs block.items []).map fun _ => rfl
  · cases children with
    | none => exact .pure none
    | some d => exact (makeChildren h hs d).map fun _ => rfl

theorem extendChildren (hs : K.Scopes c c' s s') (base : Option Children) (d : ChildrenDecl) :
    K.Alike (extendChildren c limits s base d) (extendChildren c' limits s' base d) := by
  unfold Schemata.extendChildren
  split
  · exact makeChildren h hs d
  · exact (note _).bind fun _ => .pure _
  · exact (note _).bind fun _ => .pure _
  · exact (addMembers h hs _ _).bind fun _ => .pure _

theorem extensionContent (hs : K.Scopes c c' s s') (base : ComplexContent)
    (attributes : Option AttributeBlock) (children : Option ChildrenDecl) :
    K.Alike (extensionContent c limits s base attributes children)
      (extensionContent c' limits s' base attributes children) := by
  unfold Schemata.extensionContent
  extract_lets rest rest'
  have hrest (as : Option (List Attribute)) : K.Alike (rest as) (rest' as) := by
    unfold rest rest'
    cases children with
    | none => exact .pure _
    | some d => exact (extendChildren h hs base.children d).map_bind fun _ => .pure _
  cases attributes with
  | none => exact hrest base.attributes
  | some block => exact (addAttributes h hs block.items _).map_bind hrest

theorem restrictChildren (hs : K.Scopes c c' s s') (base : Option Children) (d : ChildrenDecl) :
    K.Alike (restrictChildren c limits s base d) (restrictChildren c' limits s' base d) := by
  unfold Schemata.restrictChildren
  split
  · exact (note _).bind fun _ => .pure none
  · refine (simpleTypeOf h hs _).bind fun type => .schema_bind fun schema => ?_
    split
    · exact .pure _
    · exact (note _).bind fun _ => .pure _
  · split
    · refine (restrictEachMember h hs _ _ 0 _ {}).bind fun r => ?_
      exact (finishRestriction _ _ _ r).bind fun _ => .pure _
    · exact (note _).bind fun _ => .pure _
  · exact (note _).bind fun _ => .pure _

theorem restrictionContent (hs : K.Scopes c c' s s') (base : ComplexContent)
    (facets : Option FacetBlock) (attributes : Option AttributeBlock)
    (children : Option ChildrenDecl) :
    K.Alike (restrictionContent c limits s base facets attributes children)
      (restrictionContent c' limits s' base facets attributes children) := by
  unfold Schemata.restrictionContent
  extract_lets last rest last' rest'
  have hlast (as : Option (List Attribute)) : K.Alike (last as) (last' as) := by
    unfold last last'
    cases children with
    | none => exact .pure _
    | some d => exact (restrictChildren h hs base.children d).bind fun _ => .pure _
  have hrest (u : Unit) : K.Alike (rest u) (rest' u) := by
    unfold rest rest'
    cases attributes with
    | none => exact hlast base.attributes
    | some block => exact (restrictAttributes h hs _ block).map_bind hlast
  cases facets with
  | none => exact hrest ()
  | some block => exact (note _).bind hrest

theorem complexContent (hs : K.Scopes c c' s s') (base : TypeId) (body : TypeBody) :
    K.Alike (complexContent c limits s base body) (complexContent c' limits s' base body) := by
  unfold Schemata.complexContent
  refine .schema_bind fun schema => ?_
  cases body with
  | list item => exact .pure _
  | complex attributes children => exact ownContent h hs attributes children
  | extension r attributes children => exact extensionContent h hs _ attributes children
  | restriction r facets attributes children =>
    exact restrictionContent h hs _ facets attributes children

theorem finishComplex (hbodies : SameBodies c c') (id : TypeId) :
    K.Alike (finishComplex c limits id) (finishComplex c' limits id) := by
  unfold Schemata.finishComplex
  refine .get_bind (fun _ _ => rfl) fun b => ?_
  rcases h.bind_getType?_cases (b.origin? id) with
    ⟨hc, hc'⟩ | ⟨o, d, d', t, t', hd, ht, ho, hc, hc'⟩
  · rw [hc, hc']
    exact internal _
  · rw [ho, Option.bind_some, Option.bind_some, hc, hc']
    dsimp only
    rw [hbodies hc hc']
    refine .schema_bind fun schema => ?_
    refine .bind (.modify (fun _ _ => rfl) fun _ => rfl) fun _ => ?_
    refine (complexContent h hd.scope _ _).bind fun content => ?_
    exact .modify (fun _ _ => rfl) fun _ => rfl

/-! ## Compilations -/

theorem resolveDeclaration (id : DeclarationId) :
    K.Alike (resolveDeclaration c limits id) (resolveDeclaration c' limits id) := by
  unfold Schemata.resolveDeclaration
  rcases h.get?_cases id with ⟨hc, hc'⟩ | ⟨d, d', hd, hc, hc'⟩
  · rw [hc, hc']
    exact .pure ()
  · rw [hc, hc']
    have hm := hd.member
    dsimp only
    generalize d.member = m at hm
    generalize d'.member = m' at hm
    cases hm with
    | type ht => exact (resolveType h id).discard
    | refl m =>
      cases m with
      | type t => exact (resolveType h id).discard
      | attr a => exact (resolveAttribute h id hd a).discard
      | element e => exact (resolveElement h id).discard

theorem finishType (hbodies : SameBodies c c') (id : TypeId) :
    K.Alike (finishType c limits id) (finishType c' limits id) := by
  unfold Schemata.finishType
  refine .get_bind (fun _ _ => rfl) fun b => ?_
  split
  · exact .pure ()
  · split
    · exact internal _
    · split
      · exact finishSimple h id
      · exact finishComplex h hbodies id

theorem buildAll (hbodies : SameBodies c c') : K.Alike (buildAll c limits) (buildAll c' limits) := by
  unfold Schemata.buildAll
  rw [h.ids]
  refine .bind (.forM (resolveDeclaration h) _) fun _ => ?_
  exact .get_bind (fun _ _ => rfl) fun b => .forM (finishType h hbodies) _

end

end Alike

/-! ## Results -/

/-- Two compilations have the same result, apart from what they have recorded. -/
inductive Results (K : Comparison) : Except TooLong Compilation → Except TooLong Compilation → Prop
  | ended (made : Schema) {l l' : Ledger} (h : K.ledgers l l') :
    K.Results (.ok ⟨l.entries.toList, if !l.hasErrors then some made else none, !l.hasErrors⟩)
      (.ok ⟨l'.entries.toList, if !l'.hasErrors then some made else none, !l'.hasErrors⟩)
  | stopped {l l' : Ledger} (h : K.ledgers l l') :
    K.Results (.ok ⟨l.entries.toList, none, false⟩) (.ok ⟨l'.entries.toList, none, false⟩)
  | tooLong : K.Results (.error {}) (.error {})

/-- If the catalogs of two lists of namespaces hold the same declarations apart from their scopes,
then compiling them has the same result. -/
theorem results_compile {namespaces namespaces' : List NamespaceDecl}
    (h : K.Catalogs (Catalog.ofNamespaces namespaces).1 (Catalog.ofNamespaces namespaces').1)
    (hbodies : SameBodies (Catalog.ofNamespaces namespaces).1 (Catalog.ofNamespaces namespaces').1)
    (hl : K.ledgers (Ledger.extend {} (Catalog.ofNamespaces namespaces).2)
      (Ledger.extend {} (Catalog.ofNamespaces namespaces').2)) (limits : Limits) :
    K.Results (compile namespaces limits) (compile namespaces' limits) := by
  have halike : K.Alike (buildAll (Catalog.ofNamespaces namespaces).1 limits)
      (buildAll (Catalog.ofNamespaces namespaces').1 limits) := .buildAll h hbodies
  have hbuild := halike { ledger := Ledger.extend {} (Catalog.ofNamespaces namespaces).2 } _ hl
  unfold compile
  dsimp only
  generalize (buildAll (Catalog.ofNamespaces namespaces).1 limits).run _ = x at hbuild ⊢
  generalize (buildAll (Catalog.ofNamespaces namespaces').1 limits).run _ = x' at hbuild ⊢
  cases hbuild with
  | ok _ b hb =>
    dsimp only
    rw [h.published]
    exact .ended _ hb
  | aborted hl => exact .stopped hl
  | failed message hl => exact .stopped (K.add hl (K.refl _))
  | tooLong => exact .tooLong

end Comparison

end Schemata
