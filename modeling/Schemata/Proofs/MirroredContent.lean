import Schemata.Proofs.MirroredSymbols

/-!
# Content that is mirrored

The steps that make content are mirrored, and with them what is done for one declaration and for one
type of a catalog.
-/

namespace Schemata

instance : HasNumbers RestrictedAttributes where
  ids r := HasNumbers.ids r.found
  renumber ρ r := { r with found := ρ.on r.found }
  renumber_congr h := by simp only [Renumbering.on_congr h]

instance : HasNumbers RestrictedMembers where
  ids r := HasNumbers.ids r.found
  renumber ρ r := { r with found := ρ.on r.found }
  renumber_congr h := by simp only [Renumbering.on_congr h]

instance : HasNumbers RestrictedMember where
  ids plan := HasNumbers.ids plan.target
  renumber ρ plan := { plan with target := ρ.on plan.target }
  renumber_congr h := by simp only [Renumbering.on_congr h]

namespace Renumbering

variable (ρ : Renumbering)

@[simp]
theorem mentioned_restrictedAttributes (r : RestrictedAttributes) :
    (ρ.on r).mentioned = r.mentioned := rfl

@[simp]
theorem found_restrictedAttributes (r : RestrictedAttributes) : (ρ.on r).found = ρ.on r.found := rfl

@[simp]
theorem mentioned_restrictedMembers (r : RestrictedMembers) :
    (ρ.on r).mentioned = r.mentioned := rfl

@[simp]
theorem found_restrictedMembers (r : RestrictedMembers) : (ρ.on r).found = ρ.on r.found := rfl

@[simp]
theorem on_restrictedMember (target : Member) (isOptional : Bool) (repeated : Option Occurs) :
    ρ.on (RestrictedMember.mk target isOptional repeated) =
      ⟨ρ.on target, isOptional, repeated⟩ := rfl

end Renumbering

namespace Shift

namespace Mirrored

variable {c c' : Catalog} (σ : Shift c c') {limits : Limits}

/-! ## Simple types -/

theorem restrictItem (scope : Scope) (base : Option TypeId) (r : NameRef) :
    σ.Mirrored (restrictItem c limits scope base r) σ.numbers.on
      (restrictItem c' limits scope (σ.numbers.on base) r) := by
  unfold Schemata.restrictItem
  refine (simpleTypeOf σ scope r).bind fun item => schema_bind fun s s' hs => ?_
  cases base with
  | none => exact pure _ _
  | some baseItem =>
    simp only [Renumbering.on_some, Renumbering.on_type, numbers_type, hs.derives_eq,
      hs.fullName_eq]
    split
    · exact pure _ _
    · exact (fault _ _).bind fun _ => pure _ _

theorem restrictSimple (scope : Scope) (kind : Kind) (base : SimpleContent)
    (facets : Option FacetBlock) (attributes : Option AttributeBlock)
    (children : Option ChildrenDecl) :
    σ.Mirrored (restrictSimple c limits scope kind base facets attributes children) σ.numbers.on
      (restrictSimple c' limits scope kind (σ.numbers.on base) facets attributes children) := by
  unfold Schemata.restrictSimple
  refine ite_bind (fault _ _) ?_
  cases facets with
  | none => exact pure _ base
  | some block =>
    refine reading_bind fun narrowed hnarrowed => ?_
    extract_lets rest rest'
    have hrest (facets : Option FacetSet) :
        σ.Mirrored (rest facets) σ.numbers.on (rest' facets) := by
      unfold rest rest'
      split
      · split
        · exact (restrictItem σ scope base.item _).bind fun _ => pure _ _
        · exact pure _ _
      · exact pure _ _
    cases narrowed with
    | ok f => exact hrest (some f)
    | error ds =>
      have hread := readsFrom_narrow kind (base.facets.getD {}) block
      rw [hnarrowed] at hread
      exact (notes fun d hd => ((hread ds rfl).2 d hd).2).bind fun _ => hrest base.facets

theorem simpleContent (scope : Scope) (kind : Kind) (base : SimpleContent) (body : TypeBody) :
    σ.Mirrored (simpleContent c limits scope kind base body) σ.numbers.on
      (simpleContent c' limits scope kind (σ.numbers.on base) body) := by
  unfold Schemata.simpleContent
  cases body with
  | list item => exact (simpleTypeOf σ scope item).bind fun _ => pure _ _
  | restriction => exact restrictSimple σ _ _ _ _ _ _
  | complex => exact pure _ _
  | extension => exact pure _ _

theorem bind_origin {α : Type} {b b' : Builder} (h : σ.Mirrors b b') (as? : Declaration → Option α)
    (t : TypeId) : (b'.origin? (σ.type t)).bind (c'.getAs? as?) =
      (b.origin? t).bind (c.getAs? as?) := by
  rw [h.origin]
  cases b.origin? t with
  | none => rfl
  | some o => exact σ.embeds.getAs?_eq as?

theorem finishSimple (t : TypeId) :
    σ.Mirrored (finishSimple c limits t) (fun u => u) (finishSimple c' limits (σ.type t)) := by
  unfold Schemata.finishSimple
  refine get_bind fun b b' h => ?_
  rw [bind_origin σ h]
  split
  · exact internal
  · rename_i d decl _
    refine schema_bind fun s s' hs => ?_
    have hbase : ((s'.typeDef (σ.type t)).base.bind fun up => (s'.typeDef up).asSimple?).getD {} =
        σ.numbers.on (((s.typeDef t).base.bind fun up => (s.typeDef up).asSimple?).getD {}) := by
      rw [hs.base_eq]
      cases (s.typeDef t).base with
      | none => rfl
      | some up =>
        rw [Option.map_some, Option.bind_some, Option.bind_some, hs.asSimple?_eq]
        cases (s.typeDef up).asSimple? <;> rfl
    rw [hbase, hs.kind_eq]
    refine (change fun b b' h => h.openType t).bind fun _ => ?_
    refine (simpleContent σ d.scope _ _ decl.body).bind fun x => ?_
    exact change fun b b' h => h.finish t (.simple x)

theorem ensureSimple (t : TypeId) :
    σ.Mirrored (ensureSimple c limits t) (fun u => u) (ensureSimple c' limits (σ.type t)) := by
  unfold Schemata.ensureSimple
  refine get_bind fun b b' h => ?_
  have hunfinished : (b'.schema.baseChain (σ.type t)).takeWhile (!b'.isFinished ·) =
      ((b.schema.baseChain t).takeWhile (!b.isFinished ·)).map σ.type := by
    rw [h.schemas.baseChain_eq, List.takeWhile_map]
    simp only [Function.comp_def, h.isFinished_eq]
  have hopen : (((b.schema.baseChain t).takeWhile (!b.isFinished ·)).map σ.type).any
      b'.openTypes.contains = ((b.schema.baseChain t).takeWhile (!b.isFinished ·)).any
        b.openTypes.contains := by
    rw [List.any_map]
    exact congrArg (List.any _) (funext h.contains_openTypes)
  dsimp only
  rw [hunfinished, hopen, ← List.map_reverse]
  split
  · exact internal
  · exact forM (finishSimple σ) _

theorem defaultValue (t : TypeId) (literal : Option String) (span : Option Span) :
    σ.Mirrored (defaultValue c limits t literal span) (fun v => v)
      (defaultValue c' limits (σ.type t) literal span) := by
  unfold Schemata.defaultValue
  cases literal with
  | none => exact pure _ _
  | some text =>
    refine schema_bind fun s s' hs => ?_
    dsimp only
    rw [hs.kind_eq]
    split
    · exact pure _ _
    · refine (ensureSimple σ t).bind fun _ => schema_bind fun s s' hs => ?_
      rw [hs.readValue_eq, hs.fullName_eq]
      refine reading_bind fun v _ => ?_
      cases v with
      | none => exact (fault _ _).bind fun _ => pure _ _
      | some v =>
        dsimp only
        rw [hs.failures_eq]
        split
        · exact pure _ _
        · exact (fault _ _).bind fun _ => pure _ _

/-! ## Attributes -/

theorem makeGlobalAttribute (d : Declaration) (a : GlobalAttributeDecl) :
    σ.Mirrored (makeGlobalAttribute c limits d a) σ.numbers.on
      (makeGlobalAttribute c' limits d a) := by
  unfold Schemata.makeGlobalAttribute
  refine (simpleTypeOf σ d.scope a.type).bind fun type => ?_
  exact (defaultValue σ type _ _).bind fun _ => pure _ _

theorem resolveAttribute (o : DeclarationId) (d : Declaration) (a : GlobalAttributeDecl) :
    σ.Mirrored (resolveAttribute c limits o d a) (fun i => i)
      (resolveAttribute c' limits (σ.place o) d a) := by
  unfold Schemata.resolveAttribute
  refine get_bind fun b b' h => ?_
  refine orAbort_bind (f := fun x => x)
    (fun x hx => ?_) fun known _ => ?_
  · have hknown := h.symbolAs_eq (f := fun i => i) (fun s => by cases s <;> rfl) hx
    rwa [Option.map_id'] at hknown
  · cases known with
    | some known => exact pure _ known
    | none =>
      dsimp only
      rw [h.contains_openAttributes]
      split
      · exact abort
      · refine (change fun b b' h => h.openAttribute o).bind fun _ => ?_
        refine (makeGlobalAttribute σ d a).bind fun made => ?_
        exact changes fun b b' h => h.addAttribute o made

theorem attributeOf (scope : Scope) (r : NameRef) :
    σ.Mirrored (attributeOf c limits scope r) σ.numbers.on (attributeOf c' limits scope r) := by
  unfold Schemata.attributeOf
  refine orAbort_bind (fun _ => σ.embeds.resolve) fun referent _ => ?_
  cases referent with
  | builtin k => exact abort
  | declared o =>
    dsimp only [Referent.place]
    rw [σ.embeds.getAs?_eq]
    split
    · exact abort
    · rename_i d a _
      refine (resolveAttribute σ o d a).bind fun i => schema_bind fun s s' hs => ?_
      rw [hs.attribute?_eq]
      cases s.attribute? i with
      | none => exact abort
      | some a => exact pure _ _

theorem makeAttribute (scope : Scope) (item : AttributeItem) :
    σ.Mirrored (makeAttribute c limits scope item) σ.numbers.on
      (makeAttribute c' limits scope item) := by
  unfold Schemata.makeAttribute
  cases item with
  | declared d =>
    refine (simpleTypeOf σ scope d.type).bind fun type => ?_
    exact (defaultValue σ type _ _).bind fun _ => pure _ _
  | reference u => exact (attributeOf σ scope u.reference).bind fun _ => pure _ _
  | delete d => exact pure _ none

theorem addAttributes (scope : Scope) (items : List AttributeItem) (set : List Attribute) :
    σ.Mirrored (addAttributes c limits scope items set) σ.numbers.on
      (addAttributes c' limits scope items (σ.numbers.on set)) := by
  induction items generalizing set with
  | nil => exact pure _ set
  | cons item rest ih =>
    unfold Schemata.addAttributes
    split
    · exact (fault _ _).bind fun _ => ih set
    · refine (makeAttribute σ scope item).bind fun made => ?_
      cases made with
      | none => exact ih set
      | some a =>
        simp only [Renumbering.on_some, Renumbering.name_attribute, Renumbering.isIn_attribute]
        refine ite_fault_bind _ _ (ih set) ?_
        have hrest := ih (set ++ [a])
        rwa [Renumbering.on_append] at hrest

theorem attributeDeletionFaults_renumber (base : List Attribute) (name : String) :
    attributeDeletionFaults (σ.numbers.on base) name = attributeDeletionFaults base name := by
  unfold attributeDeletionFaults
  rw [Renumbering.find?_attribute]
  cases Attribute.find? base name <;> rfl

theorem restrictEachAttribute (scope : Scope) (base : List Attribute) (items : List AttributeItem)
    (r : RestrictedAttributes) :
    σ.Mirrored (restrictEachAttribute c limits scope base items r) σ.numbers.on
      (restrictEachAttribute c' limits scope (σ.numbers.on base) items (σ.numbers.on r)) := by
  induction items generalizing r with
  | nil => exact pure _ r
  | cons item rest ih =>
    unfold Schemata.restrictEachAttribute
    split
    · dsimp only
      rw [attributeDeletionFaults_renumber]
      exact (faults _ _ _).bind fun _ => ih _
    · refine (makeAttribute σ scope item).bind fun made => ?_
      cases made with
      | none => exact ih r
      | some a =>
        simp only [Renumbering.on_some, Renumbering.name_attribute, Renumbering.find?_attribute]
        refine ite_fault_bind _ _ (ih r) ?_
        cases Attribute.find? base a.name with
        | none => exact (fault _ _).bind fun _ => ih _
        | some inherited =>
          refine schema_bind fun s s' hs => ?_
          rw [hs.attributeFaults_eq]
          exact (faults _ _ _).bind fun _ => ih ⟨a.name :: r.mentioned, a :: r.found⟩

theorem restrictAttributes (scope : Scope) (base : List Attribute) (block : AttributeBlock) :
    σ.Mirrored (restrictAttributes c limits scope base block) σ.numbers.on
      (restrictAttributes c' limits scope (σ.numbers.on base) block) := by
  refine (restrictEachAttribute σ scope base block.items {}).bind fun r => ?_
  have hleft : leftOutAttributes (σ.numbers.on base) (σ.numbers.on r) =
      (leftOutAttributes base r).map σ.numbers.on := by
    rw [leftOutAttributes, leftOutAttributes, Renumbering.on_list, List.filter_map]
    simp only [Function.comp_def, Renumbering.found_restrictedAttributes,
      Renumbering.mentioned_restrictedAttributes, Renumbering.isIn_attribute,
      Renumbering.name_attribute, Renumbering.isOptional_attribute]
  have hnote (a : Attribute) : σ.Mirrored
      (Build.note ((Fault.requiredAttributeLeftOut a.name).diagnostic block.span)) (fun u => u)
      (Build.note ((Fault.requiredAttributeLeftOut (σ.numbers.on a).name).diagnostic
        block.span)) := fault _ _
  rw [hleft]
  refine (forM (f := σ.numbers.on) hnote _).bind fun _ => pure_of ?_
  rw [Renumbering.on_list base, Renumbering.on_list, List.filterMap_map, List.map_filterMap]
  simp only [Function.comp_def, Renumbering.found_restrictedAttributes, Renumbering.name_attribute,
    Renumbering.find?_attribute]
  rfl

/-! ## Members that are declared -/

theorem occursOf (item : ChildItem) :
    σ.Mirrored (occursOf item) (fun x => x) (occursOf item) := by
  unfold Schemata.occursOf
  split
  · exact pure _ _
  · dsimp only
    split
    · exact pure _ _
    · exact (fault _ _).bind fun _ => pure _ _

theorem elementReference (scope : Scope) (r : NameRef) (span : Option Span) :
    σ.Mirrored (elementReference c limits scope r span) σ.numbers.on
      (elementReference c' limits scope r span) := by
  unfold Schemata.elementReference
  refine (elementOf σ scope r).bind fun i => schema_bind fun s s' hs => ?_
  rw [hs.element?_eq]
  cases s.element? i with
  | none => exact abort
  | some e => exact pure _ _

theorem innerElement (scope : Scope) (d : ElementDecl) (span : Option Span) :
    σ.Mirrored (innerElement c limits scope d span) σ.numbers.on
      (innerElement c' limits scope d span) :=
  (typeOf σ scope d.type).bind fun _ => pure _ _

theorem elementMember_renumber (label : MemberLabel) (e : Element) (occurs : Occurs) :
    elementMember label (σ.numbers.on e) occurs = σ.numbers.on (elementMember label e occurs) := by
  unfold elementMember
  split <;> simp

theorem setMember_renumber (label : MemberLabel) (kind : SetKind) (members : List Member)
    (span : Option Span) (occurs : Occurs) :
    setMember label kind (σ.numbers.on members) span occurs =
      σ.numbers.on (setMember label kind members span occurs) := by
  unfold setMember
  split <;> simp

mutual

theorem makeMember (scope : Scope) (order : Nat) (item : ChildItem) :
    σ.Mirrored (makeMember c limits scope order item) σ.numbers.on
      (makeMember c' limits scope order item) := by
  unfold Schemata.makeMember
  cases item with
  | element d =>
    refine (occursOf σ _).bind fun occurs => ?_
    cases occurs with
    | none => exact pure _ none
    | some occurs =>
      refine (innerElement σ scope d _).bind fun e => pure_of ?_
      rw [elementMember_renumber, Renumbering.on_some]
  | reference u =>
    refine (occursOf σ _).bind fun occurs => ?_
    cases occurs with
    | none => exact pure _ none
    | some occurs =>
      refine (elementReference σ scope u.reference _).bind fun e => pure_of ?_
      rw [Renumbering.on_some, ← elementMember_renumber]
  | set name kind items span bounds =>
    refine (occursOf σ _).bind fun occurs => ?_
    cases occurs with
    | none => exact pure _ none
    | some occurs =>
      refine (addMembers scope items []).bind fun members => pure_of ?_
      rw [setMember_renumber, Renumbering.on_some]
  | delete d => exact pure _ none

theorem addMembers (scope : Scope) (items : List ChildItem) (members : List Member) :
    σ.Mirrored (addMembers c limits scope items members) σ.numbers.on
      (addMembers c' limits scope items (σ.numbers.on members)) := by
  cases items with
  | nil =>
    unfold Schemata.addMembers
    exact pure _ members
  | cons item rest =>
    have hlength : (σ.numbers.on members).length = members.length := List.length_map _
    unfold Schemata.addMembers
    rw [hlength]
    split
    · exact (fault _ _).bind fun _ => addMembers scope rest members
    · refine (makeMember scope _ item).bind fun made => ?_
      cases made with
      | none => exact addMembers scope rest members
      | some m =>
        simp only [Renumbering.on_some, Renumbering.name_member, Renumbering.isIn_member]
        refine ite_fault_bind _ _ (addMembers scope rest members) ?_
        have hrest := addMembers scope rest (members ++ [m])
        rwa [Renumbering.on_append] at hrest

end

/-! ## Members that restrict others -/

theorem restrictOccurs (base : Member) (item : ChildItem) :
    σ.Mirrored (restrictOccurs base item) σ.numbers.on
      (restrictOccurs (σ.numbers.on base) item) := by
  have hname : (σ.numbers.on base).name = base.name := Renumbering.name_member _ _
  have hoptional : (σ.numbers.on base).isOptional = base.isOptional :=
    Renumbering.isOptional_member _ _
  unfold Schemata.restrictOccurs
  rw [hname, hoptional]
  refine (occursOf σ item).bind fun occurs => ?_
  cases occurs with
  | none => exact pure _ none
  | some occurs =>
    cases base
    case list label target bounds =>
      exact (require _ _ _).bind fun _ => (require _ _ _).bind fun _ => pure _ _
    all_goals
      simp only [Renumbering.on_elementMember, Renumbering.on_setMember]
      split
      · exact (fault _ _).bind fun _ => pure _ none
      · refine (require _ _ _).bind fun _ => pure_of ?_
        simp [Renumbering.on_restrictedMember]

theorem shapeDiffers (base : Member) (span : Option Span) :
    σ.Mirrored (shapeDiffers base span) σ.numbers.on (shapeDiffers (σ.numbers.on base) span) := by
  have hshape : (σ.numbers.on base).shape = base.shape := by cases base <;> simp [Member.shape]
  unfold Schemata.shapeDiffers
  rw [Renumbering.name_member, hshape]
  exact (fault _ _).bind fun _ => pure _ none

theorem memberDeletionFaults_renumber (kind : SetKind) (base : List Member) (name : String) :
    memberDeletionFaults kind (σ.numbers.on base) name = memberDeletionFaults kind base name := by
  unfold memberDeletionFaults
  rw [Renumbering.find?_member]
  cases Member.find? base name with
  | none => rfl
  | some m => simp only [Renumbering.on_some, Renumbering.isOptional_member]

theorem finishRestriction (kind : SetKind) (base : List Member) (span : Option Span)
    (r : RestrictedMembers) :
    σ.Mirrored (finishRestriction kind base span r) σ.numbers.on
      (finishRestriction kind (σ.numbers.on base) span (σ.numbers.on r)) := by
  have hleft : leftOutMembers kind (σ.numbers.on base) (σ.numbers.on r) =
      (leftOutMembers kind base r).map σ.numbers.on := by
    rw [leftOutMembers, leftOutMembers, Renumbering.on_list, List.filter_map]
    simp only [Function.comp_def, Renumbering.found_restrictedMembers,
      Renumbering.mentioned_restrictedMembers, Renumbering.isIn_member,
      Renumbering.name_member, Renumbering.isOptional_member]
  have hnote (m : Member) : σ.Mirrored
      (Build.note ((Fault.requiredChildLeftOut m.name).diagnostic span)) (fun u => u)
      (Build.note ((Fault.requiredChildLeftOut (σ.numbers.on m).name).diagnostic span)) := by
    rw [Renumbering.name_member]
    exact fault _ _
  have hfound : (σ.numbers.on base).filterMap (fun m => Member.find? (σ.numbers.on r).found m.name) =
      σ.numbers.on (base.filterMap fun m => Member.find? r.found m.name) := by
    rw [Renumbering.on_list base, Renumbering.on_list, List.filterMap_map, List.map_filterMap]
    simp only [Function.comp_def, Renumbering.found_restrictedMembers, Renumbering.name_member,
      Renumbering.find?_member]
    rfl
  have hempty (ms : List Member) : (σ.numbers.on ms).isEmpty = ms.isEmpty := List.isEmpty_map
  unfold Schemata.finishRestriction
  rw [hleft, hfound]
  refine (forM (f := σ.numbers.on) hnote _).bind fun _ => ?_
  dsimp only
  rw [hempty, hempty]
  refine (require _ _ _).bind fun _ => pure_of ?_
  refine List.ext_getElem? fun i => ?_
  simp only [Renumbering.on_list, List.getElem?_mapIdx, List.getElem?_map, Option.map_map,
    Function.comp_def, Renumbering.atOrder_member]

theorem restrictInnerElement (scope : Scope) (base : Element) (d : ElementDecl)
    (span : Option Span) :
    σ.Mirrored (restrictInnerElement c limits scope base d span) σ.numbers.on
      (restrictInnerElement c' limits scope (σ.numbers.on base) d span) := by
  refine (typeOf σ scope d.type).bind fun type => schema_bind fun s s' hs => ?_
  simp only [Renumbering.type_element, numbers_type, hs.derives_eq, hs.fullName_eq]
  exact (require _ _ _).bind fun _ => (require _ _ _).bind fun _ => pure _ _

theorem restrictReference (scope : Scope) (base : ElementId) (r : NameRef) (span : Option Span) :
    σ.Mirrored (restrictReference c limits scope base r span) σ.numbers.on
      (restrictReference c' limits scope base r span) := by
  refine (elementReference σ scope r span).bind fun p => schema_bind fun s s' hs => ?_
  have hname : (s'.element? base).elim (FullName.unqualified "") (·.fullName) =
      (s.element? base).elim (FullName.unqualified "") (·.fullName) := by
    rw [hs.element?_eq]
    cases s.element? base <;> rfl
  obtain ⟨i, e⟩ := p
  simp only [Renumbering.on_element, numbers_element, hs.substitutes_eq, hname]
  exact (require _ _ _).bind fun _ => pure _ _

mutual

theorem restrictSingle (scope : Scope) (base : Member) (isOptional : Bool) (item : ChildItem) :
    σ.Mirrored (restrictSingle c limits scope base isOptional item) σ.numbers.on
      (restrictSingle c' limits scope (σ.numbers.on base) isOptional item) := by
  have hdiffers (span : Option Span) := shapeDiffers σ base span
  unfold Schemata.restrictSingle
  cases item with
  | element d =>
    cases base with
    | element label e _ =>
      have hreferenced : (σ.numbers.on e).referenced.isSome = e.referenced.isSome := by
        rw [Renumbering.referenced_element, on_elements]
      simp only [Renumbering.on_elementMember] at hdiffers ⊢
      rw [hreferenced]
      split
      · exact hdiffers _
      · exact (restrictInnerElement σ scope e d _).bind fun _ => pure _ _
    | set label kind members span =>
      simp only [Renumbering.on_setMember] at hdiffers ⊢
      exact hdiffers _
    | list label target occurs => exact hdiffers _
  | reference u =>
    cases base with
    | element label e _ =>
      simp only [Renumbering.on_elementMember, Renumbering.referenced_element, on_elements]
        at hdiffers ⊢
      split
      · exact hdiffers _
      · exact (restrictReference σ scope _ u.reference _).bind fun _ => pure _ _
    | set label kind members span =>
      simp only [Renumbering.on_setMember] at hdiffers ⊢
      exact hdiffers _
    | list label target occurs => exact hdiffers _
  | set name kind items span bounds =>
    cases base with
    | element label e _ => exact hdiffers _
    | set label baseKind members setSpan =>
      simp only [Renumbering.on_setMember] at hdiffers ⊢
      split
      · refine (restrictEachMember scope kind members 0 items {}).bind fun r => ?_
        refine (finishRestriction σ kind members span r).bind fun ms => pure_of ?_
        simp only [Renumbering.on_some, Renumbering.on_setMember]
      · exact hdiffers _
    | list label target occurs => exact hdiffers _
  | delete d => exact hdiffers _

theorem restrictEachMember (scope : Scope) (kind : SetKind) (base : List Member) (order : Nat)
    (items : List ChildItem) (r : RestrictedMembers) :
    σ.Mirrored (restrictEachMember c limits scope kind base order items r) σ.numbers.on
      (restrictEachMember c' limits scope kind (σ.numbers.on base) order items
        (σ.numbers.on r)) := by
  cases items with
  | nil =>
    unfold Schemata.restrictEachMember
    exact pure _ r
  | cons item rest =>
    have hrest (r : RestrictedMembers) := restrictEachMember scope kind base (order + 1) rest r
    unfold Schemata.restrictEachMember
    dsimp only
    split
    · rw [memberDeletionFaults_renumber]
      exact (faults _ _ _).bind fun _ => hrest _
    · refine ite_fault_bind _ _ (hrest r) ?_
      rw [Renumbering.find?_member]
      cases Member.find? base (item.memberName order) with
      | none => exact (fault _ _).bind fun _ => hrest ⟨_, r.found⟩
      | some inherited =>
        refine (restrictOccurs σ inherited item).bind fun plan => ?_
        cases plan with
        | none => exact hrest ⟨_, r.found⟩
        | some plan =>
          refine (restrictSingle scope plan.target plan.isOptional item).bind fun made => ?_
          obtain ⟨target, isOptional, repeated⟩ := plan
          cases made with
          | none => exact hrest ⟨_, r.found⟩
          | some m =>
            rw [Renumbering.label_member]
            cases repeated with
            | none => exact hrest ⟨_, m :: r.found⟩
            | some occurs =>
              exact hrest ⟨_, .list { inherited.label with span := item.span } m occurs :: r.found⟩

end

/-! ## Complex types -/

theorem makeChildren (scope : Scope) (d : ChildrenDecl) :
    σ.Mirrored (makeChildren c limits scope d) σ.numbers.on (makeChildren c' limits scope d) := by
  unfold Schemata.makeChildren
  cases d with
  | simple type span => exact (simpleTypeOf σ scope type).bind fun _ => pure _ _
  | set d => exact (addMembers σ scope d.items []).bind fun _ => pure _ _

theorem ownContent (scope : Scope) (attributes : Option AttributeBlock)
    (children : Option ChildrenDecl) :
    σ.Mirrored (ownContent c limits scope attributes children) σ.numbers.on
      (ownContent c' limits scope attributes children) := by
  unfold Schemata.ownContent
  refine bind (f := σ.numbers.on) ?_ fun as => bind (f := σ.numbers.on) ?_ fun x => pure _ _
  · cases attributes with
    | none => exact pure _ none
    | some block => exact (addAttributes σ scope block.items []).map fun _ => rfl
  · cases children with
    | none => exact pure _ none
    | some d => exact (makeChildren σ scope d).map fun _ => rfl

theorem extendChildren (scope : Scope) (base : Option Children) (d : ChildrenDecl) :
    σ.Mirrored (extendChildren c limits scope base d) σ.numbers.on
      (extendChildren c' limits scope (σ.numbers.on base) d) := by
  unfold Schemata.extendChildren
  cases base with
  | none => exact makeChildren σ scope d
  | some base =>
    cases base with
    | simple type => exact (fault _ _).bind fun _ => pure _ _
    | set s =>
      cases d with
      | simple r span => exact (fault _ _).bind fun _ => pure _ _
      | set d => exact (addMembers σ scope d.items s.members).bind fun _ => pure _ _

theorem extensionContent (scope : Scope) (base : ComplexContent)
    (attributes : Option AttributeBlock) (children : Option ChildrenDecl) :
    σ.Mirrored (extensionContent c limits scope base attributes children) σ.numbers.on
      (extensionContent c' limits scope (σ.numbers.on base) attributes children) := by
  unfold Schemata.extensionContent
  extract_lets rest rest'
  have hrest (as : Option (List Attribute)) :
      σ.Mirrored (rest as) σ.numbers.on (rest' (σ.numbers.on as)) := by
    unfold rest rest'
    cases children with
    | none => exact pure _ _
    | some d =>
      exact (extendChildren σ scope base.children d).map_bind (g := σ.numbers.on) (fun _ => rfl)
        fun _ => pure _ _
  cases attributes with
  | none => exact hrest base.attributes
  | some block =>
    have hset : (σ.numbers.on base).attributes.getD [] =
        σ.numbers.on (base.attributes.getD []) := by
      obtain ⟨as, cs⟩ := base
      cases as <;> rfl
    dsimp only
    rw [hset]
    exact (addAttributes σ scope block.items _).map_bind (g := σ.numbers.on) (fun _ => rfl) hrest

theorem restrictChildren (scope : Scope) (base : Option Children) (d : ChildrenDecl) :
    σ.Mirrored (restrictChildren c limits scope base d) σ.numbers.on
      (restrictChildren c' limits scope (σ.numbers.on base) d) := by
  unfold Schemata.restrictChildren
  cases base with
  | none => exact (fault _ _).bind fun _ => pure _ none
  | some base =>
    cases base with
    | simple type =>
      cases d with
      | simple r span =>
        refine (simpleTypeOf σ scope r).bind fun t => schema_bind fun s s' hs => ?_
        rw [numbers_type, hs.derives_eq, hs.fullName_eq]
        split
        · exact pure _ _
        · exact (fault _ _).bind fun _ => pure _ _
      | set d => exact (fault _ _).bind fun _ => pure _ _
    | set s =>
      cases d with
      | simple r span => exact (fault _ _).bind fun _ => pure _ _
      | set d =>
        have hset : σ.numbers.on (Children.set s) =
            .set { s with members := σ.numbers.on s.members } := rfl
        simp only [Renumbering.on_some, hset]
        split
        · refine (restrictEachMember σ scope s.kind s.members 0 d.items {}).bind fun r => ?_
          exact (finishRestriction σ s.kind s.members d.span r).bind fun _ => pure _ _
        · exact (fault _ _).bind fun _ => pure _ _

theorem restrictionContent (scope : Scope) (base : ComplexContent) (facets : Option FacetBlock)
    (attributes : Option AttributeBlock) (children : Option ChildrenDecl) :
    σ.Mirrored (restrictionContent c limits scope base facets attributes children) σ.numbers.on
      (restrictionContent c' limits scope (σ.numbers.on base) facets attributes children) := by
  unfold Schemata.restrictionContent
  extract_lets last rest last' rest'
  have hlast (as : Option (List Attribute)) :
      σ.Mirrored (last as) σ.numbers.on (last' (σ.numbers.on as)) := by
    unfold last last'
    cases children with
    | none => exact pure _ _
    | some d => exact (restrictChildren σ scope base.children d).bind fun _ => pure _ _
  have hrest (u : Unit) : σ.Mirrored (rest u) σ.numbers.on (rest' u) := by
    unfold rest rest'
    cases attributes with
    | none => exact hlast base.attributes
    | some block =>
      have hset : (σ.numbers.on base).attributes.getD [] =
          σ.numbers.on (base.attributes.getD []) := by
        obtain ⟨as, cs⟩ := base
        cases as <;> rfl
      dsimp only
      rw [hset]
      exact (restrictAttributes σ scope _ block).map_bind (g := σ.numbers.on) (fun _ => rfl) hlast
  cases facets with
  | none => exact hrest ()
  | some block => exact (fault _ _).bind hrest

theorem complexContent (scope : Scope) (base : TypeId) (body : TypeBody) :
    σ.Mirrored (complexContent c limits scope base body) σ.numbers.on
      (complexContent c' limits scope (σ.type base) body) := by
  unfold Schemata.complexContent
  refine schema_bind fun s s' hs => ?_
  have hextended : (s'.typeDef (σ.type base)).extended (σ.type base) =
      σ.numbers.on ((s.typeDef base).extended base) := by
    rw [hs.typeDef]
    obtain ⟨_, _, _, _, _, _, content, _⟩ := s.typeDef base
    cases content <;> rfl
  rw [hextended]
  cases body with
  | list item => exact pure _ _
  | complex attributes children => exact ownContent σ scope attributes children
  | extension r attributes children => exact extensionContent σ scope _ attributes children
  | restriction r facets attributes children =>
    exact restrictionContent σ scope _ facets attributes children

theorem finishComplex (t : TypeId) :
    σ.Mirrored (finishComplex c limits t) (fun u => u) (finishComplex c' limits (σ.type t)) := by
  unfold Schemata.finishComplex
  refine get_bind fun b b' h => ?_
  rw [bind_origin σ h]
  split
  · exact internal
  · rename_i d decl _
    refine schema_bind fun s s' hs => ?_
    have hbase : (s'.typeDef (σ.type t)).base.getD Kind.complexType.typeId =
        σ.type ((s.typeDef t).base.getD Kind.complexType.typeId) := by
      rw [hs.base_eq]
      cases (s.typeDef t).base with
      | none => exact (σ.builtin _).symm
      | some up => rfl
    rw [hbase]
    refine (change fun b b' h => h.openType t).bind fun _ => ?_
    refine (complexContent σ d.scope _ decl.body).bind fun x => ?_
    exact change fun b b' h => h.finish t (.complex x)

/-! ## Declarations and types -/

theorem resolveDeclaration (o : DeclarationId) :
    σ.Mirrored (resolveDeclaration c limits o) (fun u => u)
      (resolveDeclaration c' limits (σ.place o)) := by
  unfold Schemata.resolveDeclaration
  rw [σ.embeds.get?]
  split
  · exact pure _ ()
  · split
    · exact (resolveType σ o).discard
    · exact (resolveAttribute σ o _ _).discard
    · exact (resolveElement σ o).discard

theorem finishType (t : TypeId) :
    σ.Mirrored (finishType c limits t) (fun u => u) (finishType c' limits (σ.type t)) := by
  unfold Schemata.finishType
  refine get_bind fun b b' h => ?_
  rw [h.isFinished_eq, h.contains_openTypes, h.schemas.kind_eq]
  split
  · exact pure _ ()
  · split
    · exact internal
    · split
      · exact finishSimple σ t
      · exact finishComplex σ t

end Mirrored

end Shift

end Schemata
