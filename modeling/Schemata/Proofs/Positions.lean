import Schemata.Proofs.Sources

/-!
# Positions of members

A member stores its position among its siblings (`MemberLabel.order`). `Member.Arranged` says that
it does so in every set that is nested in a member. An added member stores how many there are
before it; a restriction, which may leave members out, counts those that are left. What happens to
the builder in between does not matter, so a run is only asked for its result (`Build.Returns`).
-/

namespace Schemata

/-! ## Sets of siblings -/

namespace Member

mutual

/-- The sets that are nested in a member, each as the list of its members. -/
def levels : Member → List (List Member)
  | .element _ _ _ => []
  | .set _ _ members _ => members :: allLevels members
  | .list _ item _ => levels item

/-- The sets that are nested in some members. -/
def allLevels : List Member → List (List Member)
  | [] => []
  | m :: ms => levels m ++ allLevels ms

end

theorem allLevels_eq (ms : List Member) : allLevels ms = ms.flatMap levels := by
  induction ms with
  | nil => rfl
  | cons m ms ih => rw [allLevels, ih, List.flatMap_cons]

/-- The order of each sibling is its position. -/
def InOrder (ms : List Member) : Prop := ms.map (·.label.order) = List.range ms.length

/-- The order of each sibling is its position, in every set that is nested in a member. -/
def Arranged (m : Member) : Prop := ∀ ms ∈ m.levels, InOrder ms

/-- The same for siblings and every set that is nested in them. -/
structure SetArranged (ms : List Member) : Prop where
  orders : InOrder ms
  members : ∀ m ∈ ms, m.Arranged

theorem setArranged_iff {ms : List Member} :
    SetArranged ms ↔ ∀ level ∈ ms :: allLevels ms, InOrder level := by
  rw [List.forall_mem_cons, allLevels_eq, List.forall_mem_flatMap]
  exact ⟨fun h => ⟨h.orders, h.members⟩, fun h => ⟨h.1, h.2⟩⟩

theorem arranged_element (l : MemberLabel) (e : Element) (o : Bool) : (element l e o).Arranged :=
  nofun

theorem arranged_set {l : MemberLabel} {k : SetKind} {ms : List Member} {p : Option Span} :
    (set l k ms p).Arranged ↔ SetArranged ms :=
  setArranged_iff.symm

theorem arranged_list {l : MemberLabel} {item : Member} {o : Occurs} :
    (list l item o).Arranged ↔ item.Arranged :=
  Iff.rfl

theorem Arranged.atOrder {m : Member} (h : m.Arranged) (order : Nat) :
    (m.atOrder order).Arranged := by
  cases m <;> exact h

theorem order_atOrder (m : Member) (order : Nat) : (m.atOrder order).label.order = order := by
  cases m <;> rfl

theorem setArranged_nil : SetArranged [] := ⟨rfl, nofun⟩

/-- A member that stores how many there are before it can be added. -/
theorem SetArranged.concat {ms : List Member} (h : SetArranged ms) {m : Member}
    (hm : m.Arranged) (ho : m.label.order = ms.length) : SetArranged (ms ++ [m]) where
  orders := by
    rw [InOrder, List.map_append, h.orders, List.map_singleton, ho, List.length_append,
      List.length_singleton, List.range_succ]
  members := List.forall_mem_append.2 ⟨h.members, List.forall_mem_singleton.2 hm⟩

/-- Members that are counted again are in order. -/
theorem setArranged_mapIdx {ms : List Member} (h : ∀ m ∈ ms, m.Arranged) :
    SetArranged (ms.mapIdx fun i m => m.atOrder i) where
  orders := List.ext_getElem (by simp) fun i _ _ => by simp [order_atOrder]
  members m hm := by
    obtain ⟨i, hi, rfl⟩ := List.mem_mapIdx.1 hm
    exact (h _ (List.getElem_mem hi)).atOrder i

end Member

theorem label_elementMember (label : MemberLabel) (e : Element) (occurs : Occurs) :
    (elementMember label e occurs).label = label := by
  unfold elementMember
  split <;> rfl

theorem arranged_elementMember (label : MemberLabel) (e : Element) (occurs : Occurs) :
    (elementMember label e occurs).Arranged := by
  unfold elementMember
  split
  · exact Member.arranged_element _ _ _
  · exact Member.arranged_list.2 (Member.arranged_element _ _ _)

theorem label_setMember (label : MemberLabel) (kind : SetKind) (ms : List Member)
    (span : Option Span) (occurs : Occurs) : (setMember label kind ms span occurs).label = label := by
  unfold setMember
  split <;> rfl

theorem arranged_setMember {label : MemberLabel} {kind : SetKind} {ms : List Member}
    {span : Option Span} {occurs : Occurs} (h : Member.SetArranged ms) :
    (setMember label kind ms span occurs).Arranged := by
  unfold setMember
  split
  · exact Member.arranged_set.2 h
  · exact Member.arranged_list.2 (Member.arranged_set.2 h)

/-- The members of children that are a set are in order at every level. -/
def Children.Arranged (children : Option Children) : Prop :=
  ∀ set, children = some (.set set) → Member.SetArranged set.members

theorem Children.arranged_none : Children.Arranged none := nofun

theorem Children.arranged_simple (t : TypeId) : Children.Arranged (some (.simple t)) := nofun

theorem Children.arranged_set {set : ChildSet} (h : Member.SetArranged set.members) :
    Children.Arranged (some (.set set)) := by
  rintro _ ⟨⟩
  exact h

/-! ## Results of runs -/

namespace Build

variable {α β : Type} {P : α → Prop} {Q : β → Prop}

/-- Every run that comes to an end has such a result. -/
def Returns (m : Build α) (P : α → Prop) : Prop :=
  ∀ b a b', m.run b = .ok (a, b') → P a

namespace Returns

theorem any (m : Build α) : m.Returns fun _ => True := fun _ _ _ _ => trivial

theorem pure {a : α} (h : P a) : Build.Returns (pure a) P := by
  rintro b _ _ ⟨⟩
  exact h

theorem bind {m : Build α} {f : α → Build β} (hm : m.Returns P)
    (hf : ∀ a, P a → (f a).Returns Q) : (m >>= f).Returns Q := by
  intro b r b' hrun
  obtain ⟨⟨a, b₁⟩, hrun₁, hrun₂⟩ := bind_eq_ok hrun
  exact hf a (hm b a b₁ hrun₁) b₁ r b' hrun₂

/-- What the first part results in does not matter. -/
theorem bind_any {m : Build α} {f : α → Build β} (hf : ∀ a, (f a).Returns Q) :
    (m >>= f).Returns Q :=
  (any m).bind fun a _ => hf a

theorem map {m : Build α} {f : α → β} (hm : m.Returns fun a => Q (f a)) :
    Build.Returns (f <$> m) Q :=
  hm.bind fun _ h => .pure h

theorem map_bind {γ : Type} {m : Build α} {g : α → γ} {f : γ → Build β} (hm : m.Returns P)
    (hf : ∀ a, P a → (f (g a)).Returns Q) : (g <$> m >>= f).Returns Q := by
  rw [bind_map_left]
  exact hm.bind hf

end Returns

end Build

/-! ## Added members -/

namespace Build.Returns

variable {c : Catalog} {limits : Limits}

mutual

theorem makeMember (scope : Scope) (order : Nat) (item : ChildItem) :
    (makeMember c limits scope order item).Returns fun r =>
      ∀ m, r = some m → m.Arranged ∧ m.label.order = order := by
  unfold Schemata.makeMember
  cases item with
  | element d =>
    refine bind_any fun o => ?_
    cases o with
    | none => exact .pure nofun
    | some occurs =>
      refine bind_any fun e => .pure ?_
      rintro _ ⟨⟩
      exact ⟨arranged_elementMember _ _ _, by rw [label_elementMember]⟩
  | reference u =>
    refine bind_any fun o => ?_
    cases o with
    | none => exact .pure nofun
    | some occurs =>
      refine bind_any fun e => .pure ?_
      rintro _ ⟨⟩
      exact ⟨arranged_elementMember _ _ _, by rw [label_elementMember]⟩
  | set name kind items span bounds =>
    refine bind_any fun o => ?_
    cases o with
    | none => exact .pure nofun
    | some occurs =>
      refine (addMembers scope items Member.setArranged_nil).bind fun ms hms => .pure ?_
      rintro _ ⟨⟩
      exact ⟨arranged_setMember hms, by rw [label_setMember]⟩
  | delete d => exact .pure nofun

theorem addMembers (scope : Scope) (items : List ChildItem) {members : List Member}
    (hms : Member.SetArranged members) :
    (addMembers c limits scope items members).Returns Member.SetArranged := by
  cases items with
  | nil =>
    unfold Schemata.addMembers
    exact .pure hms
  | cons item rest =>
    unfold Schemata.addMembers
    split
    · exact bind_any fun _ => addMembers scope rest hms
    · refine (makeMember scope members.length item).bind fun r hr => ?_
      cases r with
      | none => exact addMembers scope rest hms
      | some m =>
        dsimp only
        split
        · exact bind_any fun _ => addMembers scope rest hms
        · obtain ⟨hm, ho⟩ := hr m rfl
          exact addMembers scope rest (hms.concat hm ho)

end

/-! ## Restricted members -/

theorem restrictOccurs {base : Member} (hbase : base.Arranged) (item : ChildItem) :
    (restrictOccurs base item).Returns fun r => ∀ p, r = some p → p.target.Arranged := by
  unfold Schemata.restrictOccurs
  refine bind_any fun o => ?_
  cases o with
  | none => exact .pure nofun
  | some occurs =>
    dsimp only
    split
    · refine bind_any fun _ => bind_any fun _ => .pure ?_
      rintro _ ⟨⟩
      exact Member.arranged_list.1 hbase
    · split
      · exact bind_any fun _ => .pure nofun
      · refine bind_any fun _ => .pure ?_
        rintro _ ⟨⟩
        exact hbase

theorem shapeDiffers (base : Member) (span : Option Span) :
    (shapeDiffers base span).Returns fun r => ∀ m, r = some m → m.Arranged :=
  bind_any fun _ => .pure nofun

theorem finishRestriction (kind : SetKind) (base : List Member) (span : Option Span)
    {r : RestrictedMembers} (hr : ∀ m ∈ r.found, m.Arranged) :
    (finishRestriction kind base span r).Returns Member.SetArranged := by
  unfold Schemata.finishRestriction
  refine bind_any fun _ => bind_any fun _ => .pure (Member.setArranged_mapIdx fun m hm => ?_)
  obtain ⟨i, -, hi⟩ := List.mem_filterMap.1 hm
  exact hr m (Member.mem_of_find? hi)

mutual

theorem restrictSingle (scope : Scope) {base : Member} (hbase : base.Arranged)
    (isOptional : Bool) (item : ChildItem) :
    (restrictSingle c limits scope base isOptional item).Returns fun r =>
      ∀ m, r = some m → m.Arranged := by
  unfold Schemata.restrictSingle
  cases item with
  | element d =>
    cases base with
    | element label e o =>
      dsimp only
      split
      · exact shapeDiffers _ _
      · refine bind_any fun e' => .pure ?_
        rintro _ ⟨⟩
        exact Member.arranged_element _ _ _
    | set label kind members p => exact shapeDiffers _ _
    | list label i o => exact shapeDiffers _ _
  | reference u =>
    cases base with
    | element label e o =>
      dsimp only
      split
      · exact shapeDiffers _ _
      · refine bind_any fun e' => .pure ?_
        rintro _ ⟨⟩
        exact Member.arranged_element _ _ _
    | set label kind members p => exact shapeDiffers _ _
    | list label i o => exact shapeDiffers _ _
  | set name kind items span bounds =>
    cases base with
    | element label e o => exact shapeDiffers _ _
    | set label baseKind members p =>
      dsimp only
      split
      · have hmembers := (Member.arranged_set.1 hbase).members
        refine (restrictEachMember scope kind hmembers 0 items (r := {}) nofun).bind
          fun r hr => (finishRestriction kind members span hr).bind fun ms hms => .pure ?_
        rintro _ ⟨⟩
        exact Member.arranged_set.2 hms
      · exact shapeDiffers _ _
    | list label i o => exact shapeDiffers _ _
  | delete d => exact shapeDiffers _ _

theorem restrictEachMember (scope : Scope) (kind : SetKind) {base : List Member}
    (hbase : ∀ m ∈ base, m.Arranged) (order : Nat) (items : List ChildItem)
    {r : RestrictedMembers} (hr : ∀ m ∈ r.found, m.Arranged) :
    (restrictEachMember c limits scope kind base order items r).Returns fun r =>
      ∀ m ∈ r.found, m.Arranged := by
  cases items with
  | nil =>
    unfold Schemata.restrictEachMember
    exact .pure hr
  | cons item rest =>
    unfold Schemata.restrictEachMember
    extract_lets name mentioned
    have hrest : ∀ r' : RestrictedMembers, (∀ m ∈ r'.found, m.Arranged) →
        (Schemata.restrictEachMember c limits scope kind base (order + 1) rest r').Returns
          fun r => ∀ m ∈ r.found, m.Arranged :=
      fun _ hr' => restrictEachMember scope kind hbase (order + 1) rest hr'
    split
    · exact bind_any fun _ => hrest _ hr
    · split
      · exact bind_any fun _ => hrest _ hr
      · split
        · exact bind_any fun _ => hrest _ hr
        · rename_i inherited hinherited
          have hin := hbase _ (Member.mem_of_find? hinherited)
          refine (restrictOccurs hin item).bind fun plan hplan => ?_
          cases plan with
          | none => exact hrest _ hr
          | some plan =>
            refine (restrictSingle scope (hplan plan rfl) plan.isOptional item).bind fun m hm => ?_
            cases m with
            | none => exact hrest _ hr
            | some m =>
              refine hrest _ (List.forall_mem_cons.2 ⟨?_, hr⟩)
              split
              · exact hm m rfl
              · exact Member.arranged_list.2 (hm m rfl)

end

/-! ## Content of complex types -/

theorem makeChildren (scope : Scope) (d : ChildrenDecl) :
    (makeChildren c limits scope d).Returns fun x => Children.Arranged (some x) := by
  unfold Schemata.makeChildren
  cases d with
  | simple type span => exact bind_any fun t => .pure (Children.arranged_simple t)
  | set d =>
    exact (addMembers scope d.items Member.setArranged_nil).bind fun ms hms =>
      .pure (Children.arranged_set hms)

theorem ownContent (scope : Scope) (attributes : Option AttributeBlock)
    (children : Option ChildrenDecl) :
    (ownContent c limits scope attributes children).Returns fun x =>
      Children.Arranged x.children := by
  unfold Schemata.ownContent
  have hchildren : (children.mapM (Schemata.makeChildren c limits scope)).Returns
      Children.Arranged := by
    cases children with
    | none => exact .pure Children.arranged_none
    | some d => exact .map (makeChildren scope d)
  exact bind_any fun r => hchildren.bind fun x hx => .pure hx

theorem extendChildren (scope : Scope) {base : Option Children} (hbase : Children.Arranged base)
    (d : ChildrenDecl) :
    (extendChildren c limits scope base d).Returns fun x => Children.Arranged (some x) := by
  unfold Schemata.extendChildren
  split
  · exact makeChildren scope d
  · exact bind_any fun _ => .pure hbase
  · exact bind_any fun _ => .pure hbase
  · exact (addMembers scope _ (hbase _ rfl)).bind fun ms hms =>
      .pure (Children.arranged_set hms)

theorem extensionContent (scope : Scope) {base : ComplexContent}
    (hbase : Children.Arranged base.children) (attributes : Option AttributeBlock)
    (children : Option ChildrenDecl) :
    (extensionContent c limits scope base attributes children).Returns fun x =>
      Children.Arranged x.children := by
  unfold Schemata.extensionContent
  extract_lets jp
  have hjp : ∀ r, (jp r).Returns fun x => Children.Arranged x.children := by
    intro r
    dsimp only [jp]
    cases children with
    | none => exact .pure hbase
    | some d => exact (extendChildren scope hbase d).map_bind fun x hx => .pure hx
  cases attributes with
  | none => exact hjp _
  | some block => exact bind_any fun r => hjp r

theorem restrictChildren (scope : Scope) {base : Option Children} (hbase : Children.Arranged base)
    (d : ChildrenDecl) :
    (restrictChildren c limits scope base d).Returns Children.Arranged := by
  unfold Schemata.restrictChildren
  split
  · exact bind_any fun _ => .pure Children.arranged_none
  · refine bind_any fun t => bind_any fun s => ?_
    split
    · exact .pure (Children.arranged_simple t)
    · exact bind_any fun _ => .pure hbase
  · rename_i base d
    split
    · refine (restrictEachMember scope base.kind (hbase _ rfl).members 0 d.items (r := {})
        nofun).bind fun r hr => ?_
      exact (finishRestriction base.kind base.members d.span hr).bind fun ms hms =>
        .pure (Children.arranged_set hms)
    · exact bind_any fun _ => .pure hbase
  · exact bind_any fun _ => .pure hbase

theorem restrictionContent (scope : Scope) {base : ComplexContent}
    (hbase : Children.Arranged base.children) (facets : Option FacetBlock)
    (attributes : Option AttributeBlock) (children : Option ChildrenDecl) :
    (restrictionContent c limits scope base facets attributes children).Returns fun x =>
      Children.Arranged x.children := by
  unfold Schemata.restrictionContent
  extract_lets jp jp'
  have hjp : ∀ r, (jp r).Returns fun x => Children.Arranged x.children := by
    intro r
    dsimp only [jp]
    cases children with
    | none => exact .pure hbase
    | some d => exact (restrictChildren scope hbase d).bind fun x hx => .pure hx
  have hjp' : ∀ u, (jp' u).Returns fun x => Children.Arranged x.children := by
    intro u
    dsimp only [jp']
    cases attributes with
    | none => exact hjp _
    | some block => exact bind_any fun r => hjp r
  cases facets with
  | none => exact hjp' ()
  | some block => exact bind_any fun u => hjp' u

end Build.Returns

namespace Builder

variable {c : Catalog} {limits : Limits} {b b' : Builder}

theorem arranged_extended {t : TypeDef} (up : TypeId)
    (h : ∀ x, t.asComplex? = some x → Children.Arranged x.children) :
    Children.Arranged (t.extended up).children := by
  unfold TypeDef.extended
  unfold TypeDef.asComplex? at h
  split
  · rename_i x hx
    exact h x (by rw [hx])
  · exact Children.arranged_simple up

theorem arranged_complexContent {scope : Scope} {base : TypeId} {body : TypeBody}
    {x : ComplexContent}
    (hbase : Children.Arranged ((b.schema.typeDef base).extended base).children)
    (hrun : (complexContent c limits scope base body).run b = .ok (x, b')) :
    Children.Arranged x.children := by
  unfold complexContent at hrun
  rw [run_schema_bind] at hrun
  cases body with
  | list item =>
    cases hrun
    exact Children.arranged_none
  | complex attributes children =>
    exact Build.Returns.ownContent scope attributes children b x b' hrun
  | extension r attributes children =>
    exact Build.Returns.extensionContent scope hbase attributes children b x b' hrun
  | restriction r facets attributes children =>
    exact Build.Returns.restrictionContent scope hbase facets attributes children b x b' hrun

/-- The members of every complex type are in order. The content of a type is made from that of its
base, which has a smaller number. -/
theorem Completes.arranged {namespaces : List NamespaceDecl} (h : b.Completes namespaces limits)
    (id : TypeId) {x : ComplexContent} (hx : (b.schema.typeDef id).asComplex? = some x) :
    Children.Arranged x.children := by
  induction hn : id.index using Nat.strong_induction_on generalizing id x with
  | h n ih =>
    rcases h.inv.builtin_or_finished (fun _ => h.isFinished) id with ⟨k, hk⟩ | hid
    · rw [hk] at hx
      rw [Kind.eq_of_asComplex?_builtin hx]
      exact Children.arranged_none
    · obtain ⟨o, d, decl, b₀, b₁, hsource⟩ := h.exists_complexSource hid hx
      refine arranged_complexContent (arranged_extended _ fun y hy => ?_) hsource.run
      rw [hsource.base] at hy
      cases hbase : (b.schema.typeDef id).base with
      | none =>
        rw [hbase, Option.getD_none, h.inv.typeDef_builtin] at hy
        rw [Kind.eq_of_asComplex?_builtin hy]
        exact Children.arranged_none
      | some up =>
        rw [hbase, Option.getD_some] at hy
        exact ih up.index (hn ▸ h.inv.ordered.base id up hbase) up hy rfl

end Builder

end Schemata
