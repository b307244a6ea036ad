import Schemata.Proofs.Members

/-!
# Content of complex types

The content that a complex type gets is sound, and its attributes come from the base or are made in
the type. The content of a restriction narrows that of the base unless an error is recorded.
-/

namespace Schemata

namespace ComplexContent

theorem childSet?_eq_some {c : ComplexContent} {set : ChildSet} :
    c.childSet? = some set ↔ c.children = some (.set set) := by
  unfold childSet?
  split
  · rename_i s hs
    simp [hs]
  · rename_i hs
    constructor
    · intro h
      cases h
    · intro h
      exact absurd h (hs set)

theorem sound_empty (s : Schema) : Sound s {} :=
  ⟨List.nodup_nil, fun _ h => by cases childSet?_eq_some.1 h⟩

theorem sound_simple (s : Schema) (id : TypeId) : Sound s { children := some (.simple id) } :=
  ⟨List.nodup_nil, fun _ h => by cases childSet?_eq_some.1 h⟩

end ComplexContent

/-- The members of children that are a set are sound. -/
def Children.Sound (s : Schema) (children : Option Children) : Prop :=
  ∀ set, children = some (.set set) → Member.SetSound s set.members

theorem Children.Sound.mono {s s' : Schema} (hs : s.Extends s') {children : Option Children}
    (h : Children.Sound s children) : Children.Sound s' children :=
  fun set hset => (h set hset).mono hs

theorem Children.sound_set {s : Schema} {set : ChildSet} (h : Member.SetSound s set.members) :
    Children.Sound s (some (.set set)) := by
  rintro _ ⟨⟩
  exact h

theorem Children.sound_simple (s : Schema) (t : TypeId) : Children.Sound s (some (.simple t)) :=
  nofun

theorem ComplexContent.Sound.children {s : Schema} {c : ComplexContent} (h : c.Sound s) :
    Children.Sound s c.children :=
  fun set hset => h.members set (childSet?_eq_some.2 hset)

theorem TypeDef.extended_of_complex {t : TypeDef} {x : ComplexContent}
    (h : t.asComplex? = some x) (id : TypeId) : t.extended id = x := by
  unfold TypeDef.asComplex? at h
  unfold TypeDef.extended
  split at h <;> simp_all

theorem TypeDef.extended_of_simple {t : TypeDef} (h : t.asSimple?.isSome) (id : TypeId) :
    t.extended id = { children := some (.simple id) } := by
  unfold TypeDef.asSimple? at h
  unfold TypeDef.extended
  split at h <;> simp_all

namespace Builder

variable {c : Catalog} {b : Builder} {limits : Limits} {n : Nat}

/-- Content of a complex type whose attributes are inherited or made in the type. -/
structure GoodContent (b : Builder) (n : Nat) (inherited x : ComplexContent) : Prop where
  sound : x.Sound b.schema
  attributes : ∀ a ∈ x.attributes.getD [], a ∈ inherited.attributes.getD [] ∨ b.Made n a

theorem GoodContent.of_children {b' : Builder} {inherited : ComplexContent}
    {attributes : Option (List Attribute)} {children : Option Children} (hb : b.Inv c)
    (hg : b.Grows c b') (hn : ((attributes.getD []).map Attribute.name).Nodup)
    (ha : ∀ a ∈ attributes.getD [], a ∈ inherited.attributes.getD [] ∨ b.Made n a)
    (hc : Children.Sound b'.schema children) :
    b'.GoodContent n inherited ⟨attributes, children⟩ where
  sound := ⟨hn, fun set hset => hc set (ComplexContent.childSet?_eq_some.1 hset)⟩
  attributes a h := (ha a h).imp_right (·.mono hb hg)

namespace Ensures

/-! ## Content that is declared -/

theorem makeChildren (scope : Scope) (d : ChildrenDecl) :
    b.Ensures c (makeChildren c limits scope d) fun x b₁ => Children.Sound b₁.schema (some x) := by
  unfold Schemata.makeChildren
  cases d with
  | simple type span =>
    exact (simpleTypeOf scope type).bind fun t b₁ _ _ _ => .pure (Children.sound_simple _ t)
  | set d =>
    exact (addMembers scope d.items (Member.setSound_nil _)).bind fun members b₁ _ _ hm =>
      .pure (Children.sound_set hm)

theorem ownContent (hn : b.FinishedBelow n) (scope : Scope) (attributes : Option AttributeBlock)
    (children : Option ChildrenDecl) (inherited : ComplexContent) :
    b.Ensures c (ownContent c limits scope attributes children) fun x b₁ =>
      b₁.GoodContent n inherited x := by
  unfold Schemata.ownContent
  have hattributes : b.Ensures c
      (attributes.mapM fun block => Schemata.addAttributes c limits scope block.items [])
      fun r b₁ => ((r.getD []).map Attribute.name).Nodup ∧ ∀ a ∈ r.getD [], b₁.Made n a := by
    cases attributes with
    | none => exact .pure ⟨List.nodup_nil, nofun⟩
    | some block =>
      have hnil : (([] : List Attribute).map Attribute.name).Nodup := List.nodup_nil
      refine .map ((addAttributes hn scope block.items hnil).mono
        fun r b₁ _ _ ⟨hr, hm⟩ => ⟨hr, fun a ha => ?_⟩)
      exact (hm a ha).resolve_left nofun
  refine hattributes.bind fun r b₁ _ hb₁ ⟨hr, hm⟩ => ?_
  have hchildren : b₁.Ensures c (children.mapM (Schemata.makeChildren c limits scope))
      fun x b₂ => Children.Sound b₂.schema x := by
    cases children with
    | none => exact .pure nofun
    | some d => exact .map (makeChildren scope d)
  exact hchildren.bind fun x b₂ hg₂ _ hx =>
    .pure (.of_children hb₁ hg₂.toGrows hr (fun a ha => Or.inr (hm a ha)) hx)

/-! ## Extensions -/

theorem extendChildren (scope : Scope) {base : Option Children}
    (hbase : Children.Sound b.schema base) (d : ChildrenDecl) :
    b.Ensures c (extendChildren c limits scope base d) fun x b₁ =>
      Children.Sound b₁.schema (some x) := by
  unfold Schemata.extendChildren
  split
  · exact makeChildren scope d
  · exact (note _).bind fun _ b₁ _ _ _ => .pure (Children.sound_simple _ _)
  · exact (note _).bind fun _ b₁ hg _ _ => .pure (hbase.mono hg.schema)
  · exact (addMembers scope _ (hbase _ rfl)).bind fun members b₁ _ _ hm =>
      .pure (Children.sound_set hm)

theorem extensionContent (hn : b.FinishedBelow n) (scope : Scope) {base : ComplexContent}
    (hbase : base.Sound b.schema) (attributes : Option AttributeBlock)
    (children : Option ChildrenDecl) :
    b.Ensures c (extensionContent c limits scope base attributes children) fun x b₁ =>
      b₁.GoodContent n base x := by
  unfold Schemata.extensionContent
  extract_lets jp
  have hjp : ∀ r b₁, b₁.Inv c → b.Grows c b₁ → ((r.getD []).map Attribute.name).Nodup →
      (∀ a ∈ r.getD [], a ∈ base.attributes.getD [] ∨ b₁.Made n a) →
      b₁.Ensures c (jp r) fun x b₂ => b₂.GoodContent n base x := by
    intro r b₁ hb₁ hg hr hm
    have hsound := hbase.children.mono hg.schema
    dsimp only [jp]
    cases children with
    | none => exact .pure (.of_children hb₁ (.refl c b₁) hr hm hsound)
    | some d =>
      exact (extendChildren scope hsound d).map_bind fun x b₂ hg₂ _ hx =>
        .pure (.of_children hb₁ hg₂.toGrows hr hm hx)
  refine .of_inv fun hb => ?_
  cases attributes with
  | none => exact hjp _ b hb (.refl c b) hbase.attributes fun a ha => Or.inl ha
  | some block =>
    exact (addAttributes hn scope block.items hbase.attributes).map_bind
      fun r b₁ hg hb₁ ⟨hr, hm⟩ => hjp _ b₁ hb₁ hg.toGrows hr hm

/-! ## Restrictions -/

theorem restrictChildren (scope : Scope) {base : Option Children}
    (hbase : Children.Sound b.schema base) (d : ChildrenDecl) :
    b.Ensures c (restrictChildren c limits scope base d) fun x b₁ => Children.Sound b₁.schema x ∧
      (b₁.Clean → Children.Narrow b₁.schema x base) := by
  unfold Schemata.restrictChildren
  split
  · refine (note _).bind fun _ b₁ _ _ ⟨_, hne⟩ => .pure ⟨nofun, fun hc => ?_⟩
    exact absurd hc (hne (Fault.isError_diagnostic _ _))
  · rename_i up r span
    refine (simpleTypeOf scope r).bind fun t b₁ _ _ _ => .schema_bind ?_
    split
    · rename_i hd
      exact .pure ⟨Children.sound_simple _ t, fun _ => .simple hd⟩
    · exact (note _).bind fun _ b₂ _ _ _ =>
        .pure ⟨Children.sound_simple _ up, fun _ => .refl _ _⟩
  · rename_i base d
    have hset := hbase base rfl
    split
    · refine (restrictEachMember scope hset 0 d.items (.start b base.kind base.members)).bind
        fun r b₁ _ _ hr => ?_
      refine (finishRestriction hset.names hr d.span).bind fun ms b₂ _ _ ⟨hs, hn⟩ => .pure ?_
      exact ⟨Children.sound_set hs, fun hc => .set (hn hc).1 (hn hc).2⟩
    · exact (note _).bind fun _ b₂ hg _ _ =>
        .pure ⟨hbase.mono hg.schema, fun _ => .refl _ _⟩
  · exact (note _).bind fun _ b₂ hg _ _ => .pure ⟨hbase.mono hg.schema, fun _ => .refl _ _⟩

theorem restrictionContent (hn : b.FinishedBelow n) (scope : Scope) {base : ComplexContent}
    (hbase : base.Sound b.schema) (facets : Option FacetBlock)
    (attributes : Option AttributeBlock) (children : Option ChildrenDecl) :
    b.Ensures c (restrictionContent c limits scope base facets attributes children) fun x b₁ =>
      b₁.GoodContent n base x ∧ (b₁.Clean → x.Narrows b₁.schema base) := by
  refine .of_inv fun hb => ?_
  unfold Schemata.restrictionContent
  extract_lets jp jp'
  have hjp : ∀ r b₁, b₁.Inv c → b.Grows c b₁ → ((r.getD []).map Attribute.name).Nodup →
      (∀ a ∈ r.getD [], a ∈ base.attributes.getD [] ∨ b₁.Made n a) →
      (b₁.Clean → Attribute.SetNarrows b₁.schema (r.getD []) (base.attributes.getD [])) →
      b₁.Ensures c (jp r) fun x b₂ =>
        b₂.GoodContent n base x ∧ (b₂.Clean → x.Narrows b₂.schema base) := by
    intro r b₁ hb₁ hg hr hm hnarrow
    have hsound := hbase.children.mono hg.schema
    dsimp only [jp]
    cases children with
    | none =>
      exact .pure ⟨.of_children hb₁ (.refl c b₁) hr hm hsound,
        fun hc => ⟨hnarrow hc, .refl _ _⟩⟩
    | some d =>
      refine (restrictChildren scope hsound d).bind fun x b₂ hg₂ _ ⟨hx, hxn⟩ => .pure ?_
      exact ⟨.of_children hb₁ hg₂.toGrows hr hm hx,
        fun hc => ⟨(hnarrow (hg₂.clean hc)).mono hg₂.schema, hxn hc⟩⟩
  have hjp' : ∀ u b₁, b₁.Inv c → b.Grows c b₁ → b₁.Ensures c (jp' u) fun x b₂ =>
      b₂.GoodContent n base x ∧ (b₂.Clean → x.Narrows b₂.schema base) := by
    intro u b₁ hb₁ hg
    have hbase₁ := hbase.mono hg.schema
    dsimp only [jp']
    cases attributes with
    | none =>
      exact hjp _ b₁ hb₁ hg hbase₁.attributes (fun a ha => Or.inl ha) fun _ => .refl _ _
    | some block =>
      exact (restrictAttributes (hn.mono hb hg) scope hbase₁.attributes block).map_bind
        fun r b₂ hg₂ hb₂ ⟨hr, hm, hnarrow⟩ => hjp _ b₂ hb₂ (hg.trans hb hg₂.toGrows) hr
          (fun a ha => Or.inr (hm a ha)) hnarrow
  cases facets with
  | none => exact hjp' () b hb (.refl c b)
  | some block => exact (note _).bind fun u b₁ hg hb₁ _ => hjp' u b₁ hb₁ hg.toGrows

/-! ## Complex types -/

/-- The content of a complex type, of which it matters whether the type is a restriction. -/
theorem complexContent (hn : b.FinishedBelow n) (scope : Scope) {base : TypeId}
    (hbase : ((b.schema.typeDef base).extended base).Sound b.schema) (body : TypeBody) :
    b.Ensures c (complexContent c limits scope base body) fun x b₁ =>
      b₁.GoodContent n ((b.schema.typeDef base).extended base) x ∧
      (b₁.Clean → (∃ up facets attributes children,
        body = .restriction up facets attributes children) →
        x.Narrows b₁.schema ((b.schema.typeDef base).extended base)) := by
  unfold Schemata.complexContent
  refine .schema_bind ?_
  extract_lets inherited
  cases body with
  | list item =>
    refine .pure ⟨⟨ComplexContent.sound_empty _, nofun⟩, ?_⟩
    rintro _ ⟨_, _, _, _, ⟨⟩⟩
  | complex attributes children =>
    refine (ownContent hn scope attributes children inherited).mono fun x b₁ _ _ hx => ⟨hx, ?_⟩
    rintro _ ⟨_, _, _, _, ⟨⟩⟩
  | extension up attributes children =>
    refine (extensionContent hn scope hbase attributes children).mono fun x b₁ _ _ hx => ⟨hx, ?_⟩
    rintro _ ⟨_, _, _, _, ⟨⟩⟩
  | restriction up facets attributes children =>
    exact (restrictionContent hn scope hbase facets attributes children).mono
      fun x b₁ _ _ ⟨hx, hnarrow⟩ => ⟨hx, fun hc _ => hnarrow hc⟩

end Ensures

/-! ## Turns -/

/-- The content that complex types start from is sound, and its default values fit. -/
theorem Inv.extended (hb : b.Inv c) {up : TypeId} (hup : b.schema.Has up) (hf : b.isFinished up) :
    ((b.schema.typeDef up).extended up).Sound b.schema ∧
      ∀ a ∈ ((b.schema.typeDef up).extended up).attributes.getD [], b.DefaultFits 0 a := by
  unfold TypeDef.extended
  split
  · rename_i d hd
    rcases isFinished_iff.1 hf with ho | hmem
    · -- the only built-in complex type is the root, which is empty
      obtain ⟨k, -, hk⟩ := hb.exists_kind (hb.builtin_of_origin hup ho)
      have hd' : k.builtin.asComplex? = some d := by
        rw [← hk, TypeDef.asComplex?, hd]
      rw [Kind.eq_of_asComplex?_builtin hd']
      exact ⟨ComplexContent.sound_empty _, fun a ha => by cases ha⟩
    · have hs := hb.finished up hmem
      have hd' : (b.schema.typeDef up).asComplex? = some d := by
        rw [TypeDef.asComplex?, hd]
      exact ⟨hs.content d hd', fun a ha => (hs.defaults d hd' a ha).1⟩
  · exact ⟨ComplexContent.sound_simple _ _, fun a ha => by cases ha⟩

theorem mem_extended {t : TypeDef} {id : TypeId} {a : Attribute}
    (h : a ∈ (t.extended id).attributes.getD []) :
    ∃ d, t.asComplex? = some d ∧ a ∈ d.attributes.getD [] := by
  unfold TypeDef.extended at h
  split at h
  · rename_i d hd
    exact ⟨d, by rw [TypeDef.asComplex?, hd], h⟩
  · cases h

/-- A complex type gets its content when every type before it has its own. -/
theorem finishComplexType (hb : b.Inv c) {id : TypeId} (hid : b.schema.Has id)
    (hf : ¬b.isFinished id) (hk : (b.schema.typeDef id).kind.isSimple = false)
    (hn : b.FinishedBelow id.index) {b' : Builder}
    (hrun : (finishComplex c limits id).run b = .ok ((), b')) :
    b.Grows c b' ∧ b'.Inv c ∧ b'.isFinished id := by
  obtain ⟨hdeclared, hmem⟩ := not_or.1 (mt isFinished_iff.2 hf)
  obtain ⟨o, ho⟩ := Option.ne_none_iff_exists'.1 hdeclared
  obtain ⟨d, t, up, hd, ht, hu, hlt, hh, -⟩ := hb.declared id o ho
  obtain ⟨hhas, hfin⟩ := hn up hlt
  obtain ⟨hsound, hfits⟩ := hb.extended hhas hfin
  have hrun' : (complexContent c limits d.scope up t.body >>= fun content =>
      modify (·.finish id (.complex content))).run (b.openType id) = .ok ((), b') := by
    rw [← hrun, finishComplex]
    simp [Build.schema, ho, Catalog.getAs?_eq_some_iff.2 ⟨hd, ht⟩, hu]
  obtain ⟨⟨x, b₁⟩, hx, hlast⟩ := bind_eq_ok hrun'
  cases hlast
  have hg₀ := withOpen_grows (c := c) (b := b) b.openAttributes (id :: b.openTypes)
  have hb₀ := withOpen_inv hb b.openAttributes (id :: b.openTypes)
  obtain ⟨hg₁, hb₁, hgood, hnarrow⟩ :=
    Ensures.complexContent (hn.mono hb hg₀.toGrows) d.scope hsound t.body hb₀ x b₁ hx
  have hg := hg₀.trans hb hb₀ hg₁
  have hid₁ := hg.schema.has hid
  have hmem₁ := hg.not_mem hid hk hmem
  have hf₁ : ¬b₁.isFinished id := by
    rw [isFinished_iff, hg.origin id o ho]
    simp [hmem₁]
  have hbase : (b₁.schema.typeDef id).base = some up := hg.schema.base_eq_some hu
  have hcomplex := hg.asComplex?_eq hhas hfin
  have hup : ∀ up', (b₁.schema.typeDef id).base = some up' → b₁.isFinished up' := by
    intro up' hup'
    obtain rfl := Option.some.inj (hbase.symm.trans hup')
    exact hg.isFinished hb hhas hfin
  have ha : ∀ a ∈ x.attributes.getD [], b₁.DefaultFits 0 a ∧ b₁.Comes id a := by
    intro a ha
    rcases hgood.attributes a ha with ha | ha
    · obtain ⟨dup, hdup, hin⟩ := mem_extended ha
      exact ⟨(hfits a ha).mono hb hg.toGrows,
        Or.inl ⟨up, dup, hbase, hcomplex.trans hdup, hin⟩⟩
    · exact ⟨ha.fits, Or.inr ha⟩
  have hr : b₁.Clean → (b₁.schema.typeDef id).derivation = .restriction → ∀ up' dup,
      (b₁.schema.typeDef id).base = some up' → (b₁.schema.typeDef up').asComplex? = some dup →
      x.Narrows b₁.schema dup := by
    intro hc hr up' dup hup' hdup
    obtain rfl := Option.some.inj (hbase.symm.trans hup')
    rw [hcomplex] at hdup
    rw [← TypeDef.extended_of_complex hdup]
    apply hnarrow hc
    rw [hg.schema.derivation id hid] at hr
    rw [hr] at hh
    cases hbody : t.body with
    | restriction up facets attributes children => exact ⟨_, _, _, _, rfl⟩
    | list item => simp [TypeDecl.header, hbody] at hh
    | complex attributes children => simp [TypeDecl.header, hbody] at hh
    | extension up attributes children => simp [TypeDecl.header, hbody] at hh
  have hk₁ : (b₁.schema.typeDef id).kind.isSimple = false := by rw [hg.schema.kind id hid, hk]
  obtain ⟨hg', hb'⟩ := finish_complex hb₁ hid₁ hf₁ hk₁ hup hgood.sound ha hr
  exact ⟨hg.toGrows.trans hb hg', hb', isFinished_of_mem List.mem_cons_self⟩

end Builder

end Schemata
