import Schemata.Proofs.Sequences

/-!
# Simple types and attributes that are made step by step

What is done to a builder while a simple type gets its content, a default value is read, or a
global attribute gets its symbol. A simple type gets its content when its base has its own, and the
numbers in it are in their place.
-/

namespace Schemata

namespace Builder

variable {c : Catalog} {limits : Limits} {k : Extent} {b : Builder}

/-- The number of an item type, if there is one, is in its place. -/
def PlacesItem (b : Builder) (item : Option TypeId) : Prop :=
  b.Places (item.toList.map .type) item.toList

theorem placesItem_some {t : TypeId} (ht : b.schema.Has t)
    (hk : b.Clean → (b.schema.typeDef t).kind.isSimple) : b.PlacesItem (some t) :=
  ⟨by simpa [Schema.Issues] using ht, by simpa using hk⟩

theorem placesItem_simpleBase (hp : b.Placed) (id : TypeId) :
    b.PlacesItem (b.simpleBase id).item := by
  unfold simpleBase
  cases h : (b.schema.typeDef id).base.bind fun up => (b.schema.typeDef up).asSimple? with
  | none => exact .nil b
  | some x =>
    obtain ⟨up, -, hx⟩ := Option.bind_eq_some_iff.1 h
    have hplaces := hp.contents up
    unfold TypeDef.asSimple? at hx
    split at hx
    · rename_i y hy
      obtain rfl := Option.some.inj hx
      rwa [hy] at hplaces
    · cases hx

namespace Takes

/-! ## Content of simple types -/

theorem restrictItem (scope : Scope) {base : Option TypeId} (r : NameRef)
    (hbase : b.PlacesItem base) :
    b.Takes c limits k (restrictItem c limits scope base r) fun t b₁ => b₁.PlacesItem t := by
  unfold Schemata.restrictItem
  refine (simpleTypeOf scope r).bind fun item b₁ hl ⟨hnames, hk⟩ => .schema_bind ?_
  refine of_inv fun _ hp => ?_
  have hitem := placesItem_some (hnames.has hp) hk
  cases base with
  | none => exact .pure hitem
  | some u =>
    dsimp only
    split
    · exact .pure hitem
    · exact (note _).bind fun _ b₂ hl₂ _ => .pure (hbase.mono (hl.trans hl₂))

theorem restrictSimple (scope : Scope) (kind : Kind) {base : SimpleContent}
    (facets : Option FacetBlock) (attributes : Option AttributeBlock)
    (children : Option ChildrenDecl) (hbase : b.PlacesItem base.item) :
    b.Takes c limits k (restrictSimple c limits scope kind base facets attributes children)
      fun x b₁ => b₁.PlacesItem x.item := by
  unfold Schemata.restrictSimple
  extract_lets jp
  have hjp : ∀ u b₁, b.Lasts b₁ → b₁.Takes c limits k (jp u) fun x b₂ => b₂.PlacesItem x.item := by
    intro u b₁ hl
    simp -zeta only [jp]
    split
    · exact .pure (hbase.mono hl)
    · rename_i block
      refine .reading_bind fun narrowed _ => ?_
      extract_lets jp'
      have hjp' : ∀ f b₂, b.Lasts b₂ →
          b₂.Takes c limits k (jp' f) fun x b₃ => b₃.PlacesItem x.item := by
        intro f b₂ hl
        simp only [jp']
        split
        · split
          · exact (restrictItem scope _ (hbase.mono hl)).bind fun item b₃ _ hitem => .pure hitem
          · exact .pure (hbase.mono hl)
        · exact .pure (hbase.mono hl)
      cases narrowed with
      | ok f => exact hjp' _ b₁ hl
      | error ds => exact (noteAll ds).bind fun _ b₂ hl₂ _ => hjp' _ b₂ (hl.trans hl₂)
  split
  · exact (note _).bind fun u b₁ hl _ => hjp u b₁ hl
  · exact hjp () b (.refl b)

theorem simpleContent (scope : Scope) (kind : Kind) {base : SimpleContent} (body : TypeBody)
    (hbase : b.PlacesItem base.item) :
    b.Takes c limits k (simpleContent c limits scope kind base body) fun x b₁ =>
      b₁.PlacesItem x.item := by
  unfold Schemata.simpleContent
  cases body with
  | list item =>
    refine (simpleTypeOf scope item).bind fun t b₁ _ ⟨hnames, hk⟩ => of_inv fun _ hp => .pure ?_
    exact placesItem_some (hnames.has hp) hk
  | complex _ _ => exact .pure hbase
  | extension _ _ _ => exact .pure hbase
  | restriction _ facets attributes children =>
    exact restrictSimple scope kind facets attributes children hbase

/-! ## Simple types get their content -/

/-- A simple type whose base has its content gets its own. -/
theorem finishSimple {id : TypeId} (hid : b.schema.Has id) (hf : ¬b.isFinished id)
    (hk : (b.schema.typeDef id).kind.isSimple)
    (hup : ∀ up, (b.schema.typeDef id).base = some up → b.isFinished up) :
    b.Takes c limits k (finishSimple c limits id) fun _ b₁ =>
      b₁.finished = id :: b.finished := by
  intro hp
  have hensures : b.Ensures c (Schemata.finishSimple c limits id) _ :=
    Ensures.finishSimpleType hid hf hk hup
  refine (hensures.and fun hb _ b' hrun => ?_).mono fun _ _ _ _ h => ⟨h.2, h.1⟩
  have hfinished := (hensures hb _ b' hrun).2.2
  obtain ⟨o, ho⟩ : ∃ o, b.origin? id = some o := by
    rw [isFinished_iff, not_or] at hf
    exact Option.ne_none_iff_exists'.1 hf.1
  obtain ⟨d, t, up, hd, ht, -⟩ := hb.declared id o ho
  have hget := Catalog.getAs?_eq_some_iff.2 ⟨hd, ht⟩
  have hrun' : (Schemata.simpleContent c limits d.scope (b.schema.typeDef id).kind
      (b.simpleBase id) t.body >>= fun x => modify (·.finish id (.simple x))).run
        (b.openType id) = .ok ((), b') := by
    rw [← hrun, Schemata.finishSimple]
    simp [Build.schema, ho, hget, simpleBase]
  obtain ⟨⟨x, b₁⟩, hx, hlast⟩ := bind_eq_ok hrun'
  cases hlast
  have hb₀ : (b.openType id).Inv c := withOpen_inv hb b.openAttributes (id :: b.openTypes)
  have hopen : b.TypeStep c limits (b.openType id) := .openType id
  have hp₀ : (b.openType id).Placed := hopen.placed hp
  have hplaces : (b.openType id).PlacesItem (b.simpleBase id).item := placesItem_simpleBase hp₀ id
  obtain ⟨hs, -, -, hitem⟩ := (simpleContent (k := k) d.scope _ t.body hplaces).apply hp₀ hb₀ hx
  have hl := hs.lasts
  have hunfinished : id ∉ b₁.finished := by
    rw [(List.cons.inj hfinished).2]
    exact fun h => hf (isFinished_of_mem h)
  have hkind : (b₁.schema.typeDef id).kind.isSimple := by
    rw [hl.schema.kind id hid]
    exact hk
  refine (Relation.ReflTransGen.head (TypeStep.step (.openType id)) hs).tail ?_
  exact TypeStep.step (.finish (hl.origin id o ho) hget hunfinished hkind hb₀ hp₀ hup hx hitem hid)

theorem ensureSimple {id : TypeId} (hid : b.schema.Has id)
    (hk : (b.schema.typeDef id).kind.isSimple) :
    b.Takes c limits k (ensureSimple c limits id) fun _ b₁ => b₁.isFinished id := by
  intro hp
  refine (Ensures.ensureSimple_of (R := fun b b₁ => b.Placed → k.Steps c limits b b₁)
    (fun _ _ => .refl) (fun h h' hp => (h hp).trans (h' ((h hp).placed hp)))
    (fun hid hf hk hup => ?_) hid hk).mono fun _ _ _ _ h => ⟨h.1 hp, h.2⟩
  exact (Ensures.finishSimpleType hid hf hk hup).and fun hb _ _ hrun hp =>
    ((finishSimple hid hf hk hup).apply hp hb hrun).1

/-! ## Default values -/

theorem defaultValue {type : TypeId} (htype : b.schema.Has type) (literal : Option String)
    (span : Option Span) :
    b.Takes c limits k (defaultValue c limits type literal span) fun _ _ => True := by
  unfold Schemata.defaultValue
  cases literal with
  | none => exact .pure trivial
  | some literal =>
    refine .schema_bind ?_
    split
    · exact .pure trivial
    · rename_i hk
      simp only [Bool.not_eq_true', Bool.not_eq_false] at hk
      refine (ensureSimple htype hk).bind fun _ b₁ _ _ => .schema_bind ?_
      extract_lets name
      refine .reading_bind fun r _ => ?_
      split
      · exact (note _).bind fun _ _ _ _ => .pure trivial
      · split
        · exact .pure trivial
        · exact (note _).bind fun _ _ _ _ => .pure trivial

/-! ## Global attributes -/

theorem places_attribute {a : Attribute} (ht : b.schema.Has a.type)
    (hk : b.Clean → (b.schema.typeDef a.type).kind.isSimple)
    (hr : ∀ i, a.referenced = some i → i.index < b.schema.attributes.size) :
    b.Places a.ids [a.type] := by
  refine ⟨List.forall_mem_cons.2 ⟨ht, fun s hs => ?_⟩, by simpa using hk⟩
  obtain ⟨i, hi, rfl⟩ := List.mem_map.1 hs
  exact hr i (Option.mem_toList.1 hi)

theorem makeGlobalAttribute (d : Declaration) (a : GlobalAttributeDecl) :
    b.Takes c limits k (makeGlobalAttribute c limits d a) fun made b₁ =>
      b₁.Places made.ids [made.type] := by
  unfold Schemata.makeGlobalAttribute
  refine (simpleTypeOf d.scope a.type).bind fun t b₁ _ ⟨hnames, hk⟩ => of_inv fun _ hp => ?_
  have ht := hnames.has hp
  refine (defaultValue ht a.defaultValue _).bind fun v b₂ hl _ => .pure ?_
  exact places_attribute (hl.schema.has ht) (fun hc => hl.schema.isSimple (hk (hl.clean hc))) nofun

theorem resolveAttribute {o : DeclarationId} {d : Declaration} {a : GlobalAttributeDecl}
    (hget : c.getAs? (·.asAttribute?) o = some (d, a)) :
    b.Takes c limits .all (resolveAttribute c limits o d a) fun i b₁ =>
      b₁.symbol? o = some (.attr i) := by
  have hno := Catalog.not_declaresType_of_attribute hget
  unfold Schemata.resolveAttribute
  refine .get_bind (.orAbort_bind fun known hknown => ?_)
  cases known with
  | some i =>
    obtain ⟨s, hs, hi⟩ := Option.bind_eq_some_iff.1 (symbolAs_eq_some_iff.1 hknown)
    refine .pure ?_
    cases s <;> cases hi
    exact hs
  | none =>
    have hnew := symbol_eq_none_of_symbolAs hknown
    dsimp only
    split
    · exact abort
    · refine (openAttribute o).bind fun _ b₀ _ h₀ => ?_
      subst h₀
      refine of_inv fun hb₀ hp₀ => ?_
      intro _
      -- only types are made until the attribute is
      have htakes : (b.openAttribute o).Takes c limits .types
          (Schemata.makeGlobalAttribute c limits d a) _ := makeGlobalAttribute d a
      have hmake := (htakes hp₀).and
        (Q := fun made b₁ => (Schemata.makeGlobalAttribute c limits d a).run
          (b.openAttribute o) = .ok (made, b₁)) fun _ _ _ hrun => hrun
      refine (hmake.and fun hb _ _ hrun =>
        ((Ensures.makeGlobalAttribute d a) hb _ _ hrun).2.2).bind
          fun made b₁ _ _ ⟨⟨⟨hs, hplaces⟩, hrun⟩, hfits⟩ => ?_
      have hnew₁ : b₁.symbol? o = none := (symbol_eq_of_typeSteps hs hno).trans hnew
      refine (Ensures.addAttribute hno hfits).mono fun i b₂ _ _ ⟨hi, hb₂⟩ => ?_
      subst hi hb₂
      exact ⟨hs.of_any.tail (.addAttribute hget hnew₁ hb₀ hp₀ hrun hplaces),
        (symbol_cons rfl).trans (if_pos rfl)⟩

theorem attributeOf (scope : Scope) (r : NameRef) :
    b.Takes c limits .all (attributeOf c limits scope r) fun a b₁ =>
      b₁.NamesAttribute c scope r a.1 ∧ b₁.schema.attribute? a.1 = some a.2 := by
  unfold Schemata.attributeOf
  extract_lets fault
  refine .orAbort_bind fun referent h => ?_
  cases referent with
  | builtin k => exact abort
  | declared o =>
    dsimp only
    split
    · exact abort
    · rename_i d a hget
      refine (resolveAttribute hget).bind fun i b₁ _ hi => .schema_bind ?_
      split
      · rename_i a ha
        exact .pure ⟨⟨o, h, hi⟩, ha⟩
      · exact abort

end Takes

end Builder

end Schemata
