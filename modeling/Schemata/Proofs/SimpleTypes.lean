import Schemata.Proofs.Symbols

/-!
# Content of simple types, and default values

The content that a simple type gets narrows that of its base, in every case: where the declared
facets or the declared item type are at fault, those of the base stay. A default value is read after
the type and all types above it have their content, so it fits the type. The type of the items of a
list need not have its content by then.
-/

namespace Schemata

/-! ## Reading values -/

theorem Atomic.kind_readInteger {k : IntegerKind} {cs : List Char} {v : Atomic}
    (h : readInteger k cs = some v) : v.kind = .integer k := by
  have key : ∀ {n : Int} {v : Atomic}, ofInt? k n = some v → v.kind = .integer k := by
    intro n v h
    unfold ofInt? at h
    split at h <;> cases h
    rfl
  unfold readInteger at h
  split at h
  · obtain ⟨n, -, h⟩ := Option.bind_eq_some_iff.1 h
    exact key h
  · split at h
    · obtain ⟨n, -, h⟩ := Option.bind_eq_some_iff.1 h
      exact key h
    · cases h
  · obtain ⟨n, -, h⟩ := Option.bind_eq_some_iff.1 h
    exact key h

/-- A literal that is read as a value of a kind has that kind. -/
theorem Atomic.kind_read {k : Kind} {literal : String} {v : Atomic}
    (h : Atomic.read k literal = .ok (some v)) : v.kind = k := by
  unfold Atomic.read at h
  dsimp only at h
  cases k with
  | complexType | simpleType | atomicType | listType => cases h
  | string | ignoreCaseString =>
    cases h
    rfl
  | integer i => exact kind_readInteger (Except.ok.inj h)
  | boolean =>
    have h := Except.ok.inj h
    unfold readBoolean at h
    split at h <;> cases h <;> rfl
  | duration =>
    cases hd : Duration.read (Text.trim literal.toList) with
    | error e => simp [hd, Except.map] at h
    | ok o =>
      rw [hd] at h
      obtain ⟨x, -, rfl⟩ := Option.map_eq_some_iff.1 (Except.ok.inj h)
      rfl
  | decimal | double | single | binary | guid | dateTime =>
    obtain ⟨x, -, rfl⟩ := Option.map_eq_some_iff.1 (Except.ok.inj h)
    rfl

theorem Schema.readAll_kind {k : Kind} {literals : List String} {vs : List SimpleValue}
    (h : readAll k literals = .ok (some vs)) : ∀ v ∈ vs, ∃ a, v = .atomic a ∧ a.kind = k := by
  induction literals generalizing vs with
  | nil =>
    cases h
    simp
  | cons literal rest ih =>
    obtain ⟨o, ho, h⟩ := bind_eq_ok h
    cases o with
    | none => cases h
    | some a =>
      obtain ⟨o, hrest, h⟩ := bind_eq_ok h
      obtain ⟨vs', rfl, rfl⟩ := Option.map_eq_some_iff.1 (Except.ok.inj h)
      exact List.forall_mem_cons.2 ⟨⟨a, rfl, Atomic.kind_read ho⟩, ih hrest⟩

theorem Schema.fitsKind_of_readValue {s : Schema} {id : TypeId} {literal : String} {v : SimpleValue}
    (h : s.readValue id literal = .ok (some v)) : s.fitsKind (s.typeDef id) v := by
  unfold readValue at h
  dsimp only at h
  split at h
  · rename_i hk
    obtain ⟨o, ho, h⟩ := bind_eq_ok h
    obtain ⟨a, rfl, rfl⟩ := Option.map_eq_some_iff.1 (Except.ok.inj h)
    simp [fitsKind, hk, Atomic.kind_read ho]
  · split at h
    · rename_i hl
      split at h
      · cases h
      · rename_i k hk
        obtain ⟨o, ho, h⟩ := bind_eq_ok h
        obtain ⟨vs, rfl, rfl⟩ := Option.map_eq_some_iff.1 (Except.ok.inj h)
        obtain ⟨item, hi, hk⟩ := Option.bind_eq_some_iff.1 hk
        have hkind : (s.typeDef item).kind = k := by
          dsimp only at hk
          split at hk
          · exact Option.some.inj hk
          · cases hk
        simp only [fitsKind, hl, hi, Bool.true_and, Option.any_some, List.all_eq_true]
        intro v hv
        obtain ⟨a, rfl, ha⟩ := readAll_kind ho v hv
        simp [SimpleValue.asAtomic?, ha, hkind]
    · cases h

theorem Schema.isRead_of_readValue {s : Schema} {id : TypeId} {literal : String} {v : SimpleValue}
    (h : s.readValue id literal = .ok (some v)) : v.IsRead := by
  unfold readValue at h
  dsimp only at h
  split at h
  · obtain ⟨o, ho, h⟩ := bind_eq_ok h
    obtain ⟨a, rfl, rfl⟩ := Option.map_eq_some_iff.1 (Except.ok.inj h)
    exact ⟨literal, (Atomic.kind_read ho).symm ▸ ho⟩
  · split at h
    · split at h
      · cases h
      · rename_i k _
        obtain ⟨o, ho, h⟩ := bind_eq_ok h
        obtain ⟨vs, rfl, rfl⟩ := Option.map_eq_some_iff.1 (Except.ok.inj h)
        exact ⟨k, literal.toList, ho⟩
    · cases h

namespace Builder

variable {c : Catalog} {b : Builder} {limits : Limits}

/-! ## Bases of simple types -/

/-- The base of a simple type is simple, and that of a list type has no content to speak of. -/
theorem Inv.simple_base (hb : b.Inv c) {id up : TypeId} {o : DeclarationId} {d : Declaration}
    {t : TypeDecl} (ho : b.origin? id = some o) (hd : c.get? o = some d)
    (ht : d.asType? = some t) (hk : (b.schema.typeDef id).kind.isSimple)
    (hup : (b.schema.typeDef id).base = some up) :
    (b.schema.typeDef up).kind.isSimple ∧
      ∀ item, t.body = .list item → (b.schema.typeDef up).asSimple? = some {} := by
  obtain ⟨d', t', up', hd', ht', hup', -, hh, hroot⟩ := hb.declared id o ho
  obtain rfl := Option.some.inj (hd.symm.trans hd')
  obtain rfl := Option.some.inj (ht.symm.trans ht')
  obtain rfl := Option.some.inj (hup.symm.trans hup')
  have hkind : (t.header (b.schema.typeDef up)).1 = (b.schema.typeDef id).kind := by rw [hh]
  cases hbody : t.body with
  | list item =>
    have hlink : typeLink c o = .ok (.root Kind.listType.typeId) := by
      simp [typeLink, Catalog.getAs?_eq_some_iff.2 ⟨hd, ht⟩, TypeDecl.base?,
        TypeDecl.implicitBase, hbody]
    obtain rfl := hroot _ hlink
    rw [hb.typeDef_builtin]
    exact ⟨rfl, fun _ _ => rfl⟩
  | complex _ _ =>
    rw [TypeDecl.header, hbody] at hkind
    rw [← hkind] at hk
    cases hk
  | extension _ _ _ =>
    rw [TypeDecl.header, hbody] at hkind
    rw [← hkind] at hk
    cases hk
  | restriction _ _ _ _ =>
    simp only [TypeDecl.header, hbody] at hkind
    exact ⟨hkind ▸ hk, fun _ h => by cases h⟩

theorem Inv.exists_asSimple (hb : b.Inv c) {id : TypeId}
    (hk : (b.schema.typeDef id).kind.isSimple) :
    ∃ x, (b.schema.typeDef id).asSimple? = some x :=
  Option.isSome_iff_exists.1 ((hb.contents id).symm.trans hk)

/-- Content of a simple type that narrows other content, and whose items are simple unless an error
is recorded. -/
structure GoodSimple (b : Builder) (base x : SimpleContent) : Prop where
  narrows : x.Narrows b.schema base
  item : b.Clean → ∀ item, x.item = some item → (b.schema.typeDef item).kind.isSimple

namespace Ensures

/-! ## Content -/

theorem restrictItem (scope : Scope) {base : Option TypeId} (r : NameRef)
    (hbase : b.Clean → ∀ u, base = some u → (b.schema.typeDef u).kind.isSimple) :
    b.Ensures c (restrictItem c limits scope base r) fun t b₁ => b₁.finished = b.finished ∧
      (∀ u, base = some u → ∃ item, t = some item ∧ b₁.schema.derives item u) ∧
      (b₁.Clean → ∀ item, t = some item → (b₁.schema.typeDef item).kind.isSimple) := by
  unfold Schemata.restrictItem
  refine (simpleTypeOf scope r).bind fun item b₁ hg _ ⟨_, hfin, hk⟩ => .schema_bind ?_
  have hitem : b₁.Clean → ∀ t, some item = some t → (b₁.schema.typeDef t).kind.isSimple := by
    rintro hc _ ⟨⟩
    exact hk hc
  cases base with
  | none => exact .pure ⟨hfin, nofun, hitem⟩
  | some u =>
    dsimp only
    split
    · rename_i hd
      refine .pure ⟨hfin, ?_, hitem⟩
      rintro _ ⟨⟩
      exact ⟨item, rfl, hd⟩
    · refine (note _).bind fun _ b₂ hg₂ _ h => ?_
      obtain ⟨⟨l, rfl⟩, -⟩ := h
      refine .pure ⟨hfin, ?_, ?_⟩
      · rintro _ ⟨⟩
        exact ⟨u, rfl, Schema.derives_refl _ u⟩
      · rintro hc _ ⟨⟩
        exact hg.schema.isSimple (hbase (hg.clean (hg₂.clean hc)) u rfl)

theorem restrictSimple (scope : Scope) (kind : Kind) {base : SimpleContent}
    (facets : Option FacetBlock) (attributes : Option AttributeBlock)
    (children : Option ChildrenDecl)
    (hbase : b.Clean → ∀ u, base.item = some u → (b.schema.typeDef u).kind.isSimple) :
    b.Ensures c (restrictSimple c limits scope kind base facets attributes children) fun x b₁ =>
      b₁.finished = b.finished ∧ b₁.GoodSimple base x := by
  unfold Schemata.restrictSimple
  extract_lets jp
  have hjp : ∀ l u, (Builder.Clean { b with ledger := l } → b.Clean) →
      Builder.Ensures { b with ledger := l } c (jp u) fun x b₁ =>
        b₁.finished = b.finished ∧ b₁.GoodSimple base x := by
    intro l u hl
    have hbase₁ := fun hc => hbase (hl hc)
    simp -zeta only [jp]
    split
    · exact .pure ⟨rfl, .refl _ _, hbase₁⟩
    · rename_i block
      refine .reading_bind fun narrowed hn => ?_
      extract_lets jp'
      have hjp' : ∀ l' (f : Option FacetSet), (Builder.Clean { b with ledger := l' } → b.Clean) →
          (f.getD {}).Narrows (base.facets.getD {}) →
          Builder.Ensures { b with ledger := l' } c (jp' f) fun x b₁ =>
            b₁.finished = b.finished ∧ b₁.GoodSimple base x := by
        intro l' f hl' hf
        have hbase₂ := fun hc => hbase (hl' hc)
        have hkeep : ∀ u, base.item = some u → ∃ t, base.item = some t ∧ b.schema.derives t u :=
          fun u hu => ⟨u, hu, Schema.derives_refl _ u⟩
        simp only [jp']
        split
        · split
          · exact (restrictItem scope _ hbase₂).bind fun item b₁ _ _ ⟨hfin, hitem, hk⟩ =>
              .pure ⟨hfin, ⟨hf, hitem⟩, hk⟩
          · exact .pure ⟨rfl, ⟨hf, hkeep⟩, hbase₂⟩
        · exact .pure ⟨rfl, ⟨hf, hkeep⟩, hbase₂⟩
      cases narrowed with
      | ok f => exact hjp' l _ hl (narrows_of_narrow hn)
      | error ds =>
        refine (noteAll ds).bind fun _ b₁ hg₁ _ h => ?_
        obtain ⟨l', rfl⟩ := h
        exact hjp' l' _ (fun hc => hl (hg₁.clean hc)) (.refl _)
  split
  · refine (note _).bind fun u b₁ hg _ h => ?_
    obtain ⟨⟨l, rfl⟩, -⟩ := h
    exact hjp l u hg.clean
  · exact hjp b.ledger () id

theorem simpleContent (scope : Scope) (kind : Kind) {base : SimpleContent} (body : TypeBody)
    (hlist : ∀ item, body = .list item → base = {})
    (hbase : b.Clean → ∀ u, base.item = some u → (b.schema.typeDef u).kind.isSimple) :
    b.Ensures c (simpleContent c limits scope kind base body) fun x b₁ =>
      b₁.finished = b.finished ∧ b₁.GoodSimple base x := by
  unfold Schemata.simpleContent
  cases body with
  | list item =>
    obtain rfl := hlist item rfl
    refine (simpleTypeOf scope item).bind fun t b₁ _ _ ⟨_, hfin, hk⟩ =>
      .pure ⟨hfin, SimpleContent.narrows_empty _ _, ?_⟩
    rintro hc _ ⟨⟩
    exact hk hc
  | complex _ _ => exact .pure ⟨rfl, .refl _ _, hbase⟩
  | extension _ _ _ => exact .pure ⟨rfl, .refl _ _, hbase⟩
  | restriction _ facets attributes children =>
    exact restrictSimple scope kind facets attributes children hbase

/-- A simple type whose base has its content gets its own. -/
theorem finishSimpleType {id : TypeId} (hid : b.schema.Has id) (hf : ¬b.isFinished id)
    (hk : (b.schema.typeDef id).kind.isSimple)
    (hup : ∀ up, (b.schema.typeDef id).base = some up → b.isFinished up) :
    b.Ensures c (Schemata.finishSimple c limits id) fun _ b₁ =>
      b₁.finished = id :: b.finished := by
  refine .of_inv fun hb => ?_
  obtain ⟨o, ho⟩ : ∃ o, b.origin? id = some o := by
    rw [isFinished_iff, not_or] at hf
    exact Option.ne_none_iff_exists'.1 hf.1
  obtain ⟨d, t, up, hd, ht, hu, -⟩ := hb.declared id o ho
  obtain ⟨hku, hlist⟩ := hb.simple_base ho hd ht hk hu
  obtain ⟨x, hx⟩ := hb.exists_asSimple hku
  unfold Schemata.finishSimple
  refine .get_bind ?_
  simp only [ho, Option.bind_some, Catalog.getAs?_eq_some_iff.2 ⟨hd, ht⟩]
  refine .schema_bind ?_
  simp only [hu, Option.bind_some, hx, Option.getD_some]
  refine (openType id).bind fun _ b₀ hg₀ hb₀ h => ?_
  obtain rfl := h
  have hitem : b.Clean → ∀ u, x.item = some u → (b.schema.typeDef u).kind.isSimple := by
    intro hc u hu'
    rcases isFinished_iff.1 (hup up hu) with hbuiltin | hmem
    · obtain ⟨k, -, hk⟩ := hb.exists_kind (hb.builtin_of_origin (hb.has_base hu) hbuiltin)
      rw [hk] at hx
      rw [Kind.eq_of_asSimple?_builtin hx] at hu'
      cases hu'
    · exact ((hb.strict hc).types up hmem).item u (by rw [TypeDef.item?, hx, Option.bind_some, hu'])
  refine (simpleContent (b := b.openType id) d.scope _ t.body (fun item h => ?_) hitem).bind
    fun y b₁ hg₁ hb₁ h => ?_
  · exact Option.some.inj (hx.symm.trans (hlist item h))
  · obtain ⟨hfin, hy⟩ := h
    have hg := hg₀.trans hb hb₀ hg₁
    change b₁.finished = b.finished at hfin
    have hf₁ : ¬b₁.isFinished id := by
      rw [isFinished_iff, hfin, hg.origin id o ho]
      rw [isFinished_iff, ho] at hf
      exact hf
    refine (Ensures.finishSimple (hg.schema.has hid) hf₁ ?_ (fun v hv => ?_)
      (fun v z hv hz => ?_) hy.item).mono fun _ b₂ _ _ h => h.trans (by rw [hfin])
    · rw [hg.schema.kind id hid, hk]
    · rw [hg.schema.base id hid] at hv
      exact hg.isFinished hb (hb.has_base hv) (hup v hv)
    · rw [hg.schema.base id hid, hu] at hv
      cases hv
      rw [hg.asSimple?_eq (hb.has_base hu) (hup up hu), hx] at hz
      cases hz
      exact hy.narrows

section Above

variable {R : Builder → Builder → Prop} (hrefl : ∀ b, R b b)
  (htrans : ∀ {b b₁ b₂}, R b b₁ → R b₁ b₂ → R b b₂)
  (hfinish : ∀ {b : Builder} {id : TypeId}, b.schema.Has id → ¬b.isFinished id →
    (b.schema.typeDef id).kind.isSimple →
    (∀ up, (b.schema.typeDef id).base = some up → b.isFinished up) →
    b.Ensures c (Schemata.finishSimple c limits id) fun _ b₁ =>
      b₁.finished = id :: b.finished ∧ R b b₁)
include hrefl htrans hfinish

/-- The unfinished types on the way up from a simple type get their content from the top down, and
what finishing one of them comes to adds up. The induction is on the number of a type, which is
greater than that of its base. -/
theorem finishAbove {n : Nat} {id : TypeId} (hn : id.index ≤ n) (hid : b.schema.Has id)
    (hk : (b.schema.typeDef id).kind.isSimple) :
    b.Ensures c (((follow (fun t => (b.schema.typeDef t).base) n id).takeWhile
        (!b.isFinished ·)).reverse.forM (Schemata.finishSimple c limits)) fun _ b₁ =>
      R b b₁ ∧ b₁.isFinished id ∧ ∀ x ∈ b₁.finished, x ∈ b.finished ∨ x.index ≤ id.index := by
  refine .of_inv fun hb => ?_
  by_cases hf : b.isFinished id
  · have hnil : (follow (fun t => (b.schema.typeDef t).base) n id).takeWhile
        (!b.isFinished ·) = [] := by
      cases n <;> simp [follow, hf]
    rw [hnil]
    exact .pure ⟨hrefl b, hf, fun x hx => Or.inl hx⟩
  · obtain ⟨o, ho⟩ : ∃ o, b.origin? id = some o := by
      rw [isFinished_iff, not_or] at hf
      exact Option.ne_none_iff_exists'.1 hf.1
    obtain ⟨d, t, up, hd, ht, hu, hlt, -⟩ := hb.declared id o ho
    obtain ⟨m, rfl⟩ : ∃ m, n = m + 1 := ⟨n - 1, by omega⟩
    have hchain : (follow (fun t => (b.schema.typeDef t).base) (m + 1) id).takeWhile
        (!b.isFinished ·) =
          id :: (follow (fun t => (b.schema.typeDef t).base) m up).takeWhile
            (!b.isFinished ·) := by
      simp [follow, hf, hu]
    have hku := (hb.simple_base ho hd ht hk hu).1
    rw [hchain, List.reverse_cons, List.forM_eq_forM, List.forM_append, List.forM_cons]
    refine (finishAbove (n := m) (by omega) (hb.has_base hu) hku).bind fun _ b₁ hg₁ hb₁ h => ?_
    obtain ⟨hR, hfu, hnew⟩ := h
    have hf₁ : ¬b₁.isFinished id := by
      rw [isFinished_iff, hg₁.origin id o ho, not_or]
      refine ⟨by simp, fun h => ?_⟩
      rcases hnew id h with h | h
      · exact hf (isFinished_of_mem h)
      · omega
    refine (hfinish (hg₁.schema.has hid) hf₁ ?_ fun v hv => ?_).bind fun _ b₂ _ _ h₂ => ?_
    · rw [hg₁.schema.kind id hid, hk]
    · rw [hg₁.schema.base id hid, hu] at hv
      cases hv
      exact hfu
    · obtain ⟨hfin, hR₂⟩ := h₂
      refine .pure ⟨htrans hR hR₂, isFinished_of_mem (hfin ▸ List.mem_cons_self), fun x hx => ?_⟩
      rw [hfin] at hx
      rcases List.mem_cons.1 hx with rfl | hx
      · exact Or.inr le_rfl
      · exact (hnew x hx).imp_right fun h => by omega
termination_by n

theorem ensureSimple_of {id : TypeId} (hid : b.schema.Has id)
    (hk : (b.schema.typeDef id).kind.isSimple) :
    b.Ensures c (Schemata.ensureSimple c limits id) fun _ b₁ => R b b₁ ∧ b₁.isFinished id := by
  unfold Schemata.ensureSimple
  refine .get_bind ?_
  extract_lets unfinished
  split
  · exact internal
  · exact (finishAbove hrefl htrans hfinish (Nat.le_of_lt hid) hid hk).mono
      fun _ _ _ _ h => ⟨h.1, h.2.1⟩

end Above

theorem ensureSimple {id : TypeId} (hid : b.schema.Has id)
    (hk : (b.schema.typeDef id).kind.isSimple) :
    b.Ensures c (Schemata.ensureSimple c limits id) fun _ b₁ => b₁.isFinished id :=
  (ensureSimple_of (R := fun _ _ => True) (fun _ => trivial) (fun _ _ => trivial)
    (fun hid hf hk hup => (finishSimpleType hid hf hk hup).mono fun _ _ _ _ h => ⟨h, trivial⟩)
    hid hk).mono fun _ _ _ _ h => h.2

/-! ## Default values -/

/-- A default value fits the type, and so do its items if the type of the items had its content
before. -/
theorem defaultValue {n : Nat} (hn : b.FinishedBelow n) {type : TypeId}
    (htype : b.schema.Has type) (literal : Option String) (span : Option Span) :
    b.Ensures c (defaultValue c limits type literal span) fun r b₁ =>
      ∀ v, r = some v → b₁.ValueFits n type v := by
  refine .of_inv fun hb => ?_
  unfold Schemata.defaultValue
  cases literal with
  | none => exact .pure fun _ h => by cases h
  | some literal =>
    refine .schema_bind ?_
    split
    · exact .pure fun _ h => by cases h
    · rename_i hk
      simp only [Bool.not_eq_true', Bool.not_eq_false] at hk
      refine (ensureSimple htype hk).bind fun _ b₁ hg hb₁ hf => .schema_bind ?_
      extract_lets name
      refine .reading_bind fun r hr => ?_
      split
      · exact (note _).bind fun _ _ _ _ _ => .pure fun _ h => by cases h
      · rename_i v
        split
        · rename_i hv
          refine .pure ?_
          rintro _ ⟨⟩
          have hkind := Schema.fitsKind_of_readValue hr
          refine ⟨hg.schema.has htype, hf, Schema.isRead_of_readValue hr, hkind, ?_,
            fun item _ hlt => ?_⟩
          · cases v with
            | atomic a => simpa only [Schema.failures] using hv
            | list vs =>
              simp only [Schema.failures, List.append_eq_nil_iff] at hv
              exact hv.1
          · obtain ⟨hhas, hfin⟩ := hn item hlt
            exact ⟨hg.schema.has hhas, hg.isFinished hb hhas hfin, hv⟩
        · exact (note _).bind fun _ _ _ _ _ => .pure fun _ h => by cases h

end Ensures

end Builder

end Schemata
