import Schemata.Proofs.Remakes

/-!
# Two compilations that agree

`Remake.Agrees` compares what a second compilation has made so far with what the first one made.
Types have the same headers, those that have their content have the same content, and global
attributes and elements are the same, all of it apart from the numbers. So the second schema answers
as the first one does: what derives from what, how many types are above a type, which value a literal
stands for. A type that has no content yet admits more values than later on.
-/

namespace Schemata

open Relation

namespace Schema

/-- The number of types above a type is one more than that above its base. -/
theorem depth_of_base {s : Schema} (ho : s.Ordered) {id up : TypeId}
    (h : (s.typeDef id).base = some up) : s.depth id = s.depth up + 1 := by
  have hhas : id.index < s.types.size := has_of_base h
  have hlt := ho.base id up h
  obtain ⟨n, hn⟩ : ∃ n, s.types.size = n + 1 := ⟨s.types.size - 1, by omega⟩
  have hchain : s.baseChain id = id :: s.baseChain up := by
    have hup : follow (fun t => (s.typeDef t).base) n up =
        follow (fun t => (s.typeDef t).base) s.types.size up :=
      follow_congr TypeId.index ho.base (by omega) (by omega) fun _ _ => rfl
    rw [baseChain, baseChain, ← hup, hn, follow, h, Option.elim_some]
  have hpos : 0 < (s.baseChain up).length := List.length_pos_of_mem (mem_follow_self _ _ up)
  rw [depth, depth, hchain, List.length_cons]
  omega

theorem depth_of_root {s : Schema} {id : TypeId} (h : (s.typeDef id).base = none) :
    s.depth id = 0 := by
  rw [depth, baseChain]
  cases s.types.size <;> simp [follow, h]

end Schema

namespace Remake

variable {limits : Limits} (R : Remake limits) {b' b₁' : Builder}

/-- A type of the second compilation is one of the first with other numbers. -/
structure AgreesOn (b' : Builder) (t t' : TypeId) : Prop where
  header : ∃ base x, R.Sends b' (R.made.schema.typeDef t).base base ∧
    b'.schema.typeDef t' = { R.made.schema.typeDef t with base, content := x }
  content : t' ∈ b'.finished →
    R.Sends b' (R.made.schema.typeDef t).content (b'.schema.typeDef t').content

/-- What the second compilation has made so far is what the first one made of the same
declarations. -/
structure Agrees (b' : Builder) : Prop where
  reached : Builder.Extent.all.Steps R.c' limits (Builder.start R.namespaces') b'
  inv : b'.Inv R.c'
  orderly : b'.Orderly R.c'
  clean : b'.Clean
  types : ∀ o t t', R.made.symbol? o = some (.type t) →
    b'.symbol? (R.place o) = some (.type t') → R.AgreesOn b' t t'
  attributes : ∀ o i i', R.made.symbol? o = some (.attr i) →
    b'.symbol? (R.place o) = some (.attr i') → ∃ a a', R.made.schema.attribute? i = some a ∧
      b'.schema.attribute? i' = some a' ∧ R.Sends b' a a'
  elements : ∀ o i i', R.made.symbol? o = some (.element i) →
    b'.symbol? (R.place o) = some (.element i') → ∃ e e', R.made.schema.element? i = some e ∧
      b'.schema.element? i' = some e' ∧ R.Sends b' e e'

variable {R}

namespace Agrees

theorem placed (h : R.Agrees b') : b'.Placed := h.reached.placed (Builder.start_placed _)

theorem numbered (h : R.Agrees b') : b'.Numbered R.c' :=
  h.reached.numbered (Builder.start_placed _) (Builder.start_numbered _ _)

theorem regular (h : R.Agrees b') : b'.Regular := h.reached.regular (Builder.start_regular _)

/-! ## Symbols -/

/-- Two symbols of one declaration are of one sort. -/
theorem symbol_eq (h : R.Agrees b') {o : DeclarationId} {s s' : SymbolId}
    (ho : R.made.symbol? o = some s) (ho' : b'.symbol? (R.place o) = some s') :
    s' = (R.numbering b').symbol s ∧ R.Knows b' s := by
  have himage : R.image b' s = some s' := (image_eq_of_symbol ho).trans ho'
  refine ⟨?_, R.placed.symbol ho, fun p hp => ?_⟩
  · obtain ⟨d, hd, hs⟩ := R.numbered.declares o s (Builder.mem_of_symbol? ho)
    obtain ⟨d', hd', hs'⟩ := h.numbered.declares _ s' (Builder.mem_of_symbol? ho')
    obtain rfl := Option.some.inj ((R.reorders.get?_place hd).symm.trans hd')
    unfold Schema.Declares at hs hs'
    cases hm : d.member <;> rw [hm] at hs hs' <;> cases s <;> cases s' <;>
      first | exact hs.elim | exact hs'.elim | simp [Renumbering.symbol, numbering, himage,
        SymbolId.asType?, SymbolId.asAttribute?, SymbolId.asElement?]
  · rw [R.numbered.inj hp ho, ho']
    rfl

theorem sends_type (h : R.Agrees b') {o : DeclarationId} {t t' : TypeId}
    (ho : R.made.symbol? o = some (.type t)) (ho' : b'.symbol? (R.place o) = some (.type t')) :
    R.Sends b' t t' := by
  obtain ⟨heq, hknows⟩ := h.symbol_eq ho ho'
  exact ⟨SymbolId.type.inj heq, List.forall_mem_singleton.2 hknows⟩

theorem sends_attr (h : R.Agrees b') {o : DeclarationId} {i i' : AttributeId}
    (ho : R.made.symbol? o = some (.attr i)) (ho' : b'.symbol? (R.place o) = some (.attr i')) :
    R.Sends b' i i' := by
  obtain ⟨heq, hknows⟩ := h.symbol_eq ho ho'
  exact ⟨SymbolId.attr.inj heq, List.forall_mem_singleton.2 hknows⟩

theorem sends_element (h : R.Agrees b') {o : DeclarationId} {i i' : ElementId}
    (ho : R.made.symbol? o = some (.element i))
    (ho' : b'.symbol? (R.place o) = some (.element i')) : R.Sends b' i i' := by
  obtain ⟨heq, hknows⟩ := h.symbol_eq ho ho'
  exact ⟨SymbolId.element.inj heq, List.forall_mem_singleton.2 hknows⟩

end Agrees

/-- A built-in type keeps its number. -/
theorem sends_builtin (k : Kind) : R.Sends b' k.typeId k.typeId := by
  have hnone : ∀ o, R.made.symbol? o ≠ some (.type k.typeId) := by
    intro o ho
    have hle := R.numbered.declared k.typeId
      (List.mem_map_of_mem (Builder.mem_of_symbol? ho))
    have hlt := k.rank_lt
    exact absurd hle (not_le.2 hlt)
  have hknows : R.Knows b' (.type k.typeId) :=
    ⟨R.placed.builtin k, fun o ho => absurd ho (hnone o)⟩
  refine ⟨?_, List.forall_mem_singleton.2 hknows⟩
  have howner : R.made.owner? (.type k.typeId) = none := by
    cases ho : R.made.owner? (.type k.typeId) with
    | none => rfl
    | some o => exact absurd (owner?_eq_some_iff.1 ho) (hnone o)
  simp [numbering, image, howner]

/-- What the second compilation has is the symbol of a declaration. -/
theorem Agrees.exists_declaration (h : R.Agrees b') {s : SymbolId} (hs : R.Knows b' s) :
    (∃ k : Kind, s = .type k.typeId) ∨ ∃ o, R.made.symbol? o = some s ∧
      b'.symbol? (R.place o) = some ((R.numbering b').symbol s) := by
  refine (R.numbered.issued _ hs.issued).imp_right fun hmem => ?_
  obtain ⟨p, hp, rfl⟩ := List.mem_map.1 hmem
  have ho := R.numbered.eq_of_symbol hp
  obtain ⟨s', hs'⟩ := Option.isSome_iff_exists.1 (hs.symbol p.1 ho)
  exact ⟨p.1, ho, by rw [hs', (h.symbol_eq ho hs').1]⟩

/-- A type that the second compilation has is built in, or it was declared. -/
theorem Agrees.type_cases (h : R.Agrees b') {t t' : TypeId} (hs : R.Sends b' t t') :
    (∃ k : Kind, t = k.typeId ∧ t' = k.typeId) ∨
      ∃ o, R.made.symbol? o = some (.type t) ∧ b'.symbol? (R.place o) = some (.type t') := by
  rcases h.exists_declaration (hs.knows _ List.mem_cons_self) with ⟨k, hk⟩ | ⟨o, ho, ho'⟩
  · obtain rfl := SymbolId.type.inj hk
    exact Or.inl ⟨k, rfl, hs.eq.trans (sends_builtin k).eq.symm⟩
  · exact Or.inr ⟨o, ho, by rw [ho', hs.eq]; rfl⟩

theorem Agrees.attribute (h : R.Agrees b') {i i' : AttributeId} (hs : R.Sends b' i i') :
    ∃ a a', R.made.schema.attribute? i = some a ∧ b'.schema.attribute? i' = some a' ∧
      R.Sends b' a a' := by
  rcases h.exists_declaration (hs.knows _ List.mem_cons_self) with ⟨k, hk⟩ | ⟨o, ho, ho'⟩
  · cases hk
  · exact h.attributes o i i' ho (by rw [ho', hs.eq]; rfl)

theorem Agrees.element (h : R.Agrees b') {i i' : ElementId} (hs : R.Sends b' i i') :
    ∃ e e', R.made.schema.element? i = some e ∧ b'.schema.element? i' = some e' ∧
      R.Sends b' e e' := by
  rcases h.exists_declaration (hs.knows _ List.mem_cons_self) with ⟨k, hk⟩ | ⟨o, ho, ho'⟩
  · cases hk
  · exact h.elements o i i' ho (by rw [ho', hs.eq]; rfl)

/-! ## Types -/

namespace Agrees

variable {t t' u u' : TypeId}

theorem header (h : R.Agrees b') (hs : R.Sends b' t t') :
    ∃ base x, R.Sends b' (R.made.schema.typeDef t).base base ∧
      b'.schema.typeDef t' = { R.made.schema.typeDef t with base, content := x } := by
  rcases h.type_cases hs with ⟨k, rfl, rfl⟩ | ⟨o, ho, ho'⟩
  · rw [R.inv.typeDef_builtin, h.inv.typeDef_builtin]
    refine ⟨k.builtin.base, k.builtin.content, ?_, rfl⟩
    cases hbase : k.base with
    | none => exact (show k.builtin.base = none by simp [Kind.builtin, hbase]) ▸ sends_none
    | some up =>
      exact (show k.builtin.base = some up.typeId by simp [Kind.builtin, hbase]) ▸
        sends_some (sends_builtin up)
  · exact (h.types o t t' ho ho').header

theorem kind_eq (h : R.Agrees b') (hs : R.Sends b' t t') :
    (b'.schema.typeDef t').kind = (R.made.schema.typeDef t).kind := by
  obtain ⟨base, x, -, hdef⟩ := h.header hs
  rw [hdef]

theorem baseFaults_eq (h : R.Agrees b') (hs : R.Sends b' t t') :
    baseFaults (b'.schema.typeDef t') = baseFaults (R.made.schema.typeDef t) := by
  obtain ⟨base, x, -, hdef⟩ := h.header hs
  rw [hdef]
  rfl

theorem base (h : R.Agrees b') (hs : R.Sends b' t t') :
    R.Sends b' (R.made.schema.typeDef t).base (b'.schema.typeDef t').base := by
  obtain ⟨base, x, hbase, hdef⟩ := h.header hs
  rw [hdef]
  exact hbase

/-- A type that has a base has one in the first compilation as well. -/
theorem exists_base (h : R.Agrees b') (hs : R.Sends b' t t')
    (hu : (b'.schema.typeDef t').base = some u') :
    ∃ u, (R.made.schema.typeDef t).base = some u ∧ R.Sends b' u u' := by
  have hbase := h.base hs
  rw [hu] at hbase
  cases hup : (R.made.schema.typeDef t).base with
  | none =>
    rw [hup] at hbase
    cases hbase.eq
  | some u =>
    rw [hup] at hbase
    obtain ⟨v, hv, hsends⟩ := exists_of_sends_some hbase
    cases hv
    exact ⟨u, rfl, hsends⟩

/-- A type that has its content in the second compilation has the same one as in the first. -/
theorem content (h : R.Agrees b') (hs : R.Sends b' t t') (hf : b'.isFinished t') :
    R.Sends b' (R.made.schema.typeDef t).content (b'.schema.typeDef t').content := by
  rcases h.type_cases hs with ⟨k, rfl, rfl⟩ | ⟨o, ho, ho'⟩
  · rw [R.inv.typeDef_builtin, h.inv.typeDef_builtin]
    change R.Sends b' k.emptyContent k.emptyContent
    unfold Kind.emptyContent
    cases k.isComplex
    · exact ⟨rfl, nofun⟩
    · exact ⟨rfl, nofun⟩
  · refine (h.types o t t' ho ho').content ((Builder.isFinished_iff.1 hf).resolve_left ?_)
    rw [(h.regular.origin _ _).1 ho']
    exact nofun

theorem derives (h : R.Agrees b') (hs : R.Sends b' t t') (hu : R.Sends b' u u')
    (hd : R.made.schema.derives t u) : b'.schema.derives t' u' := by
  rw [Schema.derives_iff R.inv.ordered] at hd
  rw [Schema.derives_iff h.inv.ordered]
  induction hd using ReflTransGen.head_induction_on generalizing t' with
  | refl => rw [hs.eq, hu.eq]
  | head hstep _ ih =>
    have hbase := h.base hs
    rw [hstep] at hbase
    obtain ⟨x', hx', hx⟩ := exists_of_sends_some hbase
    exact .head hx' (ih hx)

theorem depth_eq (h : R.Agrees b') (hs : R.Sends b' t t') :
    b'.schema.depth t' = R.made.schema.depth t := by
  induction hn : t.index using Nat.strongRecOn generalizing t t' with
  | ind n ih =>
    have hbase := h.base hs
    cases hup : (R.made.schema.typeDef t).base with
    | none =>
      rw [hup] at hbase
      rw [Schema.depth_of_root hup, Schema.depth_of_root hbase.eq]
    | some up =>
      rw [hup] at hbase
      obtain ⟨up', hup', hs'⟩ := exists_of_sends_some hbase
      have hlt := R.inv.ordered.base t up hup
      rw [Schema.depth_of_base R.inv.ordered hup, Schema.depth_of_base h.inv.ordered hup',
        ih up.index (hn ▸ hlt) hs' rfl]

/-! ## Elements -/

theorem substitutes (h : R.Agrees b') {i i' j j' : ElementId} (hi : R.Sends b' i i')
    (hj : R.Sends b' j j') (hsub : R.made.schema.substitutes i j) :
    b'.schema.substitutes i' j' := by
  rw [Schema.substitutes_iff R.inv.ordered] at hsub
  rw [Schema.substitutes_iff h.inv.ordered]
  induction hsub using ReflTransGen.head_induction_on generalizing i' with
  | refl => rw [hi.eq, hj.eq]
  | head hstep _ ih =>
    obtain ⟨e, e', he, he', hsends⟩ := h.element hi
    obtain ⟨e₁, he₁, hup⟩ := Schema.mem_element_of_substituted hstep
    obtain rfl := Option.some.inj (he.symm.trans he₁)
    have hsubstituted := hsends.of_element.2.1
    rw [hup] at hsubstituted
    obtain ⟨x', hx', hx⟩ := exists_of_sends_some hsubstituted
    exact .head (Option.bind_eq_some_iff.2 ⟨e', he', hx'⟩) (ih hx)

/-! ## Values -/

theorem asSimple? (h : R.Agrees b') (hs : R.Sends b' t t') (hf : b'.isFinished t') :
    (b'.schema.typeDef t').facets? = (R.made.schema.typeDef t).facets? ∧
      R.Sends b' (R.made.schema.typeDef t).item? (b'.schema.typeDef t').item? := by
  have hcontent := h.content hs hf
  unfold TypeDef.facets? TypeDef.item? TypeDef.asSimple?
  cases hx : (R.made.schema.typeDef t).content with
  | simple x =>
    rw [hx] at hcontent
    obtain ⟨x', hx', hsends⟩ := hcontent.of_simple
    rw [hx']
    exact hsends.of_simpleContent
  | complex x =>
    rw [hx] at hcontent
    obtain ⟨x', hx', -⟩ := hcontent.of_complex
    rw [hx']
    exact ⟨rfl, sends_none⟩

/-- A literal stands for the same value. -/
theorem readValue_eq (h : R.Agrees b') (hs : R.Sends b' t t') (hf : b'.isFinished t')
    (literal : String) :
    b'.schema.readValue t' literal = R.made.schema.readValue t literal := by
  have hkind : b'.schema.itemKind? (b'.schema.typeDef t') =
      R.made.schema.itemKind? (R.made.schema.typeDef t) := by
    have hitem := (h.asSimple? hs hf).2
    unfold Schema.itemKind?
    cases hi : (R.made.schema.typeDef t).item? with
    | none =>
      rw [hi] at hitem
      rw [hitem.eq]
      rfl
    | some item =>
      rw [hi] at hitem
      obtain ⟨item', hi', hsends⟩ := exists_of_sends_some hitem
      simp [hi', h.kind_eq hsends]
  unfold Schema.readValue
  simp only [h.kind_eq hs, hkind]

/-- A type without content has neither facets nor a type of items. -/
theorem facets?_of_pending {b : Builder} (h : b.Regular) {t : TypeId} (ht : t ∉ b.finished) :
    (b.schema.typeDef t).facets? = none ∧ (b.schema.typeDef t).item? = none := by
  unfold TypeDef.facets? TypeDef.item? TypeDef.asSimple?
  rw [h.pending t ht, Kind.emptyContent]
  cases (b.schema.typeDef t).kind.isComplex <;> exact ⟨rfl, rfl⟩

end Agrees

mutual

/-- What the first schema admits is admitted by the second one. -/
theorem Agrees.failures_eq_nil (h : R.Agrees b') {t t' : TypeId} (hs : R.Sends b' t t')
    {v : SimpleValue} (hv : R.made.schema.failures t v = []) : b'.schema.failures t' v = [] := by
  by_cases hf : b'.isFinished t'
  · obtain ⟨hfacets, hitem⟩ := h.asSimple? hs hf
    cases v with
    | atomic x =>
      rw [Schema.failures] at hv ⊢
      rw [hfacets, hv]
    | list items =>
      rw [Schema.failures, List.append_eq_nil_iff] at hv ⊢
      refine ⟨by rw [hfacets, hv.1], ?_⟩
      cases hi : (R.made.schema.typeDef t).item? with
      | none =>
        rw [hi] at hitem
        rw [hitem.eq]
        rfl
      | some item =>
        rw [hi] at hitem hv
        obtain ⟨item', hi', hsends⟩ := exists_of_sends_some hitem
        rw [hi']
        exact Agrees.itemFailures_eq_nil h hsends hv.2
  · obtain ⟨hfacets, hitem⟩ := Agrees.facets?_of_pending h.regular
      fun hmem => hf (Builder.isFinished_of_mem hmem)
    cases v with
    | atomic x => rw [Schema.failures, hfacets]; rfl
    | list items => rw [Schema.failures, hfacets, hitem]; rfl

theorem Agrees.itemFailures_eq_nil (h : R.Agrees b') {t t' : TypeId} (hs : R.Sends b' t t')
    {vs : List SimpleValue} (hv : R.made.schema.itemFailures t vs = []) :
    b'.schema.itemFailures t' vs = [] := by
  cases vs with
  | nil => rfl
  | cons v vs =>
    rw [Schema.itemFailures, List.append_eq_nil_iff] at hv ⊢
    exact ⟨Agrees.failures_eq_nil h hs hv.1, Agrees.itemFailures_eq_nil h hs hv.2⟩

end

/-! ## Steps of the second compilation -/

theorem place_inj {o p : DeclarationId} {s t : SymbolId} (hp : R.made.symbol? p = some s)
    (ho : R.made.symbol? o = some t) (h : R.place p = R.place o) : p = o := by
  obtain ⟨d, hd, -⟩ := R.numbered.declares p s (Builder.mem_of_symbol? hp)
  obtain ⟨e, he, -⟩ := R.numbered.declares o t (Builder.mem_of_symbol? ho)
  exact R.reorders.place_inj (by rw [hd]; rfl) (by rw [he]; rfl) h

/-- Where one declaration has got its symbol, no other symbol is new. -/
theorem eq_of_new_symbol {o p : DeclarationId} {s s' x x' : SymbolId}
    (ho : R.made.symbol? o = some s)
    (hsymbol : ∀ q, b₁'.symbol? q = if q = R.place o then some s' else b'.symbol? q)
    (hp : R.made.symbol? p = some x) (hnone : b'.symbol? (R.place p) = none)
    (hp' : b₁'.symbol? (R.place p) = some x') : x = s ∧ x' = s' := by
  rw [hsymbol] at hp'
  split at hp'
  · rename_i heq
    obtain rfl := place_inj hp ho heq
    exact ⟨Option.some.inj (hp.symm.trans ho), (Option.some.inj hp').symm⟩
  · cases hnone.symm.trans hp'

theorem Agrees.has (h : R.Agrees b') {t t' : TypeId} (ht : R.Sends b' t t') :
    b'.schema.Has t' := by
  rcases h.type_cases ht with ⟨k, rfl, rfl⟩ | ⟨o, ho, ho'⟩
  · exact h.placed.builtin k
  · exact h.placed.symbol ho'

/-- The agreement lasts if it holds of what steps add. -/
theorem Agrees.next (h : R.Agrees b') (hl : b'.Lasts b₁')
    (reached : Builder.Extent.all.Steps R.c' limits (Builder.start R.namespaces') b₁')
    (inv : b₁'.Inv R.c') (orderly : b₁'.Orderly R.c') (clean : b₁'.Clean)
    (types : ∀ o t t', R.made.symbol? o = some (.type t) → b'.symbol? (R.place o) = none →
      b₁'.symbol? (R.place o) = some (.type t') → R.AgreesOn b₁' t t')
    (attributes : ∀ o i i', R.made.symbol? o = some (.attr i) → b'.symbol? (R.place o) = none →
      b₁'.symbol? (R.place o) = some (.attr i') → ∃ a a', R.made.schema.attribute? i = some a ∧
        b₁'.schema.attribute? i' = some a' ∧ R.Sends b₁' a a')
    (elements : ∀ o i i', R.made.symbol? o = some (.element i) → b'.symbol? (R.place o) = none →
      b₁'.symbol? (R.place o) = some (.element i') → ∃ e e', R.made.schema.element? i = some e ∧
        b₁'.schema.element? i' = some e' ∧ R.Sends b₁' e e')
    (contents : ∀ t t', R.Sends b' t t' → t' ∈ b₁'.finished → t' ∉ b'.finished →
      R.Sends b₁' (R.made.schema.typeDef t).content (b₁'.schema.typeDef t').content) :
    R.Agrees b₁' := by
  refine ⟨reached, inv, orderly, clean, fun o t t' ho ho' => ?_,
    fun o i i' ho ho' => ?_, fun o i i' ho ho' => ?_⟩
  · cases hold : b'.symbol? (R.place o) with
    | none => exact types o t t' ho hold ho'
    | some s =>
      obtain rfl := Option.some.inj ((hl.symbol _ s hold).symm.trans ho')
      have hagrees := h.types o t t' ho hold
      have hhas : b'.schema.Has t' := h.placed.symbol hold
      refine ⟨?_, fun hf => ?_⟩
      · obtain ⟨base, x, hbase, hdef⟩ := hagrees.header
        obtain ⟨y, hy⟩ := hl.header t' hhas
        exact ⟨base, y, hbase.mono hl, by rw [hy, hdef]⟩
      · by_cases hfb : t' ∈ b'.finished
        · rw [(hl.finished t' hfb).2 hhas]
          exact (hagrees.content hfb).mono hl
        · exact contents t t' (h.sends_type ho hold) hf hfb
  · cases hold : b'.symbol? (R.place o) with
    | none => exact attributes o i i' ho hold ho'
    | some s =>
      obtain rfl := Option.some.inj ((hl.symbol _ s hold).symm.trans ho')
      obtain ⟨a, a', ha, ha', hsends⟩ := h.attributes o i i' ho hold
      exact ⟨a, a', ha, hl.schema.attr _ _ ha', hsends.mono hl⟩
  · cases hold : b'.symbol? (R.place o) with
    | none => exact elements o i i' ho hold ho'
    | some s =>
      obtain rfl := Option.some.inj ((hl.symbol _ s hold).symm.trans ho')
      obtain ⟨e, e', he, he', hsends⟩ := h.elements o i i' ho hold
      exact ⟨e, e', he, hl.schema.element _ _ he', hsends.mono hl⟩

/-- Steps that neither make a symbol nor give a type its content. -/
theorem Agrees.of_eq (h : R.Agrees b') (hl : b'.Lasts b₁')
    (reached : Builder.Extent.all.Steps R.c' limits (Builder.start R.namespaces') b₁')
    (inv : b₁'.Inv R.c') (orderly : b₁'.Orderly R.c') (clean : b₁'.Clean)
    (hsymbols : b₁'.symbols = b'.symbols) (hfinished : b₁'.finished = b'.finished) :
    R.Agrees b₁' := by
  have hsymbol : ∀ o, b₁'.symbol? o = b'.symbol? o := fun o => by
    rw [Builder.symbol?, Builder.symbol?, hsymbols]
  refine h.next hl reached inv orderly clean (fun o t t' _ hnone ho' => ?_)
    (fun o i i' _ hnone ho' => ?_) (fun o i i' _ hnone ho' => ?_) fun t t' _ hf hnot => ?_
  · cases hnone.symm.trans ((hsymbol _).symm.trans ho')
  · cases hnone.symm.trans ((hsymbol _).symm.trans ho')
  · cases hnone.symm.trans ((hsymbol _).symm.trans ho')
  · exact absurd (hfinished ▸ hf) hnot

/-- The content of a type is made while the type is in the making. -/
theorem Agrees.openType (h : R.Agrees b') (t' : TypeId) : R.Agrees (b'.openType t') := by
  have hopen : b'.TypeStep R.c' limits (b'.openType t') := .openType t'
  exact h.of_eq hopen.lasts (h.reached.tail (Builder.TypeStep.step hopen))
    (Builder.withOpen_inv h.inv b'.openAttributes (t' :: b'.openTypes))
    (h.orderly.withOpen b'.openAttributes (t' :: b'.openTypes)) h.clean rfl rfl

/-- A number of the second compilation stands for one of the first. -/
theorem Agrees.eq_of_sends (h : R.Agrees b') {t u t' : TypeId} (ht : R.Sends b' t t')
    (hu : R.Sends b' u t') : t = u := by
  rcases h.type_cases ht with ⟨k, rfl, rfl⟩ | ⟨o, ho, ho'⟩
  · rcases h.type_cases hu with ⟨l, rfl, hl⟩ | ⟨p, -, hp'⟩
    · exact hl
    · exact absurd (h.numbered.declared _ (List.mem_map_of_mem (Builder.mem_of_symbol? hp')))
        (not_le.2 k.rank_lt)
  · rcases h.type_cases hu with ⟨l, rfl, rfl⟩ | ⟨p, hp, hp'⟩
    · exact absurd (h.numbered.declared _ (List.mem_map_of_mem (Builder.mem_of_symbol? ho')))
        (not_le.2 l.rank_lt)
    · obtain rfl := place_inj ho hp (h.numbered.inj ho' hp')
      exact SymbolId.type.inj (Option.some.inj (ho.symm.trans hp))

/-- A type gets its content, which is the one that it has in the first compilation. -/
theorem Agrees.finish (h : R.Agrees b') {t t' : TypeId} {x : Content}
    (reached : Builder.Extent.all.Steps R.c' limits (Builder.start R.namespaces') (b'.finish t' x))
    (inv : (b'.finish t' x).Inv R.c') (orderly : (b'.finish t' x).Orderly R.c')
    (hnot : t' ∉ b'.finished) (ht : R.Sends b' t t')
    (hx : R.Sends b' (R.made.schema.typeDef t).content x) : R.Agrees (b'.finish t' x) := by
  have hl := Builder.lasts_finish hnot x
  refine h.next hl reached inv orderly h.clean (fun o t t' _ hnone ho' => ?_)
    (fun o i i' _ hnone ho' => ?_) (fun o i i' _ hnone ho' => ?_) fun u u' hu hf hnotf => ?_
  · cases hnone.symm.trans ho'
  · cases hnone.symm.trans ho'
  · cases hnone.symm.trans ho'
  · obtain rfl := (List.mem_cons.1 hf).resolve_right hnotf
    obtain rfl := h.eq_of_sends hu ht
    rw [Builder.typeDef_finish_self (h.has hu)]
    exact hx.mono hl

end Remake

end Schemata
