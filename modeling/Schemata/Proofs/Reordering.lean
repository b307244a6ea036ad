import Schemata.Proofs.ContentRepeats
import Schemata.Proofs.Substitution

/-!
# Compilations in another order

If namespaces are accepted and the schema admits its default values, the namespaces are accepted in
every other order, with the same schema apart from the numbers.
-/

namespace Schemata

namespace Remake

variable {limits : Limits} {R : Remake limits} {b' b₁' : Builder} {o' : DeclarationId}

/-! ## The second compilation comes to its end -/

/-- A type that the second compilation has stands for one of the first. -/
theorem Agrees.exists_sends (h : R.Agrees b') {t' : TypeId} (ht : b'.schema.Has t') :
    ∃ t, R.Sends b' t t' := by
  by_cases hid : t'.index < Kind.all.length
  · obtain ⟨k, rfl, -⟩ := h.inv.exists_kind hid
    exact ⟨k.typeId, sends_builtin k⟩
  · obtain ⟨o', ho'⟩ := h.inv.origin_of_has ht hid
    have hs := (h.regular.origin o' t').2 ho'
    obtain ⟨o, t, rfl, ho⟩ :=
      exists_place_of_type (h.orderly.types _ _ (Builder.mem_of_symbol? hs)).1
    exact ⟨t, h.sends_type ho hs⟩

namespace Succeeds

theorem resolveDeclaration (hidle : b'.Idle) (o' : DeclarationId) :
    R.Succeeds b' (resolveDeclaration R.c' limits o') fun _ _ => True := by
  unfold Schemata.resolveDeclaration
  split
  · exact .pure trivial
  · rename_i d hd
    split
    · rename_i t ht
      have hdeclares : R.c'.DeclaresType o' := by
        simp [Catalog.DeclaresType, hd, Declaration.asType?, ht]
      obtain ⟨o, t, rfl, ho⟩ := exists_place_of_type hdeclares
      exact (resolveType ho).bind fun _ _ _ _ _ => .pure trivial
    · rename_i a ha
      obtain ⟨o, ho, rfl⟩ := R.reorders.exists_place hd
      have hget : R.c.getAs? (·.asAttribute?) o = some (d, a) :=
        Catalog.getAs?_eq_some_iff.2 ⟨ho, by rw [Declaration.asAttribute?, ha]⟩
      have hdeclares : R.c.DeclaresAttribute o := by
        simp [Catalog.DeclaresAttribute, ho, Declaration.asAttribute?, ha]
      obtain ⟨s, hs⟩ := R.completes.exists_symbol (o := o) (by rw [ho]; rfl)
      obtain ⟨i, rfl⟩ := R.orderly.exists_attribute hdeclares (Builder.mem_of_symbol? hs)
      exact (resolveAttribute hs hget hidle.atRest).bind fun _ _ _ _ _ => .pure trivial
    · rename_i e he
      have hdeclares : R.c'.DeclaresElement o' := by
        simp [Catalog.DeclaresElement, hd, Declaration.asElement?, he]
      obtain ⟨o, e, rfl, ho⟩ := exists_place_of_element hdeclares
      exact (resolveElement ho).bind fun _ _ _ _ _ => .pure trivial

theorem resolveAll (hidle : b'.Idle) (ids : List DeclarationId) :
    R.Succeeds b' (ids.forM (Schemata.resolveDeclaration R.c' limits)) fun _ _ => True := by
  induction ids generalizing b' with
  | nil => exact .pure trivial
  | cons o' ids ih =>
    change R.Succeeds b' (Schemata.resolveDeclaration R.c' limits o' >>= fun _ =>
      ids.forM (Schemata.resolveDeclaration R.c' limits)) _
    exact (resolveDeclaration hidle o').bind fun _ b₁' _ hk _ => ih (hidle.mono hk)

/-- The turn of a type. -/
theorem finishType (hidle : b'.Idle) {n : Nat} (hbelow : b'.FinishedBelow n)
    (hhas : b'.schema.Has ⟨n⟩) :
    R.Succeeds b' (finishType R.c' limits ⟨n⟩) fun _ b₁' => b₁'.FinishedBelow (n + 1) := by
  have hfinish : R.Succeeds b' (Schemata.finishType R.c' limits ⟨n⟩) fun _ _ => True := by
    refine .of_agrees fun hb => ?_
    obtain ⟨t, ht⟩ := hb.exists_sends hhas
    have hkind := hb.kind_eq ht
    unfold Schemata.finishType
    refine .get_bind ?_
    split
    · exact .pure trivial
    · rename_i hf
      rw [if_neg (by simp [hidle.types])]
      split
      · rename_i hk
        exact (finishSimple ht hf (hkind ▸ hk) fun up hup =>
          (hbelow up (hb.inv.ordered.base _ up hup)).2).mono fun _ _ _ _ => trivial
      · rename_i hk
        exact finishComplex ht hf (by simpa [← hkind] using hk) hidle.atRest hbelow
  intro hb
  obtain ⟨_, b₁', hrun, hl, hk, hb₁, -⟩ := hfinish hb
  exact ⟨(), b₁', hrun, hl, hk, hb₁, (Builder.finishType_ok hb.inv hbelow hhas hrun).2.2⟩

theorem finishTypes (hidle : b'.Idle) {n count : Nat} (hbelow : b'.FinishedBelow n)
    (hsize : n + count ≤ b'.schema.types.size) :
    R.Succeeds b' (((List.range' n count).map TypeId.mk).forM (Schemata.finishType R.c' limits))
      fun _ _ => True := by
  induction count generalizing n b' with
  | zero => exact .pure trivial
  | succ count ih =>
    refine (finishType hidle hbelow (show n < _ by omega)).bind fun _ b₁' hl hk hbelow₁ => ?_
    have hsize₁ := hl.schema.types_size
    exact ih (hidle.mono hk) hbelow₁ (by omega)

theorem buildAll (hidle : b'.Idle) :
    R.Succeeds b' (buildAll R.c' limits) fun _ _ => True := by
  unfold Schemata.buildAll
  refine (resolveAll hidle R.c'.ids).bind fun _ b₁' _ hk _ => .of_agrees fun hb₁ => .get_bind ?_
  rw [Builder.declaredTypes_eq]
  refine finishTypes (hidle.mono hk) (fun t ht => ?_) hb₁.inv.size.ge
  exact ⟨hb₁.inv.has_of_builtin ht,
    Builder.isFinished_iff.2 (Or.inl (Builder.origin_of_builtin ht))⟩

end Succeeds

/-- The builder that the second compilation starts with has no symbol yet. -/
theorem agrees_start (R : Remake limits) : R.Agrees (Builder.start R.namespaces') where
  reached := .refl
  inv := Builder.start_inv _ _
  orderly := .start _ _
  clean := by
    rw [Builder.Clean, Ledger.hasErrors_eq, Builder.toList_start,
      (R.rearranges.registrable R.registrable).ofNamespaces.1]
    rfl
  types := nofun
  attributes := nofun
  elements := nofun

/-- The namespaces are accepted in their second order. -/
theorem exists_completes (R : Remake limits) :
    ∃ b', b'.Completes R.namespaces' limits ∧ R.Agrees b' := by
  obtain ⟨_, b', hrun, -, -, hb, -⟩ :=
    Succeeds.buildAll (R := R) ⟨rfl, rfl⟩ (agrees_start R)
  exact ⟨b', ⟨hrun, hb.clean⟩, hb⟩

/-! ## Nothing but the numbers is different -/

/-- A built-in type keeps its number. -/
theorem symbol_builtin (k : Kind) :
    (R.numbering b').symbol (.type k.typeId) = .type k.typeId := by
  have hsends : R.Sends b' k.typeId k.typeId := sends_builtin k
  exact congrArg SymbolId.type hsends.eq.symm

section Completed

variable (h : R.Agrees b') (hc : b'.Completes R.namespaces' limits)

include hc

/-- At its end, the second compilation has all that the first one made. -/
theorem knows_of_issues {i : SymbolId} (hi : R.made.schema.Issues i) : R.Knows b' i := by
  refine ⟨hi, fun o ho => ?_⟩
  obtain ⟨d, hd, -⟩ := R.numbered.declares o i (Builder.mem_of_symbol? ho)
  have hd' : R.c'.get? (R.place o) = some d := R.reorders.get?_place hd
  obtain ⟨s, hs⟩ := hc.exists_symbol (o := R.place o) (by rw [hd']; rfl)
  rw [hs]
  rfl

theorem sends_type_of_has {t : TypeId} (ht : R.made.schema.Has t) :
    R.Sends b' t ((R.numbering b').type t) :=
  ⟨rfl, List.forall_mem_singleton.2 (knows_of_issues hc ht)⟩

include h

/-- Each symbol of the second compilation stands for one of the first. -/
theorem Agrees.bijOn : Set.BijOn (R.numbering b').symbol {i | R.made.schema.Issues i}
    {i | b'.schema.Issues i} := by
  have hbuiltin : ∀ k : Kind, (R.numbering b').symbol (.type k.typeId) = .type k.typeId :=
    symbol_builtin
  refine ⟨fun i hi => ?_, fun i hi j hj hij => ?_, fun j hj => ?_⟩
  · rcases h.exists_declaration (knows_of_issues hc hi) with ⟨k, rfl⟩ | ⟨o, -, ho'⟩
    · rw [hbuiltin]
      exact h.placed.builtin k
    · exact h.placed.symbol ho'
  · rcases h.exists_declaration (knows_of_issues hc hi) with ⟨k, rfl⟩ | ⟨o, ho, ho'⟩ <;>
      rcases h.exists_declaration (knows_of_issues hc hj) with ⟨l, rfl⟩ | ⟨p, hp, hp'⟩
    · rwa [hbuiltin, hbuiltin] at hij
    · rw [← hij, hbuiltin] at hp'
      exact absurd rfl (hc.ne_typeId hp' k)
    · rw [hij, hbuiltin] at ho'
      exact absurd rfl (hc.ne_typeId ho' l)
    · rw [hij] at ho'
      obtain rfl := place_inj ho hp (h.numbered.inj ho' hp')
      exact Option.some.inj (ho.symm.trans hp)
  · rcases h.numbered.issued j hj with ⟨k, rfl⟩ | hmem
    · exact ⟨.type k.typeId, R.placed.builtin k, hbuiltin k⟩
    · obtain ⟨⟨o', s⟩, hp, rfl⟩ := List.mem_map.1 hmem
      obtain ⟨d, hd, -⟩ := h.numbered.declares o' s hp
      obtain ⟨o, ho, rfl⟩ := R.reorders.exists_place hd
      obtain ⟨i, hi⟩ := R.completes.exists_symbol (o := o) (by rw [ho]; rfl)
      exact ⟨i, R.placed.symbol hi, (h.symbol_eq hi (h.numbered.eq_of_symbol hp)).1.symm⟩

theorem Agrees.exists_issued {j : SymbolId} (hj : b'.schema.Issues j) :
    ∃ i, R.made.schema.Issues i ∧ (R.numbering b').symbol i = j :=
  (h.bijOn hc).surjOn hj

theorem Agrees.typeDef_eq {t : TypeId} (ht : R.made.schema.Has t) :
    b'.schema.typeDef ((R.numbering b').type t) =
      (R.numbering b').on (R.made.schema.typeDef t) := by
  have hs := sends_type_of_has hc ht
  obtain ⟨base, x, hbase, hdef⟩ := h.header hs
  have hcontent := (h.content hs (hc.isFinished (h.has hs))).eq
  rw [hdef, hbase.eq] at hcontent ⊢
  obtain rfl : x = _ := hcontent
  rfl

theorem Agrees.attribute?_eq {i : AttributeId} {a : Attribute}
    (ha : R.made.schema.attribute? i = some a) :
    b'.schema.attribute? ((R.numbering b').attr i) = some ((R.numbering b').on a) := by
  have hissued : R.made.schema.Issues (.attr i) := (Array.getElem?_eq_some_iff.1 ha).1
  obtain ⟨x, a', hx, ha', hsends⟩ :=
    h.attribute ⟨rfl, List.forall_mem_singleton.2 (knows_of_issues hc hissued)⟩
  obtain rfl := Option.some.inj (ha.symm.trans hx)
  rw [← hsends.eq]
  exact ha'

theorem Agrees.element?_eq {i : ElementId} {e : Element}
    (he : R.made.schema.element? i = some e) :
    b'.schema.element? ((R.numbering b').element i) = some ((R.numbering b').on e) := by
  have hissued : R.made.schema.Issues (.element i) := Schema.index_lt_of_element he
  obtain ⟨x, e', hx, he', hsends⟩ :=
    h.element ⟨rfl, List.forall_mem_singleton.2 (knows_of_issues hc hissued)⟩
  obtain rfl := Option.some.inj (he.symm.trans hx)
  rw [← hsends.eq]
  exact he'

/-- A name finds the same symbol. -/
theorem Agrees.lookup_eq (n : FullName) : (b'.published R.c').lookup n =
    ((R.made.published R.c).lookup n).map (R.numbering b').symbol := by
  cases hs : (R.made.published R.c).lookup n with
  | some i =>
    rw [Option.map_some, hc.lookup_eq_some_iff]
    refine (R.completes.lookup_eq_some_iff.1 hs).imp (fun ⟨k, hn, hi⟩ => ⟨k, hn, ?_⟩)
      fun ⟨o, d, hd, ho, hn⟩ => ?_
    · rw [hi]
      exact symbol_builtin k
    · have hd' : R.c'.get? (R.place o) = some d := R.reorders.get?_place hd
      obtain ⟨s', ho'⟩ := hc.exists_symbol (o := R.place o) (by rw [hd']; rfl)
      exact ⟨R.place o, d, hd', by rw [ho', (h.symbol_eq ho ho').1], hn⟩
  | none =>
    rw [Option.map_none, Option.eq_none_iff_forall_ne_some]
    intro i' hs'
    refine absurd hs (Option.ne_none_iff_exists'.2 ?_)
    rcases hc.lookup_eq_some_iff.1 hs' with ⟨k, hn, -⟩ | ⟨o', d, hd, -, hn⟩
    · exact ⟨_, R.completes.lookup_eq_some_iff.2 (Or.inl ⟨k, hn, rfl⟩)⟩
    · obtain ⟨o, ho, -⟩ := R.reorders.exists_place hd
      obtain ⟨i, hi⟩ := R.completes.exists_symbol (o := o) (by rw [ho]; rfl)
      exact ⟨i, R.completes.lookup_eq_some_iff.2 (Or.inr ⟨o, d, ho, hi, hn⟩)⟩

/-- Elements substitute the same elements. -/
theorem Agrees.substituted?_eq {i : ElementId} (hi : R.made.schema.Issues (.element i)) :
    b'.schema.substituted? ((R.numbering b').element i) =
      (R.made.schema.substituted? i).map (R.numbering b').element := by
  have he : R.made.schema.element? i = some R.made.schema.elements[i.index] :=
    Array.getElem?_eq_getElem hi
  rw [Schema.substituted?, Schema.substituted?, h.element?_eq hc he, he]
  rfl

/-- The table of substitutions has the same pairs. -/
theorem Agrees.substitutions_perm :
    ((R.numbering b').on R.made.schema.substitutions).Perm b'.schema.substitutions := by
  have hlinked := R.completes.linkedElements.linked
  have hlinked' := hc.linkedElements.linked
  have hbij := h.bijOn hc
  have hissued : ∀ {up i : ElementId}, R.made.schema.substituted? i = some up →
      R.made.schema.Issues (.element i) := fun hup =>
    have ⟨_, he, _⟩ := Schema.mem_element_of_substituted hup
    Schema.index_lt_of_element he
  refine (List.perm_ext_iff_of_nodup ?_ hlinked'.nodup).2 fun p' => ?_
  · refine hlinked.nodup.map_on fun p hp q hq hpq => ?_
    have hup := (hlinked.table p.1 p.2).1 hp
    have huq := (hlinked.table q.1 q.2).1 hq
    have hsnd : p.2 = q.2 := SymbolId.element.inj
      (hbij.injOn (hissued hup) (hissued huq) (congrArg SymbolId.element (Prod.mk.inj hpq).2))
    rw [hsnd, huq] at hup
    exact Prod.ext (Option.some.inj hup).symm hsnd
  · obtain ⟨head', i'⟩ := p'
    constructor
    · intro hp'
      obtain ⟨⟨head, i⟩, hp, heq⟩ := List.mem_map.1 hp'
      obtain ⟨rfl, rfl⟩ := Prod.mk.inj heq
      have hup := (hlinked.table head i).1 hp
      refine (hlinked'.table _ _).2 ?_
      exact (h.substituted?_eq hc (hissued hup)).trans (by rw [hup]; rfl)
    · intro hp'
      have hup' := (hlinked'.table head' i').1 hp'
      obtain ⟨e', he', -⟩ := Schema.mem_element_of_substituted hup'
      have hissued' : b'.schema.Issues (.element i') := Schema.index_lt_of_element he'
      obtain ⟨s, hs, hsymbol⟩ := h.exists_issued hc hissued'
      cases s with
      | type t => cases hsymbol
      | attr a => cases hsymbol
      | element i =>
        obtain rfl := SymbolId.element.inj hsymbol
        rw [h.substituted?_eq hc hs] at hup'
        obtain ⟨head, hup, rfl⟩ := Option.map_eq_some_iff.1 hup'
        exact List.mem_map_of_mem (f := (R.numbering b').on) ((hlinked.table head i).2 hup)

/-- The schema admits its default values in the second order as well. -/
theorem Agrees.admitsDefaults : b'.schema.AdmitsDefaults := by
  -- an attribute of the second compilation stands for one of the first
  suffices hsends : ∀ a', b'.schema.HasAttribute a' →
      ∃ a, R.made.schema.HasAttribute a ∧ R.Sends b' a a' by
    intro a' ha' v hv
    obtain ⟨a, ha, hs⟩ := hsends a' ha'
    have hdefault : a'.defaultValue = a.defaultValue := by rw [hs.eq]; rfl
    exact h.failures_eq_nil hs.of_attribute.1 (R.admits a ha v (hdefault ▸ hv))
  rintro a' (⟨i', hi'⟩ | ⟨t', x', hx', ha'⟩)
  · have hissued : b'.schema.Issues (.attr i') := (Array.getElem?_eq_some_iff.1 hi').1
    obtain ⟨s, hs, hsymbol⟩ := h.exists_issued hc hissued
    cases s with
    | type t => cases hsymbol
    | element e => cases hsymbol
    | attr i =>
      obtain rfl := SymbolId.attr.inj hsymbol
      obtain ⟨a, y, ha, hy, hsends⟩ :=
        h.attribute ⟨rfl, List.forall_mem_singleton.2 (knows_of_issues hc hs)⟩
      obtain rfl := Option.some.inj (hi'.symm.trans hy)
      exact ⟨a, Or.inl ⟨i, ha⟩, hsends⟩
  · have ht' : b'.schema.Has t' := by
      by_contra hnot
      rw [Schema.typeDef_of_not_has hnot] at hx'
      cases hx'
      cases ha'
    obtain ⟨t, ht⟩ := h.exists_sends ht'
    have hcontent := h.content ht (hc.isFinished ht')
    unfold TypeDef.asComplex? at hx'
    cases hx : (R.made.schema.typeDef t).content with
    | simple x =>
      rw [hx] at hcontent
      obtain ⟨y, hy, -⟩ := hcontent.of_simple
      rw [hy] at hx'
      cases hx'
    | complex x =>
      rw [hx] at hcontent
      obtain ⟨y, hy, hs⟩ := hcontent.of_complex
      rw [hy] at hx'
      obtain rfl := Option.some.inj hx'
      have hset := hs.of_complexContent.1.getD_nil
      rw [hset.eq] at ha'
      obtain ⟨a, ha, rfl⟩ := List.mem_map.1 ha'
      exact ⟨a, Or.inr ⟨t, x, by rw [TypeDef.asComplex?, hx], ha⟩, hset.of_mem ha⟩

/-- Both compilations make the same schema apart from the numbers. -/
theorem Agrees.renumbers :
    Schema.Renumbers (R.numbering b') (R.made.published R.c) (b'.published R.c') := by
  obtain ⟨names, hnames⟩ := R.made.published_eq R.c
  obtain ⟨names', hnames'⟩ := b'.published_eq R.c'
  have hlookup := h.lookup_eq hc
  rw [hnames, hnames'] at hlookup ⊢
  exact ⟨h.bijOn hc, fun t ht => h.typeDef_eq hc ht, fun i a ha => h.attribute?_eq hc ha,
    fun i e he => h.element?_eq hc he, hlookup, h.substitutions_perm hc⟩

end Completed

end Remake

/-! ## The order of declarations -/

section Accepts

variable {namespaces namespaces' : List NamespaceDecl} {limits : Limits} {s s' : Schema}

/-- Namespaces whose schema admits its default values are accepted in another order. -/
theorem Rearranges.exists_accepts (h : Rearranges namespaces namespaces')
    (hs : Accepts namespaces limits s) (hd : s.AdmitsDefaults) :
    ∃ s' ρ, Accepts namespaces' limits s' ∧ s'.AdmitsDefaults ∧ Schema.Renumbers ρ s s' := by
  obtain ⟨b, hb, rfl⟩ := hs.exists_builder
  have hadmits : b.schema.AdmitsDefaults := by
    obtain ⟨names, hnames⟩ := b.published_eq (Catalog.ofNamespaces namespaces).1
    rw [hnames] at hd
    exact Schema.admitsDefaults_withNames.1 hd
  let R : Remake limits := ⟨namespaces, namespaces', b, hb, h, hadmits⟩
  obtain ⟨b', hb', hagrees⟩ := R.exists_completes
  refine ⟨b'.published R.c', R.numbering b', hb'.accepts, ?_, hagrees.renumbers hb'⟩
  obtain ⟨names, hnames⟩ := b'.published_eq R.c'
  rw [hnames]
  exact Schema.admitsDefaults_withNames.2 (hagrees.admitsDefaults hb')

/-- As long as default values are admitted, the order of declarations decides neither whether
namespaces are accepted nor what becomes of them: both schemas have the same types, attributes,
elements, names and substitutions, apart from the numbers. -/
theorem acceptance_of_rearranges (h : Rearranges namespaces namespaces') (limits : Limits) :
    ((∃ s, Accepts namespaces limits s ∧ s.AdmitsDefaults) ↔
      ∃ s', Accepts namespaces' limits s' ∧ s'.AdmitsDefaults) ∧
    ∀ s s', Accepts namespaces limits s → s.AdmitsDefaults → Accepts namespaces' limits s' →
      s'.AdmitsDefaults ∧ ∃ ρ, Schema.Renumbers ρ s s' := by
  have hiff : ∀ {ns ns' : List NamespaceDecl}, Rearranges ns ns' →
      (∃ s, Accepts ns limits s ∧ s.AdmitsDefaults) →
        ∃ s', Accepts ns' limits s' ∧ s'.AdmitsDefaults := by
    rintro ns ns' h ⟨s, hs, hd⟩
    obtain ⟨s', -, hs', hd', -⟩ := h.exists_accepts hs hd
    exact ⟨s', hs', hd'⟩
  refine ⟨⟨hiff h, hiff h.symm⟩, fun s s' hs hd hs' => ?_⟩
  obtain ⟨t, ρ, ht, hdt, hρ⟩ := h.exists_accepts hs hd
  obtain rfl := hs'.unique ht
  exact ⟨hdt, ρ, hρ⟩

end Accepts

/-- Post whose codes have at most two letters, with default values that have that as well; the
members come in a given order. -/
def post (order : List MemberDecl → List MemberDecl) : List NamespaceDecl :=
  let text (name : String) : Ident := ⟨name, none⟩
  let code : TypeBody :=
    .restriction (.ofText "String") (some { lengthRange := some { greatest := some 2 } }) none none
  let parcel : TypeBody := .extension (.ofText "Box")
    (some { items := [
      .declared { name := text "zone", type := .ofText "Codes", defaultValue := some "ab c" },
      .reference { reference := .ofText "mark" }] }) none
  [{ uri := "urn:post"
     members := order [
      .element { name := text "parcel", type := .ofText "Parcel", substitutes := some (.ofText "box") },
      .type { name := text "Parcel", body := parcel },
      .attr { name := text "mark", type := .ofText "Codes", defaultValue := some "ab" },
      .type { name := text "Codes", body := .list (.ofText "Code") },
      .type { name := text "Code", body := code },
      .element { name := text "box", type := .ofText "Box" },
      .type { name := text "Box", body := .complex none none }] }]

/-- When the members are reversed, the default values are still admitted, and the type of codes has
another number. -/
theorem post_reversed : Rearranges (post id) (post List.reverse) ∧
    (schemaOf (post id) {}).AdmitsDefaults ∧
    (∃ ρ, Schema.Renumbers ρ (schemaOf (post id) {}) (schemaOf (post List.reverse) {})) ∧
    (schemaOf (post id) {}).lookupType ⟨"urn:post", "Code"⟩ = some ⟨25⟩ ∧
    (schemaOf (post List.reverse) {}).lookupType ⟨"urn:post", "Code"⟩ = some ⟨23⟩ := by
  have h : Rearranges (post id) (post List.reverse) :=
    ⟨_, .refl _, .cons ⟨(List.reverse_perm _).symm, rfl⟩ .nil⟩
  have hs : Accepts (post id) {} (schemaOf (post id) {}) := accepts_schemaOf (by decide +kernel)
  have hs' : Accepts (post List.reverse) {} (schemaOf (post List.reverse) {}) :=
    accepts_schemaOf (by decide +kernel)
  have hd : (schemaOf (post id) {}).AdmitsDefaults := by decide +kernel
  exact ⟨h, hd, ((acceptance_of_rearranges h {}).2 _ _ hs hd hs').2, by decide +kernel,
    by decide +kernel⟩

end Schemata
