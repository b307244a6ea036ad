import Schemata.Proofs.AttributeRepeats
import Schemata.Proofs.MemberRepeats

/-!
# Content that is made again

What the second compilation does to give a complex type its content: the same as the first one did.
The content is made of what its declaration names and of the content of its base, and its attributes
have default values that the schema admits.
-/

namespace Schemata

open Relation

section Blocks

variable {c : Catalog} {limits : Limits} {scope : Scope} {base : ComplexContent}
  {attributes : Option AttributeBlock} {children : Option ChildrenDecl}

/-- An extension has attributes and children, one after the other. -/
theorem extensionContent_eq : extensionContent c limits scope base attributes children = (do
    let set ← attributes.elim (pure base.attributes) fun block =>
      some <$> addAttributes c limits scope block.items (base.attributes.getD [])
    let inner ← children.elim (pure base.children) fun d =>
      some <$> extendChildren c limits scope base.children d
    return ⟨set, inner⟩) := by
  cases attributes <;> cases children <;> rfl

/-- A restriction without facets has attributes and children, one after the other. -/
theorem restrictionContent_eq :
    restrictionContent c limits scope base none attributes children = (do
    let set ← attributes.elim (pure base.attributes) fun block =>
      some <$> restrictAttributes c limits scope (base.attributes.getD []) block
    let inner ← children.elim (pure base.children) fun d =>
      restrictChildren c limits scope base.children d
    return ⟨set, inner⟩) := by
  cases attributes <;> cases children <;> rfl

end Blocks

namespace Remake

variable {limits : Limits} {R : Remake limits} {b b' b₁' : Builder} {o : DeclarationId}

section Sends

variable {α : Type} [HasNumbers α]

theorem Sends.getD_nil {x y : Option (List α)} (h : R.Sends b' x y) :
    R.Sends b' (x.getD []) (y.getD []) := by
  cases x with
  | none =>
    rw [h.eq]
    exact sends_nil
  | some xs =>
    obtain ⟨ys, rfl, hs⟩ := exists_of_sends_some h
    exact hs

/-- What an extension starts from. -/
theorem sends_extended {b : Builder} {t t' : TypeId} (ht : R.Sends b' t t')
    (hc : R.Sends b' (b.schema.typeDef t).content (b'.schema.typeDef t').content) :
    R.Sends b' ((b.schema.typeDef t).extended t) ((b'.schema.typeDef t').extended t') := by
  unfold TypeDef.extended
  cases hx : (b.schema.typeDef t).content with
  | complex x =>
    rw [hx] at hc
    obtain ⟨x', hx', hs⟩ := hc.of_complex
    rw [hx']
    exact hs
  | simple x =>
    rw [hx] at hc
    obtain ⟨x', hx', -⟩ := hc.of_simple
    rw [hx']
    exact sends_complexContent sends_none (sends_some (sends_simpleChildren ht))

end Sends

/-- The schema admits the default values of the attributes of some content. -/
def AdmitsContent (R : Remake limits) (x : ComplexContent) : Prop :=
  ∀ a ∈ x.attributes.getD [], R.AdmitsDefault a

namespace Yields

theorem makeChildren (scope : Scope) (d : ChildrenDecl) :
    R.Yields b (makeChildren R.c limits scope d) fun x =>
      ∀ b', R.Succeeds b' (makeChildren R.c' limits scope d) fun x' b₁' => R.Sends b₁' x x' := by
  unfold Schemata.makeChildren
  cases d with
  | simple type span =>
    refine (simpleTypeOf scope type).bind fun t b₁ _ => .pure fun _ ht b' => ?_
    exact (ht.2.2 b').bind fun t' b₁' _ _ hs => .pure (sends_simpleChildren hs)
  | set d =>
    refine (addMembers scope d.items []).bind fun ms b₁ _ => .pure fun _ hms b' => ?_
    refine (hms b' [] sends_nil).bind fun ms' b₁' _ _ hs => .pure ?_
    exact sends_setChildren (s := ⟨d.kind, ms, d.span⟩) hs

theorem ownContent (scope : Scope) (attributes : Option AttributeBlock)
    (children : Option ChildrenDecl) :
    R.Yields b (ownContent R.c limits scope attributes children) fun x => R.AdmitsContent x →
      ∀ b', b'.AtRest →
        R.Succeeds b' (ownContent R.c' limits scope attributes children) fun x' b₁' =>
          R.Sends b₁' x x' := by
  unfold Schemata.ownContent
  have hattributes : R.Yields b
      (attributes.mapM fun block => Schemata.addAttributes R.c limits scope block.items [])
      fun r => (∀ a ∈ r.getD [], R.AdmitsDefault a) → ∀ b', b'.AtRest → R.Succeeds b'
        (attributes.mapM fun block => Schemata.addAttributes R.c' limits scope block.items [])
        fun r' b₁' => R.Sends b₁' r r' := by
    cases attributes with
    | none => exact .pure fun _ _ _ _ => .pure sends_none
    | some block =>
      refine .map ((addAttributes scope block.items []).mono
        fun set ⟨_, hset⟩ hadmits b' hrest => ?_)
      exact .map ((hset hadmits b' [] hrest sends_nil).mono fun _ _ _ hs => sends_some hs)
  have hchildren : ∀ b₁ : Builder, R.Yields b₁
      (children.mapM (Schemata.makeChildren R.c limits scope)) fun x =>
        ∀ b', R.Succeeds b' (children.mapM (Schemata.makeChildren R.c' limits scope))
          fun x' b₁' => R.Sends b₁' x x' := by
    intro b₁
    cases children with
    | none => exact .pure fun _ _ => .pure sends_none
    | some d =>
      refine .map ((makeChildren scope d).mono fun x hx b' => ?_)
      exact .map ((hx b').mono fun _ _ _ hs => sends_some hs)
  refine hattributes.bind fun r b₁ _ => (hchildren b₁).bind fun x b₂ _ =>
    .pure fun _ hx hr hadmits b' hrest => ?_
  exact (hr hadmits b' hrest).bind fun r' b₁' _ _ hr' =>
    (hx b₁').bind fun x' b₂' hl _ hx' => .pure (sends_complexContent (hr'.mono hl) hx')

theorem extendChildren (scope : Scope) (base : Option Children) (d : ChildrenDecl) :
    R.Yields b (extendChildren R.c limits scope base d) fun x =>
      ∀ b' base', R.Sends b' base base' →
        R.Succeeds b' (extendChildren R.c' limits scope base' d) fun x' b₁' =>
          R.Sends b₁' x x' := by
  cases base with
  | none =>
    refine (makeChildren scope d).mono fun x hx b' base' hb => ?_
    obtain rfl : base' = none := hb.eq
    exact hx b'
  | some base =>
    cases base with
    | simple type => exact .note_pure rfl
    | set s =>
      cases d with
      | simple r span => exact .note_pure rfl
      | set d =>
        refine (addMembers scope d.items s.members).bind fun ms b₁ _ =>
          .pure fun _ hms b' base' hb => ?_
        obtain ⟨x', rfl, hx⟩ := exists_of_sends_some hb
        obtain ⟨ms', rfl, hs⟩ := hx.of_setChildren
        refine (hms b' ms' hs).bind fun ms₁' b₁' _ _ hs' => .pure ?_
        exact sends_setChildren (s := { s with members := ms }) hs'

theorem extensionContent (scope : Scope) (base : ComplexContent)
    (attributes : Option AttributeBlock) (children : Option ChildrenDecl) :
    R.Yields b (extensionContent R.c limits scope base attributes children) fun x =>
      R.AdmitsContent x → ∀ b' base', b'.AtRest → R.Sends b' base base' →
        R.Succeeds b' (extensionContent R.c' limits scope base' attributes children)
          fun x' b₁' => R.Sends b₁' x x' := by
  have hattributes : R.Yields b (attributes.elim (Pure.pure base.attributes) fun block =>
      some <$> Schemata.addAttributes R.c limits scope block.items (base.attributes.getD []))
      fun r => (∀ a ∈ r.getD [], R.AdmitsDefault a) → ∀ b' (base' : ComplexContent), b'.AtRest →
        R.Sends b' base base' →
        R.Succeeds b' (attributes.elim (Pure.pure base'.attributes) fun block =>
          some <$> Schemata.addAttributes R.c' limits scope block.items (base'.attributes.getD []))
          fun r' b₁' => R.Sends b₁' r r' := by
    cases attributes with
    | none => exact .pure fun _ _ _ _ _ hb => .pure hb.of_complexContent.1
    | some block =>
      refine .map ((addAttributes scope block.items _).mono
        fun set ⟨_, hset⟩ hadmits b' base' hrest hb => ?_)
      exact .map ((hset hadmits b' _ hrest hb.of_complexContent.1.getD_nil).mono
        fun _ _ _ hs => sends_some hs)
  have hchildren : ∀ b₁ : Builder, R.Yields b₁ (children.elim (Pure.pure base.children) fun d =>
      some <$> Schemata.extendChildren R.c limits scope base.children d)
      fun x => ∀ b' (base' : ComplexContent), R.Sends b' base base' →
        R.Succeeds b' (children.elim (Pure.pure base'.children) fun d =>
          some <$> Schemata.extendChildren R.c' limits scope base'.children d)
          fun x' b₁' => R.Sends b₁' x x' := by
    intro b₁
    cases children with
    | none => exact .pure fun _ _ _ hb => .pure hb.of_complexContent.2
    | some d =>
      refine .map ((extendChildren scope _ d).mono fun x hx b' base' hb => ?_)
      exact .map ((hx b' _ hb.of_complexContent.2).mono fun _ _ _ hs => sends_some hs)
  simp only [extensionContent_eq]
  refine hattributes.bind fun r b₁ _ => (hchildren b₁).bind fun x b₂ _ =>
    .pure fun _ hx hr hadmits b' base' hrest hb => ?_
  exact (hr hadmits b' base' hrest hb).bind fun r' b₁' hl _ hr' =>
    (hx b₁' base' (hb.mono hl)).bind fun x' b₂' hl' _ hx' =>
      .pure (sends_complexContent (hr'.mono hl') hx')

theorem restrictChildren (scope : Scope) (base : Option Children) (d : ChildrenDecl) :
    R.Yields b (restrictChildren R.c limits scope base d) fun x =>
      ∀ b' base', R.Sends b' base base' →
        R.Succeeds b' (restrictChildren R.c' limits scope base' d) fun x' b₁' =>
          R.Sends b₁' x x' := by
  cases base with
  | none => exact .note_pure rfl
  | some base =>
    cases base with
    | simple up =>
      cases d with
      | set d => exact .note_pure rfl
      | simple r span =>
        refine (simpleTypeOf scope r).bind fun t b₁ _ => .schema_bind ?_
        split
        · rename_i hd
          refine .pure fun hlast ht b' base' hb => ?_
          obtain ⟨x', rfl, hx⟩ := exists_of_sends_some hb
          obtain ⟨up', rfl, hup⟩ := hx.of_simpleChildren
          refine (ht.2.2 b').bind fun t' b₁' hl _ hs => .of_agrees fun hb₁ => .schema_bind ?_
          rw [if_pos (hb₁.derives hs (hup.mono hl) (hlast.schema.derives hd))]
          exact .pure (sends_some (sends_simpleChildren hs))
        · exact .note_pure rfl
    | set s =>
      cases d with
      | simple r span => exact .note_pure rfl
      | set d =>
        unfold Schemata.restrictChildren
        dsimp only
        split
        · rename_i hkind
          refine (restrictEachMember scope s.kind s.members 0 d.items {}).bind fun r b₁ _ => ?_
          refine (finishRestriction s.kind s.members d.span r).bind fun ms b₂ _ =>
            .pure fun _ hms hr b' base' hb => ?_
          obtain ⟨x', rfl, hx⟩ := exists_of_sends_some hb
          obtain ⟨up', rfl, hup⟩ := hx.of_setChildren
          dsimp only
          rw [if_pos hkind]
          refine (hr b' up' {} hup rfl sends_nil).bind fun r' b₁' hl _ h₁ => ?_
          obtain ⟨hm, hf⟩ := h₁
          refine (hms b₁' up' r' (hup.mono hl) hm hf).bind fun ms' b₂' _ _ hs => .pure ?_
          exact sends_some (sends_setChildren (s := ⟨s.kind, ms, d.span.or s.span⟩) hs)
        · exact .note_pure rfl

/-- A restriction without facets. -/
theorem restrictBlocks (scope : Scope) (base : ComplexContent)
    (attributes : Option AttributeBlock) (children : Option ChildrenDecl) :
    R.Yields b (Schemata.restrictionContent R.c limits scope base none attributes children) fun x =>
      R.AdmitsContent x → ∀ b' base', b'.AtRest → R.Sends b' base base' →
        R.Succeeds b' (Schemata.restrictionContent R.c' limits scope base' none attributes children)
          fun x' b₁' => R.Sends b₁' x x' := by
  have hattributes : R.Yields b
      (attributes.elim (Pure.pure base.attributes) fun block =>
        some <$> Schemata.restrictAttributes R.c limits scope (base.attributes.getD []) block)
      fun r => (∀ a ∈ r.getD [], R.AdmitsDefault a) → ∀ b' (base' : ComplexContent), b'.AtRest →
        R.Sends b' base base' →
        R.Succeeds b' (attributes.elim (Pure.pure base'.attributes) fun block =>
          some <$> Schemata.restrictAttributes R.c' limits scope (base'.attributes.getD []) block)
          fun r' b₁' => R.Sends b₁' r r' := by
    cases attributes with
    | none => exact .pure fun _ _ _ _ _ hb => .pure hb.of_complexContent.1
    | some block =>
      refine .map ((restrictAttributes scope _ block).mono
        fun set hset hadmits b' base' hrest hb => ?_)
      exact .map ((hset hadmits b' _ hrest hb.of_complexContent.1.getD_nil).mono
        fun _ _ _ hs => sends_some hs)
  have hchildren : ∀ b₁ : Builder, R.Yields b₁ (children.elim (Pure.pure base.children) fun d =>
      Schemata.restrictChildren R.c limits scope base.children d)
      fun x => ∀ b' (base' : ComplexContent), R.Sends b' base base' →
        R.Succeeds b' (children.elim (Pure.pure base'.children) fun d =>
          Schemata.restrictChildren R.c' limits scope base'.children d)
          fun x' b₁' => R.Sends b₁' x x' := by
    intro b₁
    cases children with
    | none => exact .pure fun _ _ _ hb => .pure hb.of_complexContent.2
    | some d =>
      exact (restrictChildren scope _ d).mono fun x hx b' base' hb => hx b' _ hb.of_complexContent.2
  simp only [restrictionContent_eq]
  refine hattributes.bind fun r b₁ _ => (hchildren b₁).bind fun x b₂ _ =>
    .pure fun _ hx hr hadmits b' base' hrest hb => ?_
  exact (hr hadmits b' base' hrest hb).bind fun r' b₁' hl _ hr' =>
    (hx b₁' base' (hb.mono hl)).bind fun x' b₂' hl' _ hx' =>
      .pure (sends_complexContent (hr'.mono hl') hx')

theorem restrictionContent (scope : Scope) (base : ComplexContent) (facets : Option FacetBlock)
    (attributes : Option AttributeBlock) (children : Option ChildrenDecl) :
    R.Yields b (restrictionContent R.c limits scope base facets attributes children) fun x =>
      R.AdmitsContent x → ∀ b' base', b'.AtRest → R.Sends b' base base' →
        R.Succeeds b' (restrictionContent R.c' limits scope base' facets attributes children)
          fun x' b₁' => R.Sends b₁' x x' := by
  cases facets with
  | some block => exact .note_bind rfl fun b₁ _ => restrictBlocks scope base attributes children
  | none => exact restrictBlocks scope base attributes children

theorem complexContent (scope : Scope) (up : TypeId) (body : TypeBody) :
    R.Yields b (complexContent R.c limits scope up body) fun x => R.AdmitsContent x →
      ∀ b' up', b'.AtRest →
        R.Sends b' ((b.schema.typeDef up).extended up) ((b'.schema.typeDef up').extended up') →
        R.Succeeds b' (complexContent R.c' limits scope up' body) fun x' b₁' =>
          R.Sends b₁' x x' := by
  unfold Schemata.complexContent
  refine .schema_bind ?_
  extract_lets inherited
  cases body with
  | list item =>
    exact .pure fun _ _ _ _ _ _ => .schema_bind (.pure (sends_complexContent sends_none sends_none))
  | complex attributes children =>
    exact (ownContent scope attributes children).mono
      fun x hx hadmits b' _ hrest _ => .schema_bind (hx hadmits b' hrest)
  | extension _ attributes children =>
    exact (extensionContent scope inherited attributes children).mono
      fun x hx hadmits b' _ hrest hb => .schema_bind (hx hadmits b' _ hrest hb)
  | restriction _ facets attributes children =>
    exact (restrictionContent scope inherited facets attributes children).mono
      fun x hx hadmits b' _ hrest hb => .schema_bind (hx hadmits b' _ hrest hb)

end Yields

/-! ## Complex types get their content -/

/-- The run that made the content of a complex type can be repeated. -/
theorem complexContent_repeats {t : TypeId} (ho : R.made.symbol? o = some (.type t))
    (hk : (R.made.schema.typeDef t).kind.isSimple = false) : ∃ d decl x,
    R.c.getAs? (·.asType?) o = some (d, decl) ∧
    (R.made.schema.typeDef t).content = .complex x ∧
    ∀ up, (R.made.schema.typeDef t).base = some up → ∀ b' up', b'.AtRest →
      R.Sends b' ((R.made.schema.typeDef up).extended up) ((b'.schema.typeDef up').extended up') →
      R.Succeeds b' (complexContent R.c' limits d.scope up' decl.body) fun x' b₁' =>
        R.Sends b₁' x x' := by
  cases R.sourced.contents t (mem_finished ho) with
  | simple _ _ kind => cases hk.symm.trans kind
  | @complex p d decl x b₀ b₁ origin declared kind inv placed has base run lasts content =>
    obtain rfl := Option.some.inj (((R.regular.origin o t).1 ho).symm.trans origin)
    refine ⟨d, decl, x, declared, content, fun up hup b' up' hrest hb => ?_⟩
    have hgiven := placed.has_complexBase inv t
    obtain ⟨hs, -⟩ := Builder.Takes.apply (Builder.Takes.complexContent d.scope hgiven decl.body)
      placed inv run
    have hl := hs.lasts.trans lasts
    have hbase : (b₀.schema.typeDef t).base = some up := by rw [← hl.schema.base t has, hup]
    have hhas := inv.has_base hbase
    rw [hbase, Option.getD_some] at run
    have hyields := (Yields.complexContent (R := R) (b := b₀) d.scope up decl.body).apply placed inv
      run lasts
    rw [← hl.typeDef_eq inv R.inv hhas (base up hbase)] at hyields
    refine hyields (fun a ha => R.admits a (Or.inr ⟨t, x, ?_, ha⟩)) b' up' hrest hb
    rw [TypeDef.asComplex?, content]

namespace Succeeds

variable {t t' : TypeId}

/-- A complex type whose base has its content gets its own. -/
theorem finishComplex (ht : R.Sends b' t t') (hf : ¬b'.isFinished t')
    (hk : (R.made.schema.typeDef t).kind.isSimple = false) (hrest : b'.AtRest)
    (hbelow : b'.FinishedBelow t'.index) :
    R.Succeeds b' (finishComplex R.c' limits t') fun _ _ => True := by
  intro hb
  obtain ⟨k, rfl, rfl⟩ | ⟨o, ho, ho'⟩ := hb.type_cases ht
  · refine absurd (Builder.isFinished_iff.2 (Or.inl ?_)) hf
    exact Builder.origin_of_builtin k.rank_lt
  have horigin := (hb.regular.origin _ _).1 ho'
  obtain ⟨d, decl, x, hget, hx, hcontent⟩ := complexContent_repeats ho hk
  have hget' := getAs?_place hget
  have hkind := hb.kind_eq ht
  have hhas := hb.has ht
  obtain ⟨-, -, up', -, -, hup', hlt, -⟩ := hb.inv.declared t' _ horigin
  obtain ⟨up, hup, hs⟩ := hb.exists_base ht hup'
  have hopen : b'.TypeStep R.c' limits (b'.openType t') := .openType t'
  have hb₀ := hb.openType t'
  have hrest₀ : (b'.openType t').AtRest :=
    ⟨hrest.attributes, List.forall_mem_cons.2 ⟨⟨hhas, hkind.symm ▸ hk⟩, hrest.types⟩⟩
  have hextended := (sends_extended hs (hb.content hs (hbelow up' hlt).2)).mono hopen.lasts
  obtain ⟨x', b₁', hrun, hl, hk₁, hb₁, hsends⟩ := hcontent up hup _ up' hrest₀ hextended hb₀
  have hrun' : (Schemata.finishComplex R.c' limits t').run b' =
      .ok ((), b₁'.finish t' (.complex x')) := by
    have hstart : (Schemata.finishComplex R.c' limits t').run b' =
        (Schemata.complexContent R.c' limits d.scope up' decl.body >>= fun x =>
          modify (·.finish t' (.complex x))).run (b'.openType t') := by
      rw [Schemata.finishComplex]
      simp [Build.schema, horigin, hget', hup']
    rw [hstart, Builder.run_bind_of_ok hrun]
    rfl
  have hsteps := Builder.steps_finishComplex hb.inv hb.placed hhas hf (hkind ▸ hk) hbelow hrun'
  obtain ⟨-, hinv, -⟩ := Builder.finishComplexType hb.inv hhas hf (hkind ▸ hk) hbelow hrun'
  obtain ⟨horderly, hkeeps, -⟩ := Builder.Reports.apply
    (Builder.Reports.finishComplex horigin hhas (hkind ▸ hk) hrest) hb.orderly hrun'
  have hnot : t' ∉ b₁'.finished := by
    have hhasup : (b'.openType t').schema.Has up' := (hbelow up' hlt).1
    obtain ⟨hcalm, -⟩ :=
      Builder.Takes.complexContent d.scope hhasup decl.body hb₀.placed hb₀.inv x' b₁' hrun
    exact hcalm.not_mem hhas (hkind ▸ hk) fun hmem => hf (Builder.isFinished_of_mem hmem)
  refine ⟨(), _, hrun', hsteps.lasts, hkeeps, ?_, trivial⟩
  exact hb₁.finish (hb.reached.trans hsteps) hinv horderly hnot (ht.mono (hopen.lasts.trans hl))
    (hx ▸ sends_complex hsends)

end Succeeds

end Remake

end Schemata
