import Schemata.Proofs.SymbolRepeats

/-!
# Simple types and attributes that are made again

What the second compilation does to give a simple type its content, to read a default value and to
make a global attribute: the same as the first one did. The content of a simple type is made of what
its declaration names and of the content of its base. A default value is read by the kind of its
type; it is admitted because the schema admits it in the end, for a type that has no content yet
admits more than later on.
-/

namespace Schemata

/-- A block of facets that is refused has errors. -/
theorem any_isError_of_narrow {k : Kind} {base : FacetSet} {block : FacetBlock}
    {ds : List Diagnostic} (h : narrow k base block = .ok (.error ds)) : ds.any (·.isError) := by
  have hreads := readsFrom_narrow k base block
  rw [h] at hreads
  obtain ⟨hne, hds⟩ := hreads ds rfl
  obtain ⟨d, hd⟩ := List.exists_mem_of_ne_nil ds hne
  exact List.any_eq_true.2 ⟨d, hd, (hds d hd).2⟩

namespace Builder

variable {c : Catalog} {b b' : Builder} {t : TypeId}

theorem Lasts.simpleBase_eq (hl : b.Lasts b') (hb : b.Inv c) (hb' : b'.Inv c)
    (ht : b.schema.Has t)
    (hup : ∀ up, (b.schema.typeDef t).base = some up → b.isFinished up) :
    b'.simpleBase t = b.simpleBase t := by
  unfold simpleBase
  rw [hl.schema.base t ht]
  cases hu : (b.schema.typeDef t).base with
  | none => rfl
  | some up => rw [Option.bind_some, Option.bind_some, hl.typeDef_eq hb hb' (hb.has_base hu) (hup up hu)]

end Builder

namespace Remake

variable {limits : Limits} {R : Remake limits} {b b' b₁' : Builder} {o o' : DeclarationId}

namespace Yields

theorem restrictItem (scope : Scope) (base : Option TypeId) (r : NameRef) :
    R.Yields b (restrictItem R.c limits scope base r) fun x => ∀ b' base', R.Sends b' base base' →
      R.Succeeds b' (restrictItem R.c' limits scope base' r) fun x' b₁' => R.Sends b₁' x x' := by
  unfold Schemata.restrictItem
  refine (simpleTypeOf scope r).bind fun item b₁ _ => .schema_bind ?_
  cases base with
  | none =>
    refine .pure fun _ ⟨_, _, hitem⟩ b' base' hbase => ?_
    obtain rfl : base' = none := hbase.eq
    exact (hitem b').bind fun item' b₁' _ _ hs => .schema_bind (.pure (sends_some hs))
  | some u =>
    dsimp only
    split
    · rename_i hd
      refine .pure fun hlast ⟨_, _, hitem⟩ b' base' hbase => ?_
      obtain ⟨u', rfl, hu⟩ := exists_of_sends_some hbase
      refine (hitem b').bind fun item' b₁' hl _ hs => .of_agrees fun hb₁ => .schema_bind ?_
      dsimp only
      rw [if_pos (hb₁.derives hs (hu.mono hl) (hlast.schema.derives hd))]
      exact .pure (sends_some hs)
    · exact .note_pure rfl

/-- Facets that narrow those of the base. -/
theorem restrictFacets (scope : Scope) (kind : Kind) (base : SimpleContent)
    (facets : Option FacetBlock) :
    R.Yields b (Schemata.restrictSimple R.c limits scope kind base facets none none) fun x =>
      ∀ b' base', R.Sends b' base base' →
        R.Succeeds b' (Schemata.restrictSimple R.c' limits scope kind base' facets none none)
          fun x' b₁' => R.Sends b₁' x x' := by
  unfold Schemata.restrictSimple
  cases facets with
  | none => exact .pure fun _ _ _ hbase => .pure hbase
  | some block =>
    simp only [Option.isSome_none, Bool.or_self, Bool.false_eq_true, if_false]
    refine .reading_bind fun narrowed hnarrow => ?_
    have hread : ∀ {b' : Builder} {base' : SimpleContent}, R.Sends b' base base' →
        narrow kind (base'.facets.getD {}) block = .ok narrowed := fun hbase => by
      rw [hbase.of_simpleContent.1, hnarrow]
    cases narrowed with
    | error ds =>
      -- what is refused is recorded, and the compilation would not have been accepted
      refine .notes_bind fun b₁ _ => ?_
      have herror := any_isError_of_narrow hnarrow
      simp only [herror, Bool.true_eq_false, false_imp_iff, pure_bind]
      split
      · split
        · exact (restrictItem scope base.item _).bind fun _ _ _ => .pure fun _ _ => trivial
        · exact .pure fun _ => trivial
      · exact .pure fun _ => trivial
    | ok f =>
      simp only [pure_bind]
      split
      · split
        · refine (restrictItem scope base.item _).bind fun item b₁ _ =>
            .pure fun _ hitem b' base' hbase => .reading_bind (hread hbase) ?_
          refine (hitem b' _ hbase.of_simpleContent.2).bind fun item' b₁' _ _ hs => .pure ?_
          exact sends_simpleContent hs
        · refine .pure fun _ b' base' hbase => .reading_bind (hread hbase) (.pure ?_)
          exact sends_simpleContent hbase.of_simpleContent.2
      · refine .pure fun _ b' base' hbase => .reading_bind (hread hbase) (.pure ?_)
        exact sends_simpleContent hbase.of_simpleContent.2

theorem restrictSimple (scope : Scope) (kind : Kind) (base : SimpleContent)
    (facets : Option FacetBlock) (attributes : Option AttributeBlock)
    (children : Option ChildrenDecl) :
    R.Yields b (restrictSimple R.c limits scope kind base facets attributes children) fun x =>
      ∀ b' base', R.Sends b' base base' →
        R.Succeeds b' (restrictSimple R.c' limits scope kind base' facets attributes children)
          fun x' b₁' => R.Sends b₁' x x' := by
  have hfacets := fun b₁ => restrictFacets (R := R) (b := b₁) scope kind base facets
  cases attributes with
  | some block => exact .note_bind rfl fun b₁ _ => hfacets b₁
  | none =>
    cases children with
    | some d => exact .note_bind rfl fun b₁ _ => hfacets b₁
    | none => exact hfacets b

theorem simpleContent (scope : Scope) (kind : Kind) (base : SimpleContent) (body : TypeBody) :
    R.Yields b (simpleContent R.c limits scope kind base body) fun x =>
      ∀ b' base', R.Sends b' base base' →
        R.Succeeds b' (simpleContent R.c' limits scope kind base' body) fun x' b₁' =>
          R.Sends b₁' x x' := by
  unfold Schemata.simpleContent
  cases body with
  | list item =>
    refine (simpleTypeOf scope item).bind fun t b₁ _ =>
      .pure fun _ ⟨_, _, ht⟩ b' base' _ => (ht b').bind fun t' b₁' _ _ hs => .pure ?_
    exact sends_simpleContent (x := { item := some t }) (sends_some hs)
  | complex _ _ => exact .pure fun _ _ _ hbase => .pure hbase
  | extension _ _ _ => exact .pure fun _ _ _ hbase => .pure hbase
  | restriction _ facets attributes children =>
    exact restrictSimple scope kind base facets attributes children

end Yields

/-! ## Simple types get their content -/

/-- The content of the base is the same once it is there. -/
theorem Agrees.simpleBase (h : R.Agrees b') {t t' : TypeId} (ht : R.Sends b' t t')
    (hup : ∀ up', (b'.schema.typeDef t').base = some up' → b'.isFinished up') :
    R.Sends b' (R.made.simpleBase t) (b'.simpleBase t') := by
  have hbase := h.base ht
  unfold Builder.simpleBase
  cases hu : (R.made.schema.typeDef t).base with
  | none =>
    rw [hu] at hbase
    rw [hbase.eq]
    exact sends_simpleContent (x := {}) sends_none
  | some up =>
    rw [hu] at hbase
    obtain ⟨up', hu', hs⟩ := exists_of_sends_some hbase
    have hcontent := h.content hs (hup up' hu')
    rw [hu', Option.bind_some, Option.bind_some]
    unfold TypeDef.asSimple?
    cases hx : (R.made.schema.typeDef up).content with
    | simple x =>
      rw [hx] at hcontent
      obtain ⟨x', hx', hsends⟩ := hcontent.of_simple
      rw [hx']
      exact hsends
    | complex x =>
      rw [hx] at hcontent
      obtain ⟨x', hx', -⟩ := hcontent.of_complex
      rw [hx']
      exact sends_simpleContent (x := {}) sends_none

theorem regular (R : Remake limits) : R.made.Regular :=
  R.completes.regular

theorem mem_finished {t : TypeId} (ho : R.made.symbol? o = some (.type t)) :
    t ∈ R.made.finished :=
  R.completes.mem_finished ho

/-- The run that made the content of a simple type can be repeated. -/
theorem simpleContent_repeats {t : TypeId} (ho : R.made.symbol? o = some (.type t))
    (hk : (R.made.schema.typeDef t).kind.isSimple) : ∃ d decl x,
    R.c.getAs? (·.asType?) o = some (d, decl) ∧
    (R.made.schema.typeDef t).content = .simple x ∧
    ∀ b' base', R.Sends b' (R.made.simpleBase t) base' →
      R.Succeeds b' (simpleContent R.c' limits d.scope (R.made.schema.typeDef t).kind base' decl.body)
        fun x' b₁' => R.Sends b₁' x x' := by
  cases R.sourced.contents t (mem_finished ho) with
  | complex _ _ kind => cases hk.symm.trans kind
  | @simple p d decl x b₀ b₁ origin declared kind inv placed has base run lasts content =>
    obtain rfl := Option.some.inj (((R.regular.origin o t).1 ho).symm.trans origin)
    refine ⟨d, decl, x, declared, content, ?_⟩
    obtain ⟨hs, -, -, -⟩ := Builder.Takes.apply (Builder.Takes.simpleContent (k := .all) d.scope
      (b₀.schema.typeDef t).kind decl.body (Builder.placesItem_simpleBase placed t)) placed inv run
    have hl := hs.lasts.trans lasts
    rw [hl.schema.kind t has, hl.simpleBase_eq inv R.inv has base]
    exact (Yields.simpleContent d.scope _ _ decl.body).apply placed inv run lasts

namespace Succeeds

variable {t t' : TypeId}

/-- A simple type whose base has its content gets its own. -/
theorem finishSimple (ht : R.Sends b' t t') (hf : ¬b'.isFinished t')
    (hk : (R.made.schema.typeDef t).kind.isSimple)
    (hup : ∀ up', (b'.schema.typeDef t').base = some up' → b'.isFinished up') :
    R.Succeeds b' (finishSimple R.c' limits t') fun _ b₁' =>
      b₁'.finished = t' :: b'.finished := by
  intro hb
  obtain ⟨k, rfl, rfl⟩ | ⟨o, ho, ho'⟩ := hb.type_cases ht
  · refine absurd (Builder.isFinished_iff.2 (Or.inl ?_)) hf
    exact Builder.origin_of_builtin k.rank_lt
  have horigin := (hb.regular.origin _ _).1 ho'
  obtain ⟨d, decl, x, hget, hx, hcontent⟩ := simpleContent_repeats ho hk
  have hget' := getAs?_place hget
  have hkind := hb.kind_eq ht
  have hopen : b'.TypeStep R.c' limits (b'.openType t') := .openType t'
  have hb₀ := hb.openType t'
  have hbase : R.Sends (b'.openType t') (R.made.simpleBase t) (b'.simpleBase t') :=
    (hb.simpleBase ht hup).mono hopen.lasts
  obtain ⟨x', b₁', hrun, hl, hk₁, hb₁, hsends⟩ := hcontent _ _ hbase hb₀
  have hrun' : (Schemata.finishSimple R.c' limits t').run b' =
      .ok ((), b₁'.finish t' (.simple x')) := by
    have hstart : (Schemata.finishSimple R.c' limits t').run b' =
        (Schemata.simpleContent R.c' limits d.scope (b'.schema.typeDef t').kind (b'.simpleBase t')
          decl.body >>= fun x => modify (·.finish t' (.simple x))).run (b'.openType t') := by
      rw [Schemata.finishSimple]
      simp [Build.schema, horigin, hget', Builder.simpleBase]
    rw [hstart, hkind, Builder.run_bind_of_ok hrun]
    rfl
  obtain ⟨hs, hinv, -, hfinished⟩ := (Builder.Takes.finishSimple (k := .all) (hb.has ht) hf
    (hkind ▸ hk) hup).apply hb.placed hb.inv hrun'
  obtain ⟨horderly, hkeeps, -⟩ :=
    Builder.Reports.apply (Builder.Reports.finishSimple horigin) hb.orderly hrun'
  have hnot : t' ∉ b₁'.finished := by
    rw [(List.cons.inj hfinished).2]
    exact fun hmem => hf (Builder.isFinished_of_mem hmem)
  refine ⟨(), _, hrun', hs.lasts, hkeeps, ?_, hfinished⟩
  exact hb₁.finish (hb.reached.trans hs) hinv horderly hnot (ht.mono (hopen.lasts.trans hl))
    (hx ▸ sends_simple hsends)

/-- The unfinished types on the way up from a simple type get their content from the top down. The
induction is on the number of a type, which is greater than that of its base. -/
theorem finishAbove {n : Nat} {t t' : TypeId} (hn : t'.index ≤ n) (ht : R.Sends b' t t')
    (hk : (R.made.schema.typeDef t).kind.isSimple) :
    R.Succeeds b' (((follow (fun x => (b'.schema.typeDef x).base) n t').takeWhile
      (!b'.isFinished ·)).reverse.forM (Schemata.finishSimple R.c' limits)) fun _ b₁' =>
        b₁'.isFinished t' ∧ ∀ x ∈ b₁'.finished, x ∈ b'.finished ∨ x.index ≤ t'.index := by
  refine .of_agrees fun hb => ?_
  by_cases hf : b'.isFinished t'
  · have hnil : (follow (fun x => (b'.schema.typeDef x).base) n t').takeWhile
        (!b'.isFinished ·) = [] := by
      cases n <;> simp [follow, hf]
    rw [hnil]
    exact .pure ⟨hf, fun x hx => Or.inl hx⟩
  · obtain ⟨k, rfl, rfl⟩ | ⟨o, ho, ho'⟩ := hb.type_cases ht
    · exact absurd (Builder.isFinished_iff.2 (Or.inl (Builder.origin_of_builtin k.rank_lt))) hf
    have horigin := (hb.regular.origin _ _).1 ho'
    obtain ⟨-, -, up', -, -, hup', hlt, -⟩ := hb.inv.declared t' _ horigin
    obtain ⟨up, hup, hs⟩ := hb.exists_base ht hup'
    obtain ⟨m, rfl⟩ : ∃ m, n = m + 1 := ⟨n - 1, by omega⟩
    have hchain : (follow (fun x => (b'.schema.typeDef x).base) (m + 1) t').takeWhile
        (!b'.isFinished ·) = t' :: (follow (fun x => (b'.schema.typeDef x).base) m up').takeWhile
          (!b'.isFinished ·) := by
      simp [follow, hf, hup']
    rw [hchain, List.reverse_cons, List.forM_eq_forM, List.forM_append, List.forM_cons]
    refine (finishAbove (n := m) (by omega) hs (R.orderly.simple t up hup hk)).bind
      fun _ b₁' hl _ h₁ => ?_
    obtain ⟨hfu, hnew⟩ := h₁
    have hf₁ : ¬b₁'.isFinished t' := by
      rw [Builder.isFinished_iff, hl.origin t' _ horigin, not_or]
      refine ⟨by simp, fun h => ?_⟩
      rcases hnew t' h with h | h
      · exact hf (Builder.isFinished_of_mem h)
      · omega
    refine (finishSimple (ht.mono hl) hf₁ hk fun v hv => ?_).bind
      fun _ b₂' _ _ hfin => .pure ⟨?_, fun x hx => ?_⟩
    · rw [hl.schema.base t' (hb.has ht), hup'] at hv
      cases hv
      exact hfu
    · exact Builder.isFinished_of_mem (hfin ▸ List.mem_cons_self)
    · rw [hfin] at hx
      rcases List.mem_cons.1 hx with rfl | hx
      · exact Or.inr le_rfl
      · exact (hnew x hx).imp_right fun h => by omega
termination_by n

theorem ensureSimple (hopen : b'.OpenComplex) (ht : R.Sends b' t t')
    (hk : (R.made.schema.typeDef t).kind.isSimple) :
    R.Succeeds b' (ensureSimple R.c' limits t') fun _ b₁' => b₁'.isFinished t' := by
  refine .of_agrees fun hb => ?_
  have hsimple : (b'.schema.typeDef t').kind.isSimple := by rw [hb.kind_eq ht, hk]
  unfold Schemata.ensureSimple
  refine .get_bind ?_
  extract_lets unfinished
  rw [if_neg]
  · exact (finishAbove (Nat.le_of_lt (hb.has ht)) ht hk).mono fun _ _ _ h => h.1
  · -- only complex types are in the making
    rw [List.any_eq_true]
    rintro ⟨x, hx, hmem⟩
    have hx := hb.orderly.simple_of_mem_baseChain hsimple ((List.takeWhile_sublist _).subset hx)
    rw [(hopen x (List.contains_iff_mem.1 hmem)).2] at hx
    cases hx

end Succeeds

/-! ## Default values -/

/-- The schema admits a default value, if there is one. -/
def Admits (R : Remake limits) (type : TypeId) (default : Option SimpleValue) : Prop :=
  ∀ v, default = some v → R.made.schema.failures type v = []

theorem Yields.defaultValue {t : TypeId} (ht : b.schema.Has t) (literal : Option String)
    (span : Option Span) :
    R.Yields b (defaultValue R.c limits t literal span) fun v => R.Admits t v →
      ∀ b' t', b'.OpenComplex → R.Sends b' t t' →
        R.Succeeds b' (defaultValue R.c' limits t' literal span) fun v' _ => v' = v := by
  unfold Schemata.defaultValue
  cases literal with
  | none => exact .pure fun _ _ _ _ _ _ => .pure rfl
  | some literal =>
    refine .schema_bind ?_
    split
    · rename_i hk
      refine .pure fun hlast _ b' t' _ hs => .of_agrees fun hb => .schema_bind ?_
      rw [if_pos]
      · exact .pure rfl
      · rw [hb.kind_eq hs, hlast.schema.kind t ht]
        exact hk
    · rename_i hk
      have hk : (b.schema.typeDef t).kind.isSimple := by simpa using hk
      refine .of_inv fun _ _ => ?_
      refine .bind_of (Builder.Takes.ensureSimple ht hk) (P := fun _ => True) ?_
        fun _ b₁ hl hf => .schema_bind (.of_inv fun hinv hp => ?_)
      · exact .of_takes (Builder.Takes.ensureSimple ht hk) fun _ _ _ _ _ => trivial
      extract_lets name
      refine .reading_bind fun r hr => ?_
      cases r with
      | none => exact .note_pure rfl
      | some v =>
        dsimp only
        split
        · refine .pure fun hlast _ hadmits b' t' hopen hs => .of_agrees fun hb => .schema_bind ?_
          have hkmade : (R.made.schema.typeDef t).kind.isSimple :=
            hlast.schema.isSimple (hl.schema.isSimple hk)
          rw [if_neg (by simp [hb.kind_eq hs, hkmade])]
          refine (Succeeds.ensureSimple hopen hs hkmade).bind fun _ b₁' hl' _ hf' =>
            .of_agrees fun hb₁ => .schema_bind ?_
          have hs₁ := hs.mono hl'
          have hread : b₁'.schema.readValue t' literal = .ok (some v) := by
            rw [hb₁.readValue_eq hs₁ hf', hlast.readValue_eq hinv R.inv hp (hl.schema.has ht) hf, hr]
          refine .reading_bind hread ?_
          dsimp only
          rw [hb₁.failures_eq_nil hs₁ (hadmits v rfl)]
          exact .pure rfl
        · exact .note_pure rfl

/-! ## Global attributes -/

theorem Yields.makeGlobalAttribute (d : Declaration) (a : GlobalAttributeDecl) :
    R.Yields b (makeGlobalAttribute R.c limits d a) fun made =>
      R.Admits made.type made.defaultValue → ∀ b', b'.OpenComplex →
        R.Succeeds b' (makeGlobalAttribute R.c' limits d a) fun made' b₁' =>
          R.Sends b₁' made made' := by
  unfold Schemata.makeGlobalAttribute
  refine .bind_of (Builder.Takes.simpleTypeOf d.scope a.type) (simpleTypeOf d.scope a.type)
    fun t b₁ _ ⟨hnames, _⟩ => .of_inv fun _ hp => ?_
  refine (defaultValue (hnames.has hp) a.defaultValue _).bind fun v b₂ _ =>
    .pure fun _ hv ⟨_, _, ht⟩ hadmits b' hopen => ?_
  refine (ht b').bind fun t' b₁' _ hk hs => ?_
  refine (hv hadmits b₁' t' (hopen.mono hk) hs).bind fun v' b₂' hl _ hv' => .pure ?_
  subst hv'
  exact sends_attribute (hs.mono hl) sends_none

theorem declaresAttribute {i : AttributeId} (ho : R.made.symbol? o = some (.attr i)) :
    R.c'.DeclaresAttribute (R.place o) :=
  R.reorders.isSome_place (R.orderly.attributes o i (Builder.mem_of_symbol? ho)).1

namespace Succeeds

/-- A global attribute is made again. -/
theorem newAttribute {i : AttributeId} {d : Declaration} {a : GlobalAttributeDecl}
    (ho : R.made.symbol? o = some (.attr i))
    (hget : R.c.getAs? (·.asAttribute?) o = some (d, a)) (hrest : b'.AtRest)
    (hnew : b'.symbol? (R.place o) = none) :
    R.Succeeds b' (resolveAttribute R.c' limits (R.place o) d a) fun i' b₁' =>
      b₁'.symbol? (R.place o) = some (.attr i') := by
  intro hb
  obtain ⟨d', a', made, b₀, b₁, hsource⟩ := R.sourced.attributes o i ho
  cases hget.symm.trans hsource.declared
  have hget' := getAs?_place hget
  have hopen : b'.Step R.c' limits (b'.openAttribute (R.place o)) := .openAttribute (R.place o)
  have hb₀ : R.Agrees (b'.openAttribute (R.place o)) := hb.of_eq hopen.lasts
    (hb.reached.tail hopen) (Builder.withOpen_inv hb.inv (R.place o :: b'.openAttributes)
      b'.openTypes) (hb.orderly.withOpen (R.place o :: b'.openAttributes) b'.openTypes)
    hb.clean rfl rfl
  have hyields := (Yields.makeGlobalAttribute (R := R) (b := b₀) d a).apply hsource.placed
    hsource.inv hsource.run hsource.lasts
  obtain ⟨made', b₁', hrun, hl, -, hb₁, hsends⟩ :=
    hyields (R.admits made (Or.inl ⟨i, hsource.stored⟩)) (b'.openAttribute (R.place o))
      hrest.types hb₀
  have hrun' : (Schemata.resolveAttribute R.c' limits (R.place o) d a).run b' =
      .ok (⟨b₁'.schema.attributes.size⟩, (b₁'.addAttribute (R.place o) made').2) := by
    unfold Schemata.resolveAttribute
    have hnone : b'.symbolAs "attribute" (·.asAttribute?) (R.place o) = .ok none := by
      rw [Builder.symbolAs, hnew]
    have hget : (get : Build Builder).run b' = .ok (b', b') := rfl
    rw [Builder.run_bind_of_ok hget, hnone]
    change (if b'.openAttributes.contains (R.place o) then
        Build.abort ((Fault.circular d.fullName).diagnostic (a.type.span.or a.name.span))
      else do
        modify (·.openAttribute (R.place o))
        let made ← Schemata.makeGlobalAttribute R.c' limits d a
        modifyGet (·.addAttribute (R.place o) made) : Build AttributeId).run b' = _
    rw [if_neg (by simp [hrest.attributes])]
    have hmake : (Schemata.makeGlobalAttribute R.c' limits d a >>= fun made =>
        modifyGet (·.addAttribute (R.place o) made)).run (b'.openAttribute (R.place o)) =
          .ok (⟨b₁'.schema.attributes.size⟩, (b₁'.addAttribute (R.place o) made').2) :=
      Builder.run_bind_of_ok hrun
    exact hmake
  obtain ⟨hs, hinv, -, hsymbol⟩ := (Builder.Takes.resolveAttribute hget').apply hb.placed hb.inv hrun'
  obtain ⟨horderly, hkeeps, -⟩ :=
    Builder.Reports.apply (Builder.Reports.resolveAttribute hget' hrest) hb.orderly hrun'
  -- only types were made until the attribute was
  obtain ⟨htypes, -⟩ := Builder.Takes.apply (Builder.Takes.makeGlobalAttribute (k := .types) d a)
    hb₀.placed hb₀.inv hrun
  have hnew₁ : b₁'.symbol? (R.place o) = none :=
    (Builder.symbol_eq_of_typeSteps htypes (Catalog.not_declaresType_of_attribute hget')).trans hnew
  have hl₁ := Builder.lasts_addAttribute (a := made') hnew₁
  refine ⟨_, _, hrun', hs.lasts, hkeeps, ?_, hsymbol⟩
  have hadded := fun q => b₁'.symbol?_addAttribute (R.place o) q made'
  refine hb₁.next hl₁ (hb.reached.trans hs) hinv horderly hb₁.clean
    (fun p u u' hp hnone hp' => ?_) (fun p j j' hp hnone hp' => ?_)
    (fun p j j' hp hnone hp' => ?_) fun u u' _ hf hnotf => absurd hf hnotf
  · cases (eq_of_new_symbol ho hadded hp hnone hp').1
  · obtain ⟨⟨⟩, ⟨⟩⟩ := eq_of_new_symbol ho hadded hp hnone hp'
    refine ⟨made, made', hsource.stored, ?_, hsends.mono hl₁⟩
    simp [Schema.attribute?, Builder.addAttribute]
  · cases (eq_of_new_symbol ho hadded hp hnone hp').1

theorem resolveAttribute {i : AttributeId} {d : Declaration} {a : GlobalAttributeDecl}
    (ho : R.made.symbol? o = some (.attr i))
    (hget : R.c.getAs? (·.asAttribute?) o = some (d, a)) (hrest : b'.AtRest) :
    R.Succeeds b' (resolveAttribute R.c' limits (R.place o) d a) fun i' b₁' =>
      R.Sends b₁' i i' := by
  refine .of_agrees fun hb => ?_
  cases hs : b'.symbol? (R.place o) with
  | none => exact (newAttribute ho hget hrest hs).mono fun i' b₁' hb₁ hi' => hb₁.sends_attr ho hi'
  | some s =>
    obtain ⟨i', rfl⟩ := hb.orderly.exists_attribute (declaresAttribute ho) (Builder.mem_of_symbol? hs)
    unfold Schemata.resolveAttribute
    have hknown : b'.symbolAs "attribute" (·.asAttribute?) (R.place o) = .ok (some i') :=
      Builder.symbolAs_eq_some_iff.2 (by rw [hs]; rfl)
    exact .get_bind (.orAbort_bind hknown (.pure (hb.sends_attr ho hs)))

theorem attributeOf {scope : Scope} {r : NameRef} {i : AttributeId} {a : Attribute}
    (h : R.made.NamesAttribute R.c scope r i) (ha : R.made.schema.attribute? i = some a)
    (hrest : b'.AtRest) :
    R.Succeeds b' (attributeOf R.c' limits scope r) fun x' b₁' => R.Sends b₁' (i, a) x' := by
  unfold Schemata.attributeOf
  obtain ⟨o, hresolve, ho⟩ := h
  extract_lets fault
  refine .orAbort_bind (a := .declared (R.place o)) ?_ ?_
  · rw [R.reorders.resolve_eq, hresolve]
    rfl
  · obtain ⟨d, decl, made, b₀, b₁, hsource⟩ := R.sourced.attributes o i ho
    simp only [getAs?_place hsource.declared]
    refine (resolveAttribute ho hsource.declared hrest).bind fun i' b₁' _ _ hi =>
      .of_agrees fun hb₁ => .schema_bind ?_
    obtain ⟨x, a', hx, ha', hsends⟩ := hb₁.attribute hi
    obtain rfl := Option.some.inj (ha.symm.trans hx)
    rw [ha']
    exact .pure (sends_pair hi hsends)

end Succeeds

theorem Yields.attributeOf (scope : Scope) (r : NameRef) :
    R.Yields b (attributeOf R.c limits scope r) fun x =>
      R.made.schema.attribute? x.1 = some x.2 ∧ ∀ b', b'.AtRest →
        R.Succeeds b' (attributeOf R.c' limits scope r) fun x' b₁' => R.Sends b₁' x x' := by
  refine .of_takes (Builder.Takes.attributeOf scope r) fun x _ _ hx hlast => ?_
  obtain ⟨i, a⟩ := x
  obtain ⟨⟨o, ho, hs⟩, ha⟩ := hx
  have ha := hlast.schema.attr _ _ ha
  exact ⟨ha, fun _ hrest => .attributeOf ⟨o, ho, hlast.symbol o _ hs⟩ ha hrest⟩

end Remake

end Schemata
