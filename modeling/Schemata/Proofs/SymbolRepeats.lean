import Schemata.Proofs.Repetition

/-!
# Symbols that are made again

What the second compilation does to give a declaration its symbol: it comes to an end, and the
symbol is the one that the first compilation gave to the same declaration. What is above a
declaration is above it in either order, so a climb of the second compilation stops as little as
one of the first, and what it passes gets the same headers.
-/

namespace Schemata

open Relation

/-- A climb comes to an end where every declaration that it can reach has a link and no symbol of
another sort, and no circle is met. -/
theorem exists_climb {α : Type} {known : DeclarationId → Except Diagnostic (Option α)}
    {link : DeclarationId → Except Diagnostic (Link α)}
    {circle : List DeclarationId → DeclarationId → Diagnostic} {n : Nat} {id : DeclarationId}
    {P : DeclarationId → Prop} (hid : P id) (hup : ∀ x up, Link.Leads link x up → P up)
    (hknown : ∀ x d, P x → known x ≠ .error d) (hlink : ∀ x d, P x → link x ≠ .error d)
    (hcircle : ∀ x, ¬TransGen (Link.Leads link) x x)
    (hn : ∀ l : List DeclarationId, l.Nodup → (∀ x ∈ l, Link.IsNext (link x)) → l.length ≤ n) :
    ∃ r, climb known link circle (n + 1) [] id = .ok r := by
  have hreached : ∀ x, ReflTransGen (Link.Leads link) id x → P x := by
    intro x hx
    cases hx with
    | refl => exact hid
    | tail _ hstep => exact hup _ _ hstep
  cases h : climb known link circle (n + 1) [] id with
  | ok r => exact ⟨r, rfl⟩
  | error d =>
    have hstopped := stopped_of_climb h hn (by simp) List.nodup_nil (by simp) (by simp)
    cases hstopped with
    | known reached hx => exact absurd hx (hknown _ d (hreached _ reached))
    | link reached hx => exact absurd hx (hlink _ d (hreached _ reached))
    | circle hx hd => exact absurd hx (hcircle _)

namespace Catalog.Reorders

variable {c c' : Catalog} {o' : DeclarationId}

/-- No circle of bases is reached in another order if none is in the first one. -/
theorem grounded_typeLink (h : c.Reorders c')
    (hg : Link.Grounded (typeLink c) (c'.place c o')) : Link.Grounded (typeLink c') o' :=
  Subrelation.accessible (fun hlink => h.symm.embeds.typeLink_place hlink) (InvImage.accessible _ hg)

theorem grounded_elementLink (h : c.Reorders c')
    (hg : Link.Grounded (elementLink c) (c'.place c o')) : Link.Grounded (elementLink c') o' := by
  exact Subrelation.accessible (fun hlink => h.symm.embeds.elementLink_place hlink)
    (InvImage.accessible _ hg)

end Catalog.Reorders

theorem depthDiagnostics_eq_nil {limits : Limits} {depth : Nat} (h : depth ≤ limits.derivationDepth)
    (d : Declaration) (t : TypeDecl) : depthDiagnostics limits d t depth = [] := by
  unfold depthDiagnostics Limits.check
  rw [if_neg (show ¬depth > limits.bound .derivationDepth from not_lt.2 h)]

/-- Nothing is recorded of an element that may stand in for the one that it substitutes. -/
theorem Builder.substitutionDiagnostics_eq_nil {b : Builder} {o : DeclarationId} {e : Element}
    {head : Option ElementId} (d : GlobalElementDecl)
    (hhead : ∀ up, head = some up → up.index < b.schema.elements.size)
    (hallowed : ∀ x, head.bind b.schema.element? = some x →
      substitutionFaults b.schema e x = []) :
    substitutionDiagnostics (b.addElement o e).2.schema d e
      (head.bind (b.addElement o e).2.schema.element?) = [] := by
  rw [substitutionDiagnostics]
  cases hx : head.bind (b.addElement o e).2.schema.element? with
  | none => rfl
  | some x =>
    obtain ⟨up, hup, hx⟩ := Option.bind_eq_some_iff.1 hx
    have hlt := hhead up hup
    have hold : b.schema.element? up = some b.schema.elements[up.index] :=
      Array.getElem?_eq_getElem hlt
    have hext := addElement_extends b o e
    obtain rfl := Option.some.inj (hx.symm.trans (hext.element _ _ hold))
    rw [Option.elim_some, substitutionFaults_mono hext
      (hallowed _ (Option.bind_eq_some_iff.2 ⟨up, hup, hold⟩))]
    rfl

namespace Remake

variable {limits : Limits} {R : Remake limits} {b b' b₁' : Builder} {o o' : DeclarationId}

/-! ## Declarations of the second order -/

theorem orderly (R : Remake limits) : R.made.Orderly R.c := by
  have hidle : (Builder.start R.namespaces).Idle := ⟨rfl, rfl⟩
  have h : (Builder.start R.namespaces).Reports R.c (buildAll R.c limits) _ :=
    Builder.Reports.buildAll hidle
  have h := h (Builder.Orderly.start R.c _)
  rw [R.completes.run] at h
  exact h.1

theorem getAs?_place {α : Type} {as? : Declaration → Option α} {d : Declaration} {a : α}
    (h : R.c.getAs? as? o = some (d, a)) : R.c'.getAs? as? (R.place o) = some (d, a) :=
  R.reorders.getAs?_place h

theorem exists_place_of_type (hd : R.c'.DeclaresType o') :
    ∃ o t, R.place o = o' ∧ R.made.symbol? o = some (.type t) := by
  obtain ⟨d, hget⟩ := Catalog.exists_get? hd
  obtain ⟨o, ho, rfl⟩ := R.reorders.exists_place hget
  obtain ⟨s, hs⟩ := R.completes.exists_symbol (o := o) (by rw [ho]; rfl)
  have hdeclares : R.c.DeclaresType o := by
    rw [Catalog.DeclaresType, ho, ← hget]
    exact hd
  obtain ⟨t, rfl⟩ := R.orderly.exists_type hdeclares (Builder.mem_of_symbol? hs)
  exact ⟨o, t, rfl, hs⟩

theorem exists_place_of_element (hd : R.c'.DeclaresElement o') :
    ∃ o e, R.place o = o' ∧ R.made.symbol? o = some (.element e) := by
  obtain ⟨d, hget⟩ := Catalog.exists_get? hd
  obtain ⟨o, ho, rfl⟩ := R.reorders.exists_place hget
  obtain ⟨s, hs⟩ := R.completes.exists_symbol (o := o) (by rw [ho]; rfl)
  have hdeclares : R.c.DeclaresElement o := by
    rw [Catalog.DeclaresElement, ho, ← hget]
    exact hd
  obtain ⟨e, rfl⟩ := R.orderly.exists_element hdeclares (Builder.mem_of_symbol? hs)
  exact ⟨o, e, rfl, hs⟩

theorem declaresType {t : TypeId} (ho : R.made.symbol? o = some (.type t)) : R.c'.DeclaresType (R.place o) :=
  R.reorders.isSome_place (R.orderly.types o t (Builder.mem_of_symbol? ho)).1

theorem declaresElement {e : ElementId} (ho : R.made.symbol? o = some (.element e)) :
    R.c'.DeclaresElement (R.place o) :=
  R.reorders.isSome_place (R.orderly.elements o e (Builder.mem_of_symbol? ho)).1

theorem grounded_type (hd : R.c'.DeclaresType o') : Link.Grounded (typeLink R.c') o' := by
  have hback := R.reorders.symm.isSome_place hd
  obtain ⟨d, hget⟩ := Catalog.exists_get? hback
  obtain ⟨s, hs⟩ := R.completes.exists_symbol (by rw [hget]; rfl)
  obtain ⟨t, rfl⟩ := R.orderly.exists_type hback (Builder.mem_of_symbol? hs)
  exact R.reorders.grounded_typeLink (R.orderly.types _ t (Builder.mem_of_symbol? hs)).2.1

theorem grounded_element (hd : R.c'.DeclaresElement o') : Link.Grounded (elementLink R.c') o' := by
  have hback := R.reorders.symm.isSome_place hd
  obtain ⟨d, hget⟩ := Catalog.exists_get? hback
  obtain ⟨s, hs⟩ := R.completes.exists_symbol (by rw [hget]; rfl)
  obtain ⟨e, rfl⟩ := R.orderly.exists_element hback (Builder.mem_of_symbol? hs)
  exact R.reorders.grounded_elementLink (R.orderly.elements _ e (Builder.mem_of_symbol? hs)).2.1

/-! ## Types -/

/-- What is above a declaration in the second order is what is above it in the first. -/
theorem Agrees.sends_above (h : R.Agrees b') {t up up' : TypeId} {d : Declaration}
    {decl : TypeDecl} (hs : Builder.TypeSource R.c R.made o t d decl up)
    (habove : b'.Above (·.asType?) (typeLink R.c') (R.place o) up') : R.Sends b' up up' := by
  rcases hs.above with hroot | ⟨p, hnext, hp⟩
  · have hroot' := R.reorders.embeds.typeLink_place hroot
    obtain ⟨k, rfl⟩ := Builder.Ensures.typeLink_root hroot
    rcases habove with h' | ⟨q, h', -⟩
    · cases hroot'.symm.trans h'
      exact sends_builtin k
    · cases hroot'.symm.trans h'
  · have hnext' := R.reorders.embeds.typeLink_place hnext
    rcases habove with h' | ⟨q, h', hq⟩
    · cases hnext'.symm.trans h'
    · cases hnext'.symm.trans h'
      exact h.sends_type (Builder.Takes.symbol_of_asType hp) (Builder.Takes.symbol_of_asType hq)

/-- The number of types above a declared type is within its limit. -/
theorem depth_le {t up : TypeId} {d : Declaration} {decl : TypeDecl}
    (hs : Builder.TypeSource R.c R.made o t d decl up) (ho : R.made.symbol? o = some (.type t)) :
    R.made.schema.depth up + 1 ≤ limits.derivationDepth := by
  have hbase : (R.made.schema.typeDef t).base = some up := by
    obtain ⟨x, hx⟩ := hs.header
    rw [hx]
    rfl
  rw [← Schema.depth_of_base R.inv.ordered hbase]
  refine R.completes.derived.depth R.clean t ⟨?_, R.placed.symbol ho⟩
  exact R.numbered.declared t (List.mem_map_of_mem (Builder.mem_of_symbol? ho))

theorem typeLink_ne_error (hd : R.c'.DeclaresType o') (e : Diagnostic) :
    typeLink R.c' o' ≠ .error e := by
  obtain ⟨o, t, rfl, ho⟩ := exists_place_of_type hd
  obtain ⟨d, decl, up, hsource⟩ := R.sourced.types o t ho
  intro he
  rcases hsource.above with h | ⟨p, h, -⟩
  · cases (R.reorders.embeds.typeLink_place h).symm.trans he
  · cases (R.reorders.embeds.typeLink_place h).symm.trans he

theorem elementLink_ne_error (hd : R.c'.DeclaresElement o') (e : Diagnostic) :
    elementLink R.c' o' ≠ .error e := by
  obtain ⟨o, i, rfl, ho⟩ := exists_place_of_element hd
  obtain ⟨d, decl, t, head, hsource⟩ := R.sourced.elements o i ho
  have hget : (R.c.get? o).isSome := by
    rw [(Catalog.getAs?_eq_some_iff.1 hsource.declared).1]
    rfl
  intro he
  rcases hsource.above with h | ⟨p, h, -⟩
  · cases (R.reorders.embeds.elementLink_place h).symm.trans he
  · cases (R.reorders.embeds.elementLink_place h).symm.trans he

theorem not_transGen_typeLink (x : DeclarationId) :
    ¬TransGen (Link.Leads (typeLink R.c')) x x := by
  intro hx
  obtain ⟨y, hy, -⟩ := TransGen.head'_iff.1 hx
  exact not_transGen_of_acc (grounded_type (Catalog.leads_typeLink.1 hy).declares.1) hx

theorem not_transGen_elementLink (x : DeclarationId) :
    ¬TransGen (Link.Leads (elementLink R.c')) x x := by
  intro hx
  obtain ⟨y, hy, -⟩ := TransGen.head'_iff.1 hx
  exact not_transGen_of_acc (grounded_element (Catalog.leads_elementLink.1 hy).declares.1) hx

namespace Succeeds

theorem createType {t up' : TypeId} (ho : R.made.symbol? o = some (.type t))
    (hnew : b'.symbol? (R.place o) = none)
    (habove : b'.Above (·.asType?) (typeLink R.c') (R.place o) up') :
    R.Succeeds b' (createType R.c' limits up' (R.place o)) fun t' b₁' =>
      ∀ p, b₁'.symbol? p = if p = R.place o then some (.type t') else b'.symbol? p := by
  intro hb
  obtain ⟨d, decl, up, hsource⟩ := R.sourced.types o t ho
  have hup := hb.sends_above hsource habove
  have hdeclares := declaresType ho
  have hhas := Builder.Takes.has_of_above hb.placed habove
  have hroot : ∀ root, typeLink R.c' (R.place o) = .ok (.root root) → up' = root := by
    intro root hroot
    rcases habove with h | ⟨q, h, -⟩
    · cases h.symm.trans hroot
      rfl
    · cases h.symm.trans hroot
  let t' : TypeId := ⟨b'.schema.types.size⟩
  obtain ⟨b₁', hrun, hschema, hfinished, hledger⟩ : ∃ b₁' : Builder,
      (Schemata.createType R.c' limits up' (R.place o)).run b' = .ok (t', b₁') ∧
      b₁'.schema = (b'.addType (R.place o)
        (d.typeDef decl up' (b'.schema.typeDef up'))).2.schema ∧
      b₁'.finished = b'.finished ∧ b₁'.ledger =
        (b'.ledger.extend (decl.baseDiagnostics (b'.schema.typeDef up'))).extend
          (depthDiagnostics limits d decl (b₁'.schema.depth t')) :=
    ⟨_, Builder.run_createType (getAs?_place hsource.declared), rfl, rfl, rfl⟩
  obtain ⟨hs, hinv, hplaced, -, hsymbol⟩ := (Builder.Takes.createType (k := .all) hnew habove).apply
    hb.placed hb.inv hrun
  obtain ⟨horderly, hkeeps, -⟩ := Builder.Reports.apply
    (Builder.Reports.createType hdeclares (grounded_type hdeclares) hhas hroot) hb.orderly hrun
  have hl := hs.lasts
  have hdef : b₁'.schema.typeDef t' = d.typeDef decl up' (b'.schema.typeDef up') := by
    rw [hschema, Builder.typeDef_addType, if_pos rfl]
  have hclean : b₁'.Clean := by
    have hbase : decl.baseDiagnostics (b'.schema.typeDef up') = [] := by
      unfold TypeDecl.baseDiagnostics
      cases hr : decl.base? with
      | none => rfl
      | some r =>
        rw [Option.elim_some, hb.baseFaults_eq hup, hsource.faults (by rw [hr]; rfl)]
        rfl
    have hdepth : b₁'.schema.depth t' ≤ limits.derivationDepth := by
      have hup' : (b₁'.schema.typeDef t').base = some up' := by rw [hdef]; rfl
      rw [Schema.depth_of_base hinv.ordered hup',
        hl.schema.depth_eq hb.inv.ordered.base hhas, hb.depth_eq hup]
      exact depth_le hsource ho
    rw [Builder.Clean, hledger, hbase, depthDiagnostics_eq_nil hdepth]
    exact hb.clean
  have hnot : t' ∉ b'.finished := fun hmem => Nat.lt_irrefl _ (hb.inv.finished t' hmem).has
  refine ⟨t', b₁', hrun, hl, hkeeps, ?_, hsymbol⟩
  refine hb.next hl (hb.reached.trans hs) hinv horderly hclean (fun p u u' hp hnone hp' => ?_)
    (fun p i i' hp hnone hp' => ?_) (fun p i i' hp hnone hp' => ?_)
    fun u u' _ hf hnotf => absurd (hfinished ▸ hf) hnotf
  · obtain ⟨⟨⟩, ⟨⟩⟩ := eq_of_new_symbol ho hsymbol hp hnone hp'
    obtain ⟨x, hx⟩ := hsource.header
    refine ⟨⟨some up', (d.typeDef decl up (R.made.schema.typeDef up)).content, ?_, ?_⟩,
      fun hf => absurd (hfinished ▸ hf) hnot⟩
    · rw [hx]
      exact sends_some (hup.mono hl)
    · have hkind : (b'.schema.typeDef up').kind = (R.made.schema.typeDef up).kind := hb.kind_eq hup
      rw [hdef, hx, d.typeDef_congr decl up' hkind]
      rfl
  · cases (eq_of_new_symbol ho hsymbol hp hnone hp').1
  · cases (eq_of_new_symbol ho hsymbol hp hnone hp').1

/-- Each declaration on a path gets its symbol, if the start of the path has one. -/
theorem createTypes {p : DeclarationId} {chain : List DeclarationId} {root : TypeId}
    (hpath : Path (typeLink R.c') p chain o') (hstart : b'.symbol? p = some (.type root))
    (hn : chain.Nodup) (hnew : ∀ x ∈ chain, b'.symbol? x = none) :
    R.Succeeds b' (chain.foldlM (Schemata.createType R.c' limits) root) fun t' b₁' =>
      b₁'.symbol? o' = some (.type t') := by
  induction hpath generalizing b' root with
  | nil p => exact .pure hstart
  | @cons p x o' rest hstep _ ih =>
    obtain ⟨o, t, rfl, ho⟩ := exists_place_of_type (Catalog.leads_typeLink.1 hstep).declares.1
    obtain ⟨hx, hn⟩ := List.nodup_cons.1 hn
    obtain ⟨hnewx, hnew⟩ := List.forall_mem_cons.1 hnew
    rw [List.foldlM_cons]
    have habove : b'.Above (·.asType?) (typeLink R.c') (R.place o) root :=
      Or.inr ⟨p, hstep, by rw [hstart]; rfl⟩
    refine (createType ho hnewx habove).bind fun t' b₁' _ _ hsymbol => ?_
    refine ih (by rw [hsymbol, if_pos rfl]) hn fun y hy => ?_
    rw [hsymbol, if_neg (ne_of_mem_of_not_mem hy hx)]
    exact hnew y hy

theorem resolveType {t : TypeId} (ho : R.made.symbol? o = some (.type t)) :
    R.Succeeds b' (resolveType R.c' limits (R.place o)) fun t' b₁' => R.Sends b₁' t t' := by
  refine .of_agrees fun hb => ?_
  suffices hsymbol : R.Succeeds b' (Schemata.resolveType R.c' limits (R.place o))
      fun t' b₁' => b₁'.symbol? (R.place o) = some (.type t') from
    hsymbol.mono fun t' b₁' hb₁ ht' => hb₁.sends_type ho ht'
  unfold Schemata.resolveType
  refine .get_bind ?_
  extract_lets circle known
  obtain ⟨⟨root, chain⟩, hclimb⟩ : ∃ r, climb known (typeLink R.c') circle
      (R.c'.declarations.size + 1) [] (R.place o) = .ok r :=
    exists_climb (declaresType ho) (fun x up h => (Catalog.leads_typeLink.1 h).declares.2)
      (fun x d hx => hb.orderly.symbolAs_type_ne_error hx) (fun x d hx => typeLink_ne_error hx d)
      not_transGen_typeLink
      (Catalog.length_le_of_isNext fun h => (Catalog.leads_typeLink.1 h).declares.1)
  refine .orAbort_bind hclimb ?_
  obtain ⟨hc, -, -⟩ := climb_ok hclimb List.nodup_nil (by simp) (by simp)
  have hnew : ∀ x ∈ chain, b'.symbol? x = none := fun x hx =>
    Builder.symbol_eq_none_of_symbolAs (hc.unknown x hx)
  have hpath := path_of_climb hclimb (.nil (R.place o))
  rcases hpath with ⟨p, hp, hpath⟩ | ⟨x, rest, rfl, hroot, hpath⟩
  · exact createTypes hpath
      (Builder.Takes.symbol_of_asType (Builder.symbolAs_eq_some_iff.1 hp)) hc.nodup hnew
  · have hdeclared := forall_mem_of_climb hclimb (declaresType ho)
      (fun h => (Catalog.leads_typeLink.1 h).declares.2) (by simp)
    obtain ⟨q, u, rfl, hq⟩ := exists_place_of_type (hdeclared x List.mem_cons_self)
    obtain ⟨hx, hn⟩ := List.nodup_cons.1 hc.nodup
    obtain ⟨hnewx, hnew⟩ := List.forall_mem_cons.1 hnew
    dsimp only
    rw [List.foldlM_cons]
    refine (createType hq hnewx (Or.inl hroot)).bind fun t' b₁' _ _ hsymbol => ?_
    refine createTypes hpath (by rw [hsymbol, if_pos rfl]) hn fun y hy => ?_
    rw [hsymbol, if_neg (ne_of_mem_of_not_mem hy hx)]
    exact hnew y hy

theorem typeOf {scope : Scope} {r : NameRef} {t : TypeId}
    (h : R.made.NamesType R.c scope r t) :
    R.Succeeds b' (typeOf R.c' limits scope r) fun t' b₁' => R.Sends b₁' t t' := by
  unfold Schemata.typeOf
  obtain ⟨k, hk, rfl⟩ | ⟨o, hresolve, ho⟩ := h
  · refine .orAbort_bind (a := .builtin k) ?_ (.pure (sends_builtin k))
    rw [R.reorders.resolve_eq, hk]
    rfl
  · refine .orAbort_bind (a := .declared (R.place o)) ?_ ?_
    · rw [R.reorders.resolve_eq, hresolve]
      rfl
    · have hdeclares := declaresType ho
      obtain ⟨d, hd⟩ := Catalog.exists_get? hdeclares
      have ht : d.asType?.isSome := by simpa [Catalog.DeclaresType, hd] using hdeclares
      simp only [hd, ht, if_true]
      exact resolveType ho

theorem simpleTypeOf {scope : Scope} {r : NameRef} {t : TypeId}
    (h : R.made.NamesType R.c scope r t) (hk : (R.made.schema.typeDef t).kind.isSimple) :
    R.Succeeds b' (simpleTypeOf R.c' limits scope r) fun t' b₁' => R.Sends b₁' t t' := by
  unfold Schemata.simpleTypeOf
  refine (typeOf h).bind fun t' b₁' _ _ ht => .of_agrees fun hb₁ => .schema_bind ?_
  exact .require_bind (by rw [hb₁.kind_eq ht, hk]) (.pure ht)

end Succeeds

/-! ## Elements -/

theorem Agrees.sends_head (h : R.Agrees b') {i : ElementId} {d : Declaration}
    {decl : GlobalElementDecl} {t : TypeId} {head head' : Option ElementId}
    (hs : Builder.ElementSource R.c R.made o i d decl t head)
    (habove : b'.Above (fun s => s.asElement?.map some) (elementLink R.c') (R.place o) head') :
    R.Sends b' head head' := by
  have hget : (R.c.get? o).isSome := by
    rw [(Catalog.getAs?_eq_some_iff.1 hs.declared).1]
    rfl
  rcases hs.above with hroot | ⟨p, hnext, hp⟩
  · have hroot' := R.reorders.embeds.elementLink_place hroot
    rcases habove with h' | ⟨q, h', -⟩
    · cases hroot'.symm.trans h'
      rw [Builder.Ensures.elementLink_root hroot]
      exact sends_none
    · cases hroot'.symm.trans h'
  · have hnext' := R.reorders.embeds.elementLink_place hnext
    rcases habove with h' | ⟨q, h', hq⟩
    · cases hnext'.symm.trans h'
    · cases hnext'.symm.trans h'
      obtain ⟨j, rfl, hj⟩ := Builder.Takes.symbol_of_asElement hp
      obtain ⟨j', rfl, hj'⟩ := Builder.Takes.symbol_of_asElement hq
      exact sends_some (h.sends_element hj hj')

/-- An element may stand in for another one where it could in the first compilation. -/
theorem Agrees.substitutionFaults_eq_nil (h : R.Agrees b') {e e' x x' : Element}
    (he : R.Sends b' e e') (hx : R.Sends b' x x')
    (hf : substitutionFaults R.made.schema e x = []) :
    substitutionFaults b'.schema e' x' = [] := by
  have hsealed : x'.isSealed = x.isSealed := by rw [hx.eq]; rfl
  have hnullable : e'.isNullable = e.isNullable := by rw [he.eq]; rfl
  have hnullable' : x'.isNullable = x.isNullable := by rw [hx.eq]; rfl
  unfold substitutionFaults at hf ⊢
  rw [List.append_eq_nil_iff, List.append_eq_nil_iff] at hf ⊢
  rw [hsealed, hnullable, hnullable']
  obtain ⟨⟨hs, hd⟩, hn⟩ := hf
  refine ⟨⟨by simpa using hs, ?_⟩, by simpa using hn⟩
  have hd : R.made.schema.derives e.type x.type := by
    by_contra hnot
    rw [if_neg hnot] at hd
    cases hd
  rw [if_pos (h.derives he.of_element.1 hx.of_element.1 hd)]

theorem sends_asReference {g g' : Element} {e e' : ElementId} {span : Option Span}
    (hg : R.Sends b' g g') (he : R.Sends b' e e') :
    R.Sends b' (g.asReference e span) (g'.asReference e' span) := by
  have heq : g'.asReference e' span = { g.asReference e span with
      type := g'.type, substituted := none, referenced := some e' } := by
    rw [hg.eq]
    rfl
  rw [heq]
  exact sends_element hg.of_element.1 sends_none (sends_some he)

/-- The element that is made may stand in for the one that it substitutes. -/
theorem Agrees.allowed (h : R.Agrees b') {i : ElementId} {d : Declaration}
    {decl : GlobalElementDecl} {t : TypeId} {head head' : Option ElementId} {e' : Element}
    (hs : Builder.ElementSource R.c R.made o i d decl t head) (hhead : R.Sends b' head head')
    (he : R.Sends b' (d.element decl t head) e') :
    ∀ x', head'.bind b'.schema.element? = some x' → substitutionFaults b'.schema e' x' = [] := by
  intro x' hx'
  obtain ⟨j', rfl, hj'⟩ := Option.bind_eq_some_iff.1 hx'
  cases head with
  | none => cases hhead.eq
  | some j =>
    obtain ⟨k', hk', hj⟩ := exists_of_sends_some hhead
    cases hk'
    obtain ⟨x, y', hx, hy', hsends⟩ := h.element hj
    obtain rfl := Option.some.inj (hj'.symm.trans hy')
    exact h.substitutionFaults_eq_nil he hsends
      (hs.allowed x (Option.bind_eq_some_iff.2 ⟨j, rfl, hx⟩))

namespace Succeeds

theorem createElement {e : ElementId} {head' : Option ElementId}
    (ho : R.made.symbol? o = some (.element e)) (hnew : b'.symbol? (R.place o) = none)
    (habove : b'.Above (fun s => s.asElement?.map some) (elementLink R.c') (R.place o) head') :
    R.Succeeds b' (createElement R.c' limits head' (R.place o)) fun e' b₁' =>
      ∃ i', e' = some i' ∧ b₁'.symbol? (R.place o) = some (.element i') ∧
        ∀ p, p ≠ R.place o → ¬R.c'.DeclaresType p → b₁'.symbol? p = b'.symbol? p := by
  intro hb
  obtain ⟨d, decl, t, head, hsource⟩ := R.sourced.elements o e ho
  have hget := getAs?_place hsource.declared
  have hdeclares := declaresElement ho
  obtain ⟨t', b₂, ht, -, -, hb₂, hsends⟩ := typeOf hsource.type hb
  obtain ⟨htypes, -, -, hnames⟩ :=
    Builder.Takes.apply (Builder.Takes.typeOf (k := .types) d.scope decl.type) hb.placed hb.inv ht
  have hhead := (hb.sends_head hsource habove).mono htypes.lasts
  have hnew₂ : b₂.symbol? (R.place o) = none :=
    (Builder.symbol_eq_of_typeSteps htypes (Catalog.not_declaresType_of_element hget)).trans hnew
  let made := d.element decl t' head'
  have hmade : R.Sends b₂ (d.element decl t head) made := sends_element hsends hhead sends_none
  have hallowed := hb₂.allowed hsource hhead hmade
  have habove₂ := habove.mono htypes.lasts
  have hrun : (Schemata.createElement R.c' limits head' (R.place o)).run b' =
      .ok (some ⟨b₂.schema.elements.size⟩, (b₂.addElement (R.place o) made).2) := by
    rw [Builder.run_createElement hget ht]
    have hdiagnostics := Builder.substitutionDiagnostics_eq_nil decl (o := R.place o)
      (fun _ hup => habove₂.head hb₂.placed hup) hallowed
    rw [hdiagnostics]
    rfl
  obtain ⟨hs, hinv, -, i', hi', hsymbol, hothers⟩ :=
    (Builder.Takes.createElement hnew habove).apply hb.placed hb.inv hrun
  obtain ⟨horderly, hkeeps, -⟩ := Builder.Reports.apply
    (Builder.Reports.createElement hdeclares (grounded_element hdeclares)) hb.orderly hrun
  have hstep : b₂.Step R.c' limits (b₂.addElement (R.place o) made).2 :=
    .addElement hget hnew₂ habove₂ hnames id fun _ => hallowed
  refine ⟨_, _, hrun, hs.lasts, hkeeps, ?_, i', hi', hsymbol, hothers⟩
  have hadded := fun q => b₂.symbol?_addElement (R.place o) q made
  refine hb₂.next hstep.lasts (hb₂.reached.tail hstep) hinv horderly hb₂.clean
    (fun p u u' hp hnone hp' => ?_) (fun p i i' hp hnone hp' => ?_)
    (fun p i i' hp hnone hp' => ?_) fun u u' _ hf hnotf => absurd hf hnotf
  · cases (eq_of_new_symbol ho hadded hp hnone hp').1
  · cases (eq_of_new_symbol ho hadded hp hnone hp').1
  · obtain ⟨⟨⟩, ⟨⟩⟩ := eq_of_new_symbol ho hadded hp hnone hp'
    refine ⟨_, made, hsource.element, ?_, hmade.mono hstep.lasts⟩
    simp [Schema.element?, Builder.addElement]

/-- Each declaration on a path gets its symbol, if the start of the path has one. -/
theorem createElements {p : DeclarationId} {chain : List DeclarationId} {root : ElementId}
    (hpath : Path (elementLink R.c') p chain o') (hstart : b'.symbol? p = some (.element root))
    (hn : chain.Nodup) (hnew : ∀ x ∈ chain, b'.symbol? x = none) :
    R.Succeeds b' (chain.foldlM (Schemata.createElement R.c' limits) (some root)) fun e' b₁' =>
      ∃ i', e' = some i' ∧ b₁'.symbol? o' = some (.element i') := by
  induction hpath generalizing b' root with
  | nil p => exact .pure ⟨root, rfl, hstart⟩
  | @cons p x o' rest hstep hrest ih =>
    obtain ⟨o, e, rfl, ho⟩ :=
      exists_place_of_element (Catalog.leads_elementLink.1 hstep).declares.1
    obtain ⟨hx, hn⟩ := List.nodup_cons.1 hn
    obtain ⟨hnewx, hnew⟩ := List.forall_mem_cons.1 hnew
    rw [List.foldlM_cons]
    have habove : b'.Above (fun s => s.asElement?.map some) (elementLink R.c') (R.place o)
        (some root) := Or.inr ⟨p, hstep, by rw [hstart]; rfl⟩
    refine (createElement ho hnewx habove).bind fun e' b₁' _ _ ⟨i', he', hi', hothers⟩ => ?_
    subst he'
    refine ih hi' hn fun y hy => ?_
    rw [hothers y (ne_of_mem_of_not_mem hy hx) (hrest.not_declaresType y hy)]
    exact hnew y hy

theorem resolveElement {e : ElementId} (ho : R.made.symbol? o = some (.element e)) :
    R.Succeeds b' (resolveElement R.c' limits (R.place o)) fun e' b₁' => R.Sends b₁' e e' := by
  refine .of_agrees fun hb => ?_
  suffices hsymbol : R.Succeeds b' (Schemata.resolveElement R.c' limits (R.place o))
      fun e' b₁' => b₁'.symbol? (R.place o) = some (.element e') from
    hsymbol.mono fun e' b₁' hb₁ he' => hb₁.sends_element ho he'
  unfold Schemata.resolveElement
  refine .get_bind ?_
  extract_lets circle known
  have hdeclares : ∀ {o up}, Link.Leads (elementLink R.c') o up →
      R.c'.DeclaresElement o ∧ R.c'.DeclaresElement up :=
    fun h => (Catalog.leads_elementLink.1 h).declares
  obtain ⟨⟨root, chain⟩, hclimb⟩ : ∃ r, climb known (elementLink R.c') circle
      (R.c'.declarations.size + 1) [] (R.place o) = .ok r :=
    exists_climb (declaresElement ho) (fun x up h => (hdeclares h).2)
      (fun x d hx => hb.orderly.symbolAs_element_ne_error hx)
      (fun x d hx => elementLink_ne_error hx d) not_transGen_elementLink
      (Catalog.length_le_of_isNext fun h => (hdeclares h).1)
  refine .orAbort_bind hclimb ?_
  obtain ⟨hc, -, -⟩ := climb_ok hclimb List.nodup_nil (by simp) (by simp)
  have hnew : ∀ x ∈ chain, b'.symbol? x = none := fun x hx =>
    Builder.symbol_eq_none_of_symbolAs (hc.unknown x hx)
  have hchain : R.Succeeds b' (chain.foldlM (Schemata.createElement R.c' limits) root)
      fun e' b₁' => ∃ i', e' = some i' ∧ b₁'.symbol? (R.place o) = some (.element i') := by
    rcases path_of_climb hclimb (.nil (R.place o)) with ⟨p, hp, hpath⟩ | ⟨x, rest, rfl, hroot, hpath⟩
    · obtain ⟨i, rfl, hs⟩ :=
        Builder.Takes.symbol_of_asElement (Builder.symbolAs_eq_some_iff.1 hp)
      exact createElements hpath hs hc.nodup hnew
    · have hdeclared := forall_mem_of_climb hclimb (declaresElement ho)
        (fun h => (hdeclares h).2) (by simp)
      obtain ⟨q, u, rfl, hq⟩ := exists_place_of_element (hdeclared x List.mem_cons_self)
      obtain ⟨hx, hn⟩ := List.nodup_cons.1 hc.nodup
      obtain ⟨hnewx, hnew⟩ := List.forall_mem_cons.1 hnew
      rw [List.foldlM_cons]
      refine (createElement hq hnewx (Or.inl hroot)).bind fun e' b₁' _ _ ⟨i', he', hi', hothers⟩ => ?_
      subst he'
      refine createElements hpath hi' hn fun y hy => ?_
      rw [hothers y (ne_of_mem_of_not_mem hy hx) (hpath.not_declaresType y hy)]
      exact hnew y hy
  refine hchain.bind fun e' b₁' _ _ ⟨i', he', hi'⟩ => ?_
  subst he'
  exact .pure hi'

theorem elementOf {scope : Scope} {r : NameRef} {e : ElementId}
    (h : R.made.NamesElement R.c scope r e) :
    R.Succeeds b' (elementOf R.c' limits scope r) fun e' b₁' => R.Sends b₁' e e' := by
  unfold Schemata.elementOf
  obtain ⟨o, hresolve, ho⟩ := h
  extract_lets fault
  refine .orAbort_bind (a := .declared (R.place o)) ?_ ?_
  · rw [R.reorders.resolve_eq, hresolve]
    rfl
  · dsimp only
    rw [if_pos (show ((R.c'.get? (R.place o)).bind (·.asElement?)).isSome from declaresElement ho)]
    exact resolveElement ho

theorem elementReference {scope : Scope} {r : NameRef} {span : Option Span} {e : ElementId}
    {g : Element} (h : R.made.NamesElement R.c scope r e)
    (hg : R.made.schema.element? e = some g) :
    R.Succeeds b' (elementReference R.c' limits scope r span) fun x' b₁' =>
      R.Sends b₁' (e, g.asReference e span) x' := by
  unfold Schemata.elementReference
  refine (elementOf h).bind fun e' b₁' _ _ he => .of_agrees fun hb₁ => .schema_bind ?_
  obtain ⟨x, g', hx, hg', hsends⟩ := hb₁.element he
  obtain rfl := Option.some.inj (hg.symm.trans hx)
  rw [hg']
  exact .pure (sends_pair he (sends_asReference hsends he))

end Succeeds

namespace Yields

theorem typeOf (scope : Scope) (r : NameRef) :
    R.Yields b (typeOf R.c limits scope r) fun t => R.made.schema.Has t ∧
      ∀ b', R.Succeeds b' (typeOf R.c' limits scope r) fun t' b₁' => R.Sends b₁' t t' :=
  .of_takes (Builder.Takes.typeOf scope r) fun _ _ _ hnames hlast =>
    have hnames := hnames.mono hlast
    ⟨hnames.has R.placed, fun _ => .typeOf hnames⟩

theorem simpleTypeOf (scope : Scope) (r : NameRef) :
    R.Yields b (simpleTypeOf R.c limits scope r) fun t =>
      R.made.schema.Has t ∧ (R.made.schema.typeDef t).kind.isSimple ∧
      ∀ b', R.Succeeds b' (simpleTypeOf R.c' limits scope r) fun t' b₁' => R.Sends b₁' t t' :=
  .of_takes (Builder.Takes.simpleTypeOf scope r) fun _ _ _ ⟨hnames, hk⟩ hlast =>
    have hnames := hnames.mono hlast
    have hk := hlast.schema.isSimple (hk (clean_of_lasts hlast))
    ⟨hnames.has R.placed, hk, fun _ => .simpleTypeOf hnames hk⟩

theorem elementReference (scope : Scope) (r : NameRef) (span : Option Span) :
    R.Yields b (elementReference R.c limits scope r span) fun x =>
      ∀ b', R.Succeeds b' (elementReference R.c' limits scope r span) fun x' b₁' =>
        R.Sends b₁' x x' := by
  refine .of_takes (Builder.Takes.elementReference scope r span) fun x _ _ hx hlast b' => ?_
  obtain ⟨e, g'⟩ := x
  obtain ⟨⟨o, ho, hs⟩, g, hg, he⟩ := hx
  obtain rfl : g' = g.asReference e span := he
  exact .elementReference ⟨o, ho, hlast.symbol o _ hs⟩ (hlast.schema.element _ _ hg)

end Yields

end Remake

end Schemata
