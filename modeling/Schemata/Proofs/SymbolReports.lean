import Schemata.Proofs.Reports

/-!
# Symbols that are made or not

What `resolveType`, `resolveElement` and the functions that look up references report. A climb that
stops has met a circle, or a name that does not stand for what it has to. Neither the wrong sort of
symbol nor a missing declaration is ever met, for what is climbed along has been found to declare
the right sort. When a climb is done, everything that it passed is given a symbol.
-/

namespace Schemata

/-- The declaration has a symbol. -/
def Builder.Knows (b : Builder) (o : DeclarationId) : Prop := ∃ s, (o, s) ∈ b.symbols

namespace Catalog

variable {c : Catalog}

open Relation

/-- No declaration declares things of two sorts. -/
theorem declares_disjoint {o : DeclarationId} :
    ¬(c.DeclaresType o ∧ c.DeclaresAttribute o) ∧ ¬(c.DeclaresType o ∧ c.DeclaresElement o) ∧
      ¬(c.DeclaresAttribute o ∧ c.DeclaresElement o) := by
  unfold DeclaresType DeclaresAttribute DeclaresElement
  cases c.get? o with
  | none => simp
  | some d =>
    simp only [Option.bind_some, Declaration.asType?, Declaration.asAttribute?,
      Declaration.asElement?]
    cases d.member <;> simp

/-- The link of a type declaration fails for the name of its base. -/
theorem explains_of_typeLink {o : DeclarationId} (ho : c.DeclaresType o) {d : Diagnostic}
    (h : typeLink c o = .error d) : c.Explains d := by
  rw [DeclaresType, ← isSome_getAs?, Option.isSome_iff_exists] at ho
  obtain ⟨⟨e, t⟩, hget⟩ := ho
  simp only [typeLink, hget] at h
  split at h
  · cases h
  · rename_i r hr
    have hmentions : c.Mentions e.scope (.type r) := by
      refine mentions_of_type hget ?_
      unfold TypeDecl.base? at hr
      cases hbody : t.body <;> simp [hbody] at hr <;> simp [TypeBody.mentions, hr]
    split at h
    · rename_i hresolve
      cases h
      exact explains_of_resolve hmentions rfl hresolve
    · cases h
    · rename_i up hresolve
      split at h
      · cases h
      · rename_i hup
        cases h
        exact explains_fault hmentions (fun hmeets => hup (hmeets.declaresType hresolve)) rfl _

/-- The link of an element declaration fails for the name of the element that it substitutes. -/
theorem explains_of_elementLink {o : DeclarationId} {d : Diagnostic}
    (h : elementLink c o = .error d) : c.Explains d := by
  unfold elementLink at h
  split at h
  · cases h
  · rename_i e decl hget
    split at h
    · cases h
    · rename_i r hr
      have hmentions : c.Mentions e.scope (.element r) :=
        mentions_of_element hget (by simp [MemberDecl.mentions, hr])
      split at h
      · rename_i hresolve
        cases h
        exact explains_of_resolve hmentions rfl hresolve
      · rename_i hresolve
        cases h
        refine explains_fault hmentions (fun hmeets => ?_) rfl _
        obtain ⟨up, hup, -⟩ := hmeets.declaresElement hresolve
        cases hup
      · rename_i up hresolve
        split at h
        · cases h
        · rename_i hup
          cases h
          refine explains_fault hmentions (fun hmeets => ?_) rfl _
          obtain ⟨up', hup', hd⟩ := hmeets.declaresElement hresolve
          cases hup'
          exact hup hd

theorem explains_circleAt {o : DeclarationId} (ho : c.LiesOnCircle o)
    (reference : Declaration → Option NameRef) (passed : List DeclarationId) :
    c.Explains (circleAt c reference passed o) := by
  obtain ⟨d, hd⟩ := ho.exists_get?
  simp only [circleAt, hd]
  exact ⟨rfl, Or.inl ⟨o, d, _, hd, ho, rfl⟩⟩

/-- Along a link, everything that is reached declares things of the sort of the start. -/
theorem declares_of_reached {α β : Type} {link : DeclarationId → Except Diagnostic (Link α)}
    {as? : Declaration → Option β} {o x : DeclarationId}
    (hlink : ∀ {o up}, Link.Leads link o up → ((c.get? up).bind as?).isSome)
    (ho : ((c.get? o).bind as?).isSome) (hx : ReflTransGen (Link.Leads link) o x) :
    ((c.get? x).bind as?).isSome := by
  cases hx with
  | refl => exact ho
  | tail _ hstep => exact hlink hstep

/-- The fuel of a climb is enough. -/
theorem length_le_of_isNext {α β : Type} {link : DeclarationId → Except Diagnostic (Link α)}
    {as? : Declaration → Option β}
    (hlink : ∀ {o up}, Link.Leads link o up → ((c.get? o).bind as?).isSome)
    (l : List DeclarationId) (hl : l.Nodup) (hnext : ∀ x ∈ l, Link.IsNext (link x)) :
    l.length ≤ c.declarations.size := by
  refine length_le_of_nodup hl fun x hx => ?_
  obtain ⟨up, hup⟩ := hnext x hx
  exact index_lt_of_isSome (hlink hup)

end Catalog

namespace Builder

variable {c : Catalog} {b b₁ : Builder} {limits : Limits}

theorem Knows.mono {o : DeclarationId} (h : b.Knows o) (hk : b.Keeps b₁) : b₁.Knows o := by
  obtain ⟨s, hs⟩ := h
  exact ⟨s, hk.symbols hs⟩

theorem knows_of_symbolAs {α : Type} {sort : String} {as? : SymbolId → Option α}
    {o : DeclarationId} {a : α} (h : b.symbolAs sort as? o = .ok (some a)) : b.Knows o := by
  obtain ⟨s, hs, -⟩ := Option.bind_eq_some_iff.1 (symbolAs_eq_some_iff.1 h)
  exact ⟨s, mem_of_symbol? hs⟩

theorem exists_symbol_of_error {α : Type} {sort : String} {as? : SymbolId → Option α}
    {o : DeclarationId} {d : Diagnostic} (h : b.symbolAs sort as? o = .error d) :
    ∃ s, (o, s) ∈ b.symbols ∧ as? s = none := by
  unfold symbolAs at h
  split at h
  · cases h
  · rename_i s hs
    split at h
    · cases h
    · rename_i ha
      exact ⟨s, mem_of_symbol? hs, ha⟩

namespace Orderly

variable {sort : String} {o : DeclarationId} {s : SymbolId} {d : Diagnostic}

/-- The symbol of a type declaration is a type. -/
theorem exists_type (ho : b.Orderly c) (hd : c.DeclaresType o) (hs : (o, s) ∈ b.symbols) :
    ∃ t, s = .type t := by
  cases s with
  | type t => exact ⟨t, rfl⟩
  | attr a => exact absurd ⟨hd, (ho.attributes o a hs).1⟩ Catalog.declares_disjoint.1
  | element e => exact absurd ⟨hd, (ho.elements o e hs).1⟩ Catalog.declares_disjoint.2.1

/-- The symbol of an attribute declaration is an attribute. -/
theorem exists_attribute (ho : b.Orderly c) (hd : c.DeclaresAttribute o)
    (hs : (o, s) ∈ b.symbols) : ∃ a, s = .attr a := by
  cases s with
  | type t => exact absurd ⟨(ho.types o t hs).1, hd⟩ Catalog.declares_disjoint.1
  | attr a => exact ⟨a, rfl⟩
  | element e => exact absurd ⟨hd, (ho.elements o e hs).1⟩ Catalog.declares_disjoint.2.2

/-- The symbol of an element declaration is an element. -/
theorem exists_element (ho : b.Orderly c) (hd : c.DeclaresElement o) (hs : (o, s) ∈ b.symbols) :
    ∃ e, s = .element e := by
  cases s with
  | type t => exact absurd ⟨(ho.types o t hs).1, hd⟩ Catalog.declares_disjoint.2.1
  | attr a => exact absurd ⟨(ho.attributes o a hs).1, hd⟩ Catalog.declares_disjoint.2.2
  | element e => exact ⟨e, rfl⟩

theorem symbolAs_type_ne_error (ho : b.Orderly c) (hd : c.DeclaresType o) :
    b.symbolAs sort (·.asType?) o ≠ .error d := by
  intro h
  obtain ⟨s, hs, hnone⟩ := exists_symbol_of_error h
  obtain ⟨t, rfl⟩ := ho.exists_type hd hs
  cases hnone

theorem symbolAs_attribute_ne_error (ho : b.Orderly c) (hd : c.DeclaresAttribute o) :
    b.symbolAs sort (·.asAttribute?) o ≠ .error d := by
  intro h
  obtain ⟨s, hs, hnone⟩ := exists_symbol_of_error h
  obtain ⟨a, rfl⟩ := ho.exists_attribute hd hs
  cases hnone

theorem symbolAs_element_ne_error (ho : b.Orderly c) (hd : c.DeclaresElement o) :
    b.symbolAs sort (fun s => s.asElement?.map some) o ≠ .error d := by
  intro h
  obtain ⟨s, hs, hnone⟩ := exists_symbol_of_error h
  obtain ⟨e, rfl⟩ := ho.exists_element hd hs
  cases hnone

/-- What has a symbol that is a type reaches no circle. -/
theorem grounded_type (ho : b.Orderly c) {t : TypeId}
    (h : b.symbolAs sort (·.asType?) o = .ok (some t)) :
    Link.Grounded (typeLink c) o ∧ b.schema.Has t := by
  obtain ⟨s, hs, ht⟩ := Option.bind_eq_some_iff.1 (symbolAs_eq_some_iff.1 h)
  cases s with
  | type u =>
    cases ht
    exact (ho.types o t (mem_of_symbol? hs)).2
  | attr a => cases ht
  | element e => cases ht

/-- What has a symbol that is an element reaches no circle. -/
theorem grounded_element (ho : b.Orderly c) {e : Option ElementId}
    (h : b.symbolAs sort (fun s => s.asElement?.map some) o = .ok (some e)) :
    Link.Grounded (elementLink c) o ∧ ∃ i, e = some i ∧ (b.schema.element? i).isSome := by
  obtain ⟨s, hs, he⟩ := Option.bind_eq_some_iff.1 (symbolAs_eq_some_iff.1 h)
  cases s with
  | type t => cases he
  | attr a => cases he
  | element i =>
    cases he
    obtain ⟨-, hg, hi⟩ := ho.elements o i (mem_of_symbol? hs)
    exact ⟨hg, i, rfl, hi⟩

end Orderly

namespace Reports

/-! ## Types -/

theorem ordinary_baseFaults (t : TypeDef) : ∀ f ∈ baseFaults t, f.code.isFinal = false := by
  unfold baseFaults
  rw [List.forall_mem_append]
  constructor
  · split <;> simp [Fault.code, Code.isFinal, Code.isLookup]
  · split
    · simp
    · split
      · simp [Fault.code, Code.isFinal, Code.isLookup]
      · split <;> simp [Fault.code, Code.isFinal, Code.isLookup]

/-- The kind that a declaration gives to a type is simple only if that of its base is. -/
theorem simple_of_header (ho : b.Orderly c) {id : DeclarationId} {d : Declaration} {t : TypeDecl}
    (hget : c.getAs? (·.asType?) id = some (d, t)) {base : TypeId}
    (hroot : ∀ root, typeLink c id = .ok (.root root) → base = root)
    (h : (t.header (b.schema.typeDef base)).1.isSimple) :
    (b.schema.typeDef base).kind.isSimple := by
  cases hbody : t.body with
  | list item =>
    have hlink : typeLink c id = .ok (.root Kind.listType.typeId) := by
      simp [typeLink, hget, TypeDecl.base?, TypeDecl.implicitBase, hbody]
    rw [hroot _ hlink, ho.typeDef_builtin]
    rfl
  | complex _ _ | extension _ _ _ =>
    rw [TypeDecl.header, hbody] at h
    cases h
  | restriction _ _ _ _ =>
    simpa only [TypeDecl.header, hbody] using h

theorem createType {base : TypeId} {id : DeclarationId} (hd : c.DeclaresType id)
    (hg : Link.Grounded (typeLink c) id) (hbase : b.schema.Has base)
    (hroot : ∀ root, typeLink c id = .ok (.root root) → base = root) :
    b.Reports c (createType c limits base id) fun t b₁ => b₁.schema.Has t ∧ b₁.Knows id := by
  refine .of_orderly fun ho => ?_
  unfold Schemata.createType
  split
  · rename_i hget
    rw [Catalog.DeclaresType, ← Catalog.isSome_getAs?, hget] at hd
    cases hd
  · rename_i d t hget
    refine .schema_bind ?_
    extract_lets baseDef jp
    have hsimple := simple_of_header ho hget hroot
    have hjp : ∀ l u, Builder.Reports { b with ledger := l } c (jp u) fun t b₁ =>
        b₁.schema.Has t ∧ b₁.Knows id := by
      intro l u
      refine .bind (addType hd hg rfl hbase hsimple) fun u b₁ _ _ h₁ => .schema_bind ?_
      obtain ⟨hu, hmem⟩ := h₁
      dsimp only
      split
      · exact .pure ⟨hu, _, hmem⟩
      · refine (fault (by rfl) _).bind fun v b₂ _ _ h₂ => .pure ?_
        obtain ⟨l', rfl⟩ := h₂
        exact ⟨hu, _, hmem⟩
    split
    · exact hjp b.ledger ()
    · refine (faults (ordinary_baseFaults _) _).bind fun v b₁ _ _ h₁ => ?_
      obtain ⟨l, rfl⟩ := h₁
      exact hjp l v

theorem createTypes {chain : List DeclarationId} {root : TypeId}
    (hd : ∀ x ∈ chain, c.DeclaresType x) (hg : ∀ x ∈ chain, Link.Grounded (typeLink c) x)
    (hroot : b.schema.Has root)
    (hlinks : ∀ x rest, chain = x :: rest →
      (∀ a, typeLink c x = .ok (.root a) → root = a) ∧ ∀ y ∈ rest, Link.IsNext (typeLink c y)) :
    b.Reports c (chain.foldlM (Schemata.createType c limits) root) fun t b₁ =>
      b₁.schema.Has t ∧ ∀ x ∈ chain, b₁.Knows x := by
  induction chain generalizing b root with
  | nil => exact .pure ⟨hroot, by simp⟩
  | cons x chain ih =>
    obtain ⟨hdx, hd⟩ := List.forall_mem_cons.1 hd
    obtain ⟨hgx, hg⟩ := List.forall_mem_cons.1 hg
    obtain ⟨hx₀, hnext⟩ := hlinks x chain rfl
    rw [List.foldlM_cons]
    refine (createType hdx hgx hroot hx₀).bind fun t b₁ _ _ ⟨ht, hknows⟩ => ?_
    have hlinks₁ : ∀ y rest, chain = y :: rest →
        (∀ a, typeLink c y = .ok (.root a) → t = a) ∧ ∀ z ∈ rest, Link.IsNext (typeLink c z) := by
      rintro y rest rfl
      obtain ⟨⟨up, hy⟩, hrest⟩ := List.forall_mem_cons.1 hnext
      exact ⟨fun a ha => by simp [hy] at ha, hrest⟩
    refine (ih hd hg ht hlinks₁).mono fun u b₂ _ hk ⟨hu, hchain⟩ => ⟨hu, ?_⟩
    exact List.forall_mem_cons.2 ⟨hknows.mono hk, hchain⟩

theorem resolveType {id : DeclarationId} (hid : c.DeclaresType id) :
    b.Reports c (resolveType c limits id) fun t b₁ => b₁.schema.Has t ∧ b₁.Knows id := by
  refine .of_orderly fun ho => ?_
  unfold Schemata.resolveType
  refine .get_bind ?_
  extract_lets circle known
  have hdeclares : ∀ {o up}, Link.Leads (typeLink c) o up →
      c.DeclaresType o ∧ c.DeclaresType up := fun h => (Catalog.leads_typeLink.1 h).declares
  refine .orAbort_bind (fun d hclimb => ?_) fun ⟨root, chain⟩ hclimb => ?_
  · have hstopped := stopped_of_climb hclimb
      (Catalog.length_le_of_isNext fun h => (hdeclares h).1) (by simp) List.nodup_nil
      (by simp) (by simp)
    cases hstopped with
    | known reached hx =>
      have hx' := Catalog.declares_of_reached (fun h => (hdeclares h).2) hid reached
      -- what is climbed along declares types, which have no symbols of another sort
      exact absurd hx (ho.symbolAs_type_ne_error hx')
    | link reached hx =>
      have hx' := Catalog.declares_of_reached (fun h => (hdeclares h).2) hid reached
      exact Catalog.explains_of_typeLink hx' hx
    | circle hx hd =>
      rw [hd]
      refine Catalog.explains_circleAt (Or.inl ?_) _ _
      exact Relation.TransGen.mono (fun _ _ h => Catalog.leads_typeLink.1 h) _ _ hx
  · obtain ⟨hc, -, hmem⟩ := climb_ok hclimb List.nodup_nil (by simp) (by simp)
    have hgrounded := grounded_of_climb hclimb (fun x t hx => (ho.grounded_type hx).1) (by simp)
    have hhas : b.schema.Has root := by
      rcases hc.root with ⟨x, hx⟩ | ⟨x, hx⟩
      · exact (ho.grounded_type hx).2
      · obtain ⟨k, rfl⟩ := Ensures.typeLink_root hx
        exact ho.has_typeId k
    have hdeclared := forall_mem_of_climb hclimb hid (fun h => (hdeclares h).2) (by simp)
    refine (createTypes hdeclared hgrounded hhas hc.forall_root).mono
      fun t b₁ _ hk ⟨ht, hchain⟩ => ⟨ht, ?_⟩
    -- either the declaration was passed, or the climb ended where it began
    rcases hmem with hmem | hknown
    · exact hchain id hmem
    · exact (knows_of_symbolAs hknown).mono hk

theorem typeOf {scope : Scope} {r : NameRef} (hm : c.Mentions scope (.type r)) :
    b.Reports c (typeOf c limits scope r) fun t b₁ => b₁.schema.Has t := by
  refine .of_orderly fun ho => ?_
  unfold Schemata.typeOf
  refine .orAbort_bind (fun d h => Catalog.explains_of_resolve hm rfl h) fun referent h => ?_
  cases referent with
  | builtin k => exact .pure (ho.has_typeId k)
  | declared id =>
    dsimp only
    split
    · rename_i hget
      refine abort (Catalog.explains_fault hm (fun hmeets => ?_) rfl _)
      simpa [Catalog.DeclaresType, hget] using hmeets.declaresType h
    · rename_i d hget
      have hdeclares : d.asType?.isSome ↔ c.DeclaresType id := by
        simp [Catalog.DeclaresType, hget]
      split
      · rename_i ht
        exact (resolveType (hdeclares.1 ht)).mono fun _ _ _ _ h => h.1
      · rename_i ht
        refine abort (Catalog.explains_fault hm (fun hmeets => ?_) rfl _)
        exact ht (hdeclares.2 (hmeets.declaresType h))

theorem simpleTypeOf {scope : Scope} {r : NameRef} (hm : c.Mentions scope (.type r)) :
    b.Reports c (simpleTypeOf c limits scope r) fun t b₁ => b₁.schema.Has t := by
  unfold Schemata.simpleTypeOf
  refine (typeOf hm).bind fun t b₁ _ _ ht => .schema_bind ?_
  exact (require _ (by rfl) _).bind fun _ b₂ _ hk _ => .pure (hk.schema.has ht)

/-! ## Elements -/

theorem ordinary_substitutionFaults (s : Schema) (e head : Element) :
    ∀ f ∈ substitutionFaults s e head, f.code.isFinal = false := by
  simp only [substitutionFaults, List.forall_mem_append]
  refine ⟨⟨?_, ?_⟩, ?_⟩ <;> split <;> simp [Fault.code, Code.isFinal, Code.isLookup]

theorem createElement {head : Option ElementId} {id : DeclarationId} (hd : c.DeclaresElement id)
    (hg : Link.Grounded (elementLink c) id) :
    b.Reports c (createElement c limits head id) fun e b₁ =>
      (∃ i, e = some i ∧ (b₁.schema.element? i).isSome) ∧ b₁.Knows id := by
  unfold Schemata.createElement
  split
  · rename_i hget
    rw [Catalog.DeclaresElement, ← Catalog.isSome_getAs?, hget] at hd
    cases hd
  · rename_i d e hget
    have hm : c.Mentions d.scope (.type e.type) :=
      Catalog.mentions_of_element hget (by simp [MemberDecl.mentions])
    refine (typeOf hm).bind fun t b₁ _ _ _ => ?_
    extract_lets element
    refine (addElement hd hg).bind fun i b₂ _ _ ⟨hi, hmem⟩ => .schema_bind ?_
    extract_lets jp
    have hjp : ∀ l u, Builder.Reports { b₂ with ledger := l } c (jp u) fun e b₁ =>
        (∃ i, e = some i ∧ (b₁.schema.element? i).isSome) ∧ b₁.Knows id :=
      fun l u => .pure ⟨⟨i, rfl, hi⟩, _, hmem⟩
    split
    · exact hjp b₂.ledger ()
    · refine (faults (ordinary_substitutionFaults _ _ _) _).bind fun v b₃ _ _ ⟨l, hl⟩ => ?_
      subst hl
      exact hjp l v

theorem createElements {chain : List DeclarationId} {root : Option ElementId}
    (hd : ∀ x ∈ chain, c.DeclaresElement x) (hg : ∀ x ∈ chain, Link.Grounded (elementLink c) x)
    (hroot : chain = [] → ∃ i, root = some i ∧ (b.schema.element? i).isSome) :
    b.Reports c (chain.foldlM (Schemata.createElement c limits) root) fun e b₁ =>
      (∃ i, e = some i ∧ (b₁.schema.element? i).isSome) ∧ ∀ x ∈ chain, b₁.Knows x := by
  induction chain generalizing b root with
  | nil => exact .pure ⟨hroot rfl, by simp⟩
  | cons x chain ih =>
    obtain ⟨hdx, hd⟩ := List.forall_mem_cons.1 hd
    obtain ⟨hgx, hg⟩ := List.forall_mem_cons.1 hg
    rw [List.foldlM_cons]
    refine (createElement hdx hgx).bind fun e b₁ _ _ ⟨he, hknows⟩ => ?_
    refine (ih hd hg fun _ => he).mono fun u b₂ _ hk ⟨hu, hchain⟩ => ⟨hu, ?_⟩
    exact List.forall_mem_cons.2 ⟨hknows.mono hk, hchain⟩

theorem resolveElement {id : DeclarationId} (hid : c.DeclaresElement id) :
    b.Reports c (resolveElement c limits id) fun e b₁ =>
      (b₁.schema.element? e).isSome ∧ b₁.Knows id := by
  refine .of_orderly fun ho => ?_
  unfold Schemata.resolveElement
  refine .get_bind ?_
  extract_lets circle known
  have hdeclares : ∀ {o up}, Link.Leads (elementLink c) o up →
      c.DeclaresElement o ∧ c.DeclaresElement up :=
    fun h => (Catalog.leads_elementLink.1 h).declares
  refine .orAbort_bind (fun d hclimb => ?_) fun ⟨root, chain⟩ hclimb => ?_
  · have hstopped := stopped_of_climb hclimb
      (Catalog.length_le_of_isNext fun h => (hdeclares h).1) (by simp) List.nodup_nil
      (by simp) (by simp)
    cases hstopped with
    | known reached hx =>
      have hx' := Catalog.declares_of_reached (fun h => (hdeclares h).2) hid reached
      exact absurd hx (ho.symbolAs_element_ne_error hx')
    | link reached hx => exact Catalog.explains_of_elementLink hx
    | circle hx hd =>
      rw [hd]
      refine Catalog.explains_circleAt (Or.inr ?_) _ _
      exact Relation.TransGen.mono (fun _ _ h => Catalog.leads_elementLink.1 h) _ _ hx
  · obtain ⟨hc, -, hmem⟩ := climb_ok hclimb List.nodup_nil (by simp) (by simp)
    have hgrounded := grounded_of_climb hclimb (fun x e hx => (ho.grounded_element hx).1) (by simp)
    have hdeclared := forall_mem_of_climb hclimb hid (fun h => (hdeclares h).2) (by simp)
    have hroot : chain = [] → ∃ i, root = some i ∧ (b.schema.element? i).isSome := by
      rintro rfl
      rcases hmem with hmem | hknown
      · cases hmem
      · exact (ho.grounded_element hknown).2
    refine (createElements hdeclared hgrounded hroot).bind fun e b₁ _ hk ⟨⟨i, he, hi⟩, hchain⟩ => ?_
    subst he
    refine .pure ⟨hi, ?_⟩
    rcases hmem with hmem | hknown
    · exact hchain id hmem
    · exact (knows_of_symbolAs hknown).mono hk

theorem elementOf {scope : Scope} {r : NameRef} (hm : c.Mentions scope (.element r)) :
    b.Reports c (elementOf c limits scope r) fun e b₁ => (b₁.schema.element? e).isSome := by
  unfold Schemata.elementOf
  extract_lets fault
  refine .orAbort_bind (fun d h => Catalog.explains_of_resolve hm rfl h) fun referent h => ?_
  cases referent with
  | builtin k =>
    refine abort (Catalog.explains_fault hm (fun hmeets => ?_) rfl _)
    obtain ⟨id, hid, -⟩ := hmeets.declaresElement h
    cases hid
  | declared id =>
    dsimp only
    split
    · rename_i he
      exact (resolveElement he).mono fun _ _ _ _ h => h.1
    · rename_i he
      refine abort (Catalog.explains_fault hm (fun hmeets => ?_) rfl _)
      obtain ⟨id', hid, hd⟩ := hmeets.declaresElement h
      cases hid
      exact he hd

theorem elementReference {scope : Scope} {r : NameRef} (hm : c.Mentions scope (.element r))
    (span : Option Span) :
    b.Reports c (elementReference c limits scope r span) fun _ _ => True := by
  unfold Schemata.elementReference
  refine (elementOf hm).bind fun id b₁ _ _ hid => .schema_bind ?_
  split
  · exact .pure trivial
  · rename_i hnone
    rw [hnone] at hid
    cases hid

end Reports

end Builder

end Schemata
