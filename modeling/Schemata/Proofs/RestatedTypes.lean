import Schemata.Proofs.Enlargement
import Schemata.Proofs.Restatements
import Schemata.Proofs.SetKinds

/-!
# Types that restate their base

A type may restrict another one of its namespace with the very blocks which that declares
(`TypeDecl.Restates`). Wherever such a type is added behind its base, namespaces that were accepted
are still accepted, nothing is recorded, and both types have the same attributes and children. What
is added to a namespace as its last member is behind everything in it.
-/

namespace Schemata

/-- A type restricts another one of its namespace, which may be derived from and has a body of its
own without a default value, with exactly the blocks of that body. -/
structure TypeDecl.Restates (u t : TypeDecl) (c : Catalog) (scope : Scope)
    (attributes : Option AttributeBlock) (children : Option ChildrenDecl) (r : NameRef) :
    Prop where
  body : t.body = .complex attributes children
  unsealed : t.isSealed = false
  plain : ∀ block, attributes = some block → ∀ item ∈ block.items, item.IsPlain
  restricts : u.body = .restriction r none attributes children
  target : c.target? scope r = some ⟨scope.uri, t.name.text⟩

/-- A type restricts another one and has the same attributes and children. -/
structure Schema.Restates (s : Schema) (id up : TypeId) : Prop where
  base : (s.typeDef id).base = some up
  derivation : (s.typeDef id).derivation = .restriction
  content : ∃ x, (s.typeDef up).asComplex? = some x ∧ (s.typeDef id).asComplex? = some x

namespace Builder

variable {c : Catalog} {limits : Limits} {s : Schema} {b e : Builder}

/-! ## What a type declares itself -/

theorem Takes.ownsContent (he : e.Becomes c s) (scope : Scope)
    (attributes : Option AttributeBlock) (children : Option ChildrenDecl) :
    b.Takes c limits .all (Schemata.ownContent c limits scope attributes children) fun x b₁ =>
      b₁.Lasts e → Attribute.Extension s c scope none attributes x.attributes ∧
        Children.Declared s c scope children x.children := by
  unfold Schemata.ownContent
  have hattributes : b.Takes c limits .all
      (attributes.mapM fun block => Schemata.addAttributes c limits scope block.items [])
      fun r b₁ => b₁.Lasts e → Attribute.Extension s c scope none attributes r := by
    cases attributes with
    | none => exact .pure fun _ => ⟨rfl, [], rfl, rfl⟩
    | some block =>
      refine .map ((appendsAttributes he scope block.items []).mono fun r b₁ _ hr hlast => ?_)
      exact ⟨rfl, hr hlast⟩
  refine hattributes.bind fun r b₁ _ hr => ?_
  have hchildren : b₁.Takes c limits .all (children.mapM (Schemata.makeChildren c limits scope))
      fun x b₂ => b₂.Lasts e → Children.Declared s c scope children x := by
    cases children with
    | none => exact .pure fun _ => .none
    | some d => exact .map (declaresChildren he scope d)
  exact hchildren.bind fun x b₂ hl hx => .pure fun hlast => ⟨hr (hl.trans hlast), hx hlast⟩

namespace Completes

variable {namespaces : List NamespaceDecl}

section

variable (h : e.Completes namespaces limits) {o : DeclarationId} {id : TypeId}
  (hid : e.symbol? o = some (.type id)) {d : Declaration} {t : TypeDecl}
  (hget : (Catalog.ofNamespaces namespaces).1.getAs? (·.asType?) o = some (d, t))
  {attributes : Option AttributeBlock} {children : Option ChildrenDecl}
  (ht : t.body = .complex attributes children)

include h hid hget ht

/-- A type with a body of its own is right below the root of the complex types. -/
theorem header_of_complex : ∃ x, e.schema.typeDef id =
    { d.typeDef t Kind.complexType.typeId Kind.complexType.builtin with content := x } := by
  obtain ⟨d', t', up, declared, above, ⟨x, hheader⟩, -⟩ := h.sourced.types o id hid
  cases hget.symm.trans declared
  obtain rfl := above.eq_implicitBase hget (by rw [TypeDecl.base?, ht])
  have hroot : t.implicitBase = .complexType := by rw [TypeDecl.implicitBase, ht]
  rw [hroot, h.inv.typeDef_builtin] at hheader
  exact ⟨x, hheader⟩

theorem base_of_complex : (e.schema.typeDef id).base = some Kind.complexType.typeId := by
  obtain ⟨x, hheader⟩ := h.header_of_complex hid hget ht
  rw [hheader]
  rfl

theorem kind_of_complex : (e.schema.typeDef id).kind = .complexType := by
  obtain ⟨x, hheader⟩ := h.header_of_complex hid hget ht
  rw [hheader]
  simp [Declaration.typeDef, TypeDecl.header, ht]

theorem depth_of_complex : e.schema.depth id = 1 := by
  have hroot : e.schema.depth Kind.complexType.typeId = 0 :=
    Schema.depth_of_root (by rw [h.inv.typeDef_builtin]; rfl)
  rw [Schema.depth_of_base h.inv.ordered (h.base_of_complex hid hget ht), hroot]

/-- Nothing is wrong with it as a base unless it is sealed. -/
theorem baseFaults_of_complex (hsealed : t.isSealed = false) :
    baseFaults (e.schema.typeDef id) = [] := by
  obtain ⟨x, hheader⟩ := h.header_of_complex hid hget ht
  obtain ⟨hd, -⟩ := Catalog.getAs?_eq_some_iff.1 hget
  have hsystem := h.registers.unreserved d (Array.mem_of_getElem? hd)
  rw [hheader, baseFaults_congr, baseFaults, TypeDef.isSystem]
  simp [Declaration.typeDef, hsealed, hsystem]

/-- It has what its blocks declare. -/
theorem complex_run (he : e.Becomes (Catalog.ofNamespaces namespaces).1 s) :
    ∃ x, (e.schema.typeDef id).asComplex? = some x ∧
      Attribute.Extension s (Catalog.ofNamespaces namespaces).1 d.scope none attributes
        x.attributes ∧
      Children.Declared s (Catalog.ofNamespaces namespaces).1 d.scope children x.children := by
  obtain ⟨x, b₀, b₁, hx, hsource, -, hrun⟩ :=
    h.content_run hid hget (h.base_of_complex hid hget ht) (h.kind_of_complex hid hget ht)
  refine ⟨x, hx, ?_⟩
  rw [complexContent, run_schema_bind, ht] at hrun
  obtain ⟨-, -, -, hx⟩ := (Takes.ownsContent he d.scope attributes children).apply
    hsource.placed hsource.inv hrun
  exact hx hsource.lasts

end

/-- A builder that knows every declaration has every type. -/
theorem has_of_knows (h : e.Completes namespaces limits)
    (hb : b.Inv (Catalog.ofNamespaces namespaces).1)
    (hn : b.Numbered (Catalog.ofNamespaces namespaces).1) (hl : b.Lasts e)
    (hknows : ∀ o, ((Catalog.ofNamespaces namespaces).1.get? o).isSome → (b.symbol? o).isSome)
    {t : TypeId} (ht : e.schema.Has t) : b.schema.Has t := by
  rcases h.numbered.issued (.type t) ht with ⟨k, hk⟩ | hmem
  · cases hk
    exact hb.has_of_builtin k.rank_lt
  · obtain ⟨⟨o, _⟩, hmem, rfl⟩ := List.mem_map.1 hmem
    obtain ⟨d, hd, -⟩ := h.numbered.declares o _ hmem
    obtain ⟨i, hi⟩ := Option.isSome_iff_exists.1 (hknows o (by rw [hd]; rfl))
    obtain rfl : i = .type t :=
      Option.some.inj ((hl.symbol o i hi).symm.trans (h.numbered.eq_of_symbol hmem))
    obtain ⟨⟨scope, m⟩, -, hdeclares⟩ := hn.declares o _ (mem_of_symbol? hi)
    cases m with
    | type t => exact hdeclares.1
    | attr a => exact hdeclares.elim
    | element e => exact hdeclares.elim

end Completes

end Builder

namespace Enlargement

variable {limits : Limits} (E : Enlargement limits)

/-- The new type makes the content of its base if it restates it. -/
theorem exists_makes {t : TypeDecl}
    (hget : E.c.getAs? (·.asType?) E.base = some (⟨E.scope, .type t⟩, t))
    {attributes : Option AttributeBlock} {children : Option ChildrenDecl} {r : NameRef}
    (h : E.decl.Restates t E.c E.scope attributes children r) :
    ∃ x, (E.made.schema.typeDef E.up).asComplex? = some x ∧ E.Makes x := by
  have hc := E.completes
  have hbecomes := hc.becomes
  obtain ⟨x, hx, hattributes, hchildren⟩ := hc.complex_run E.symbol hget h.body hbecomes
  have htidy : x.Tidy := (hc.accepts.sound.content E.up x (hbecomes.typeDef E.up ▸ hx)).tidy
    (hc.arranged E.up hx)
  have hcontent : (E.made.schema.typeDef E.up).content = .complex x := by
    unfold TypeDef.asComplex? at hx
    split at hx
    · cases hx
    · rename_i y hy
      cases hx
      exact hy
  have hplaces := hc.placed.contents E.up
  rw [hcontent] at hplaces
  refine ⟨x, hx, fun b hb hn hl hknows hbelow => ?_⟩
  obtain ⟨hhas, hfinished⟩ := hbelow E.up (Nat.lt_succ_self _)
  have hextended : (b.schema.typeDef E.up).extended E.up = x :=
    TypeDef.extended_of_complex (by rw [← hl.typeDef_eq hb hc.inv hhas hfinished, hx]) E.up
  have hsimple : ∀ t ∈ (Content.complex x).simpleTypes, (b.schema.typeDef t).kind.isSimple := by
    intro t ht
    have hmade := hplaces.simple hc.clean t ht
    have hhas := hc.has_of_knows hb hn hl hknows (Schema.has_of_isSimple hmade)
    rwa [hl.schema.kind t hhas] at hmade
  have hvalue : ∀ t, x.children = some (.simple t) → t ∈ (Content.complex x).simpleTypes := by
    intro t ht
    simp [Content.simpleTypes, Children.simpleTypes, ht]
  rw [complexContent, Builder.run_schema_bind, h.restricts]
  dsimp only
  rw [hextended]
  exact (hbecomes.familiar hknows hn hl).run_restrictionContent E.scope hattributes hchildren
    h.plain htidy (fun a ha => hsimple _ (List.mem_append_left _ (List.mem_map_of_mem ha)))
    fun t ht => hsimple t (hvalue t ht)

variable {E}

/-- Nothing is recorded. -/
theorem Ends.entries_eq {n : Nat} {x : ComplexContent} {e' : Builder} (h : E.Ends n x e') :
    e'.ledger.entries.toList = [] := by
  have hclean : E.made.ledger.entries.toList.any (·.isError) = false := by
    rw [← Ledger.hasErrors_eq]
    exact E.completes.clean
  rw [h.mirrors.ledger]
  refine List.eq_nil_iff_forall_not_mem.2 fun d hd => ?_
  exact List.any_eq_false.1 hclean d hd (h.mirrors.errors d hd)

/-- Both types are found, and they have the same content. -/
theorem Ends.restates {n : Nat} {x : ComplexContent} {e' : Builder} (h : E.Ends n x e')
    (hc : e'.Completes E.namespaces' limits)
    (hx : (E.made.schema.typeDef E.up).asComplex? = some x) {t : TypeDecl}
    (hget : E.c.getAs? (·.asType?) E.base = some (⟨E.scope, .type t⟩, t))
    {attributes : Option AttributeBlock} {children : Option ChildrenDecl} {r : NameRef}
    (hbody : E.decl.body = .restriction r none attributes children) :
    let s' := e'.published E.c'
    s'.lookupType ⟨E.scope.uri, t.name.text⟩ = some E.up ∧
      s'.lookupType ⟨E.scope.uri, E.decl.name.text⟩ = some ⟨n⟩ ∧ s'.Restates ⟨n⟩ E.up := by
  intro s'
  have hbecomes : e'.Becomes E.c' s' := hc.becomes
  have hlookup {o : DeclarationId} {d : Declaration} {id : TypeId} (hd : E.c'.get? o = some d)
      (hid : e'.symbol? o = some (.type id)) : s'.lookupType d.fullName = some id := by
    obtain ⟨d', hd', hlookup⟩ := hbecomes.declared o _ hid
    cases hd.symm.trans hd'
    rw [Schema.lookupType, hlookup]
    rfl
  have hup : (E.inserts.behind h.floor [⟨n⟩]).type E.up = E.up :=
    congrArg TypeId.mk (skip_of_lt h.up_lt)
  refine ⟨hlookup (o := E.base.skip E.position) (d := ⟨E.scope, .type t⟩) ?_ ?_,
    hlookup (d := ⟨E.scope, .type E.decl⟩) E.inserts.get?_new h.headed.symbol, ?_, ?_, ?_⟩
  · rw [E.inserts.get?_skip]
    exact (Catalog.getAs?_eq_some_iff.1 hget).1
  · have hsymbol := h.mirrors.symbol E.base
    rw [E.symbol] at hsymbol
    rw [← hup]
    exact hsymbol
  · rw [hbecomes.typeDef]
    exact h.headed.base
  · rw [hbecomes.typeDef]
    refine (congrArg Prod.snd h.headed.header).trans ?_
    rw [TypeDecl.header, hbody]
  · refine ⟨(E.inserts.behind h.floor [⟨n⟩]).numbers.on x, ?_, ?_⟩
    · have hbase := h.mirrors.schemas.asComplex?_eq E.up
      rw [hup, hx] at hbase
      rw [hbecomes.typeDef]
      exact hbase
    · rw [hbecomes.typeDef, TypeDef.asComplex?, h.content]

end Enlargement

/-- A reference to what is declared resolves to its declaration. -/
theorem Builder.Completes.resolve_eq {namespaces : List NamespaceDecl} {limits : Limits}
    {e : Builder} (h : e.Completes namespaces limits) {o : DeclarationId} {d : Declaration}
    (hd : (Catalog.ofNamespaces namespaces).1.get? o = some d) {scope : Scope} {r : NameRef}
    (hr : (Catalog.ofNamespaces namespaces).1.target? scope r = some d.fullName) :
    (Catalog.ofNamespaces namespaces).1.resolve scope r = .ok (.declared o) := by
  unfold Catalog.target? at hr
  split at hr
  · have hsystem := h.registers.unreserved d (Array.mem_of_getElem? hd)
    rw [← Option.some.inj hr] at hsystem
    cases hsystem
  · rename_i p hp
    obtain ⟨d', hd', hname⟩ := Option.map_eq_some_iff.1 hr
    rw [hp, Catalog.eq_of_fullName h.registers.names hd' hd hname]
  · cases hr

/-- A type that restates an earlier one of its namespace can be added to what is accepted. It is
accepted without any diagnostic, and has the attributes and children of its base. -/
theorem restatement_of_accepts {front back : List NamespaceDecl} {ns : NamespaceDecl}
    {limits : Limits} {s : Schema} (h : Accepts (front ++ ns :: back) limits s)
    {ms ms' : List MemberDecl} (hns : ns.members = ms ++ ms') {t u : TypeDecl} (ht : .type t ∈ ms)
    {attributes : Option AttributeBlock} {children : Option ChildrenDecl} {r : NameRef}
    (hu : u.Restates t (Catalog.ofNamespaces (front ++ ns :: back)).1
      (Catalog.scopeIn (front ++ ns :: back) ns) attributes children r)
    (hname : isIdentifier u.name.text)
    (hfresh : ∀ part ∈ front ++ ns :: back, ∀ m ∈ part.members, m.name.text ≠ u.name.text)
    (hkind : Kind.ofName? u.name.text = none) (hdepth : 2 ≤ limits.derivationDepth) :
    ∃ s' id up,
      compile (front ++ ns.insert ms (.type u) ms' :: back) limits = .ok ⟨[], some s', true⟩ ∧
      s'.lookupType ⟨ns.uri, t.name.text⟩ = some up ∧
      s'.lookupType ⟨ns.uri, u.name.text⟩ = some id ∧ s'.Restates id up := by
  obtain ⟨made, hmade, rfl⟩ := h.exists_builder
  have hregistrable := registrable_of_harmless hmade.harmless
  obtain ⟨position, inserts, hbefore⟩ :=
    inserts_ofNamespaces (m := .type u) hregistrable hns hname hfresh hkind
  obtain ⟨base, behind, hget⟩ := hbefore _ ht
  have hns' : ns ∈ front ++ ns :: back := List.mem_append_right _ List.mem_cons_self
  have ht' : .type t ∈ ns.members := hns ▸ List.mem_append_left _ ht
  obtain ⟨o, up, hgetAs, symbol, -⟩ := hmade.exists_type hmade.becomes hns' ht'
  obtain rfl : o = base := Catalog.eq_of_fullName hmade.registers.names
    (Catalog.getAs?_eq_some_iff.1 hgetAs).1 hget rfl
  let E : Enlargement limits := {
    namespaces := front ++ ns :: back
    namespaces' := front ++ ns.insert ms (.type u) ms' :: back
    made, completes := hmade
    registrable' := registrable_insert hregistrable hns hname hfresh
    position, scope := Catalog.scopeIn (front ++ ns :: back) ns
    decl := u, inserts, base := o, up, reference := r
    refers := by rw [TypeDecl.base?, hu.restricts]
    resolves := hmade.resolve_eq hget hu.target
    behind, symbol
    allowed := hmade.baseFaults_of_complex symbol hgetAs hu.body hu.unsealed
    depth := by
      rw [hmade.depth_of_complex symbol hgetAs hu.body]
      exact hdepth
    kind := by
      rw [TypeDecl.header, hu.restricts]
      exact hmade.kind_of_complex symbol hgetAs hu.body }
  obtain ⟨x, hx, hmakes⟩ := E.exists_makes hgetAs hu
  obtain ⟨n, e', hcompletes, hends⟩ := E.exists_ends hmakes
  refine ⟨_, ⟨n⟩, up, ?_, hends.restates hcompletes hx hgetAs hu.restricts⟩
  rw [← hends.entries_eq]
  exact hcompletes.compile_eq

/-- The attributes of a book. -/
def bookAttributes : AttributeBlock where
  items := [.declared { name := ⟨"isbn", none⟩, type := .ofText "String" }]

/-- The children of a book: its title, up to nine authors, and a part without a name, which may be
left out and has another one inside. -/
def bookChildren : ChildSetDecl where
  kind := .sequence
  items := [
    .reference { reference := .ofText "title" },
    .element { name := ⟨"author", none⟩, type := .ofText "String", occurs := some ⟨1, 9, none⟩ },
    .set none .choice [
      .set none .sequence [.element { name := ⟨"volume", none⟩, type := .ofText "Int32" }] none none]
      none (some ⟨0, 1, none⟩)]

/-- Books and their titles. -/
def books : NamespaceDecl where
  uri := "urn:books"
  members := [
    .type { name := ⟨"Book", none⟩, body := .complex bookAttributes (some (.set bookChildren)) },
    .element { name := ⟨"title", none⟩, type := .ofText "String" }]

/-- A book that is printed again is a book. -/
def reprint : TypeDecl where
  name := ⟨"Reprint", none⟩
  body := .restriction (.ofText "Book") none bookAttributes (some (.set bookChildren))

/-- A reprint can be added, and has what a book has. -/
theorem reprint_added : Accepts [books] {} (schemaOf [books] {}) ∧
    ∃ s' id up,
      compile [books.insert books.members (.type reprint) []] {} = .ok ⟨[], some s', true⟩ ∧
      s'.lookupType ⟨"urn:books", "Book"⟩ = some up ∧
      s'.lookupType ⟨"urn:books", "Reprint"⟩ = some id ∧ s'.Restates id up := by
  have hs : Accepts ([] ++ books :: []) {} (schemaOf [books] {}) :=
    accepts_schemaOf (by decide +kernel)
  refine ⟨hs, restatement_of_accepts hs (List.append_nil _).symm (.head _) (u := reprint)
    ⟨rfl, rfl, ?_, rfl, by decide +kernel⟩ (by decide +kernel) ?_ (by decide +kernel) (by decide)⟩
  · rintro _ ⟨⟩
    simp [bookAttributes, AttributeItem.IsPlain]
  · simp [books, reprint, MemberDecl.name]

end Schemata
