import Schemata.Proofs.Additions
import Schemata.Proofs.Integrity
import Schemata.Proofs.Positions

/-!
# Extended complex types

In a schema that is accepted, an extension has what its base has, in the same order, and after that
what its blocks declare (`ComplexContent.Extension`). A simple base becomes the value of the type.
Names stay distinct through any chain of extensions and restrictions, and positions are counted
anew where a restriction leaves something out (`ComplexContent.Tidy`).
-/

namespace Schemata

/-! ## What an extension has -/

/-- The items of declared children, unless they are a simple value. -/
def ChildrenDecl.items? : Option ChildrenDecl → Option (List ChildItem)
  | none => some []
  | some (.set d) => some d.items
  | some (.simple _ _) => none

section

variable (s : Schema) (c : Catalog) (scope : Scope)

/-- What attributes become in an extension that declares some. -/
structure Attribute.Extension (base : Option (List Attribute)) (declared : Option AttributeBlock)
    (x : Option (List Attribute)) : Prop where
  /-- An empty block is a block. -/
  isSome : x.isSome = (base.isSome || declared.isSome)
  /-- The attributes of the base come first. -/
  appended : ∃ new, (declared.elim [] (·.items)).mapM (·.attribute? s c scope) = some new ∧
    x.getD [] = base.getD [] ++ new

/-- The children of a type that has none of a base. -/
inductive Children.Declared : Option ChildrenDecl → Option Children → Prop
  | none : Declared none none
  | simple {r : NameRef} {span : Option Span} {t : TypeId}
    (named : s.referent? c scope r = some (.type t)) (kind : (s.typeDef t).kind.isSimple) :
    Declared (some (.simple r span)) (some (.simple t))
  | set {d : ChildSetDecl} {members : List Member}
    (made : ChildItem.members? s c scope 0 d.items = some members) :
    Declared (some (.set d)) (some (.set ⟨d.kind, members, d.span⟩))

/-- What children become in an extension that declares some. -/
structure Children.Extension (base : Option Children) (declared : Option ChildrenDecl)
    (x : Option Children) : Prop where
  /-- The members of the base come first, and each of the new ones at its position. -/
  set : ∀ set, base = some (.set set) → ∃ items new, ChildrenDecl.items? declared = some items ∧
    ChildItem.members? s c scope set.members.length items = some new ∧
    x = some (.set { set with members := set.members ++ new })
  simple : ∀ t, base = some (.simple t) → declared = none ∧ x = some (.simple t)
  none : base = none → Children.Declared s c scope declared x

theorem Children.extension_none (base : Option Children) :
    Children.Extension s c scope base none base where
  set set h := ⟨[], [], rfl, by rw [ChildItem.members?], by rw [h, List.append_nil]⟩
  simple t h := ⟨rfl, h⟩
  none h := h ▸ .none

/-- What the content of a base becomes in an extension. -/
structure ComplexContent.Extension (base : ComplexContent) (attributes : Option AttributeBlock)
    (children : Option ChildrenDecl) (x : ComplexContent) : Prop where
  attributes : Attribute.Extension s c scope base.attributes attributes x.attributes
  children : Children.Extension s c scope base.children children x.children

/-- A type is an extension of another one. -/
structure Schema.ExtendsBy (attributes : Option AttributeBlock) (children : Option ChildrenDecl)
    (id up : TypeId) : Prop where
  base : (s.typeDef id).base = some up
  derivation : (s.typeDef id).derivation = .extension
  complex : ∀ y, (s.typeDef up).asComplex? = some y → ∃ x, (s.typeDef id).asComplex? = some x ∧
    y.Extension s c scope attributes children x
  /-- A simple type becomes the value, and nothing but attributes can be declared. -/
  simple : (s.typeDef up).asSimple?.isSome → ∃ x, (s.typeDef id).asComplex? = some x ∧
    x.children = some (.simple up) ∧
    ComplexContent.Extension s c scope { children := some (.simple up) } attributes children x

end

/-! ## What is distinct in a type -/

namespace Member

mutual

theorem Sound.nodup_levels {s : Schema} {m : Member} (h : m.Sound s) :
    ∀ ms ∈ m.levels, (ms.map name).Nodup := by
  cases m with
  | element l e o => exact nofun
  | set l k ms p =>
    obtain ⟨hnames, hms⟩ := h
    exact List.forall_mem_cons.2 ⟨hnames, AllSound.nodup_levels hms⟩
  | list l item o => exact Sound.nodup_levels (m := item) h

theorem AllSound.nodup_levels {s : Schema} {ms : List Member} (h : AllSound s ms) :
    ∀ level ∈ allLevels ms, (level.map name).Nodup := by
  cases ms with
  | nil => exact nofun
  | cons m ms =>
    exact List.forall_mem_append.2 ⟨Sound.nodup_levels h.1, AllSound.nodup_levels h.2⟩

end

end Member

namespace ComplexContent

/-- The sets of siblings among the children: the child set and every set that is nested in it. -/
def levels (x : ComplexContent) : List (List Member) :=
  x.childSet?.elim [] fun set => set.members :: Member.allLevels set.members

/-- Names are distinct, and positions are counted. -/
structure Tidy (x : ComplexContent) : Prop where
  attributes : ((x.attributes.getD []).map Attribute.name).Nodup
  members : ∀ ms ∈ x.levels, (ms.map Member.name).Nodup
  orders : ∀ ms ∈ x.levels, ms.map (·.label.order) = List.range ms.length

theorem forall_levels {x : ComplexContent} {P : List Member → Prop}
    (h : ∀ set, x.childSet? = some set → ∀ ms ∈ set.members :: Member.allLevels set.members, P ms) :
    ∀ ms ∈ x.levels, P ms := by
  unfold levels
  cases hset : x.childSet? with
  | none => exact nofun
  | some set => exact h set hset

theorem Sound.tidy {s : Schema} {x : ComplexContent} (h : x.Sound s)
    (hx : Children.Arranged x.children) : x.Tidy where
  attributes := h.attributes
  members := forall_levels fun set hset => by
    have hsound := h.members set hset
    have hnested := (Member.allSound_iff.2 hsound.members).nodup_levels
    exact List.forall_mem_cons.2 ⟨hsound.names, hnested⟩
  orders := forall_levels fun set hset =>
    Member.setArranged_iff.1 (hx set (childSet?_eq_some.1 hset))

end ComplexContent

namespace Builder

variable {c : Catalog} {limits : Limits} {s : Schema} {b b' e : Builder}

/-! ## How an extension is made -/

namespace Takes

variable (he : e.Becomes c s)

include he

theorem declaresChildren (scope : Scope) (d : ChildrenDecl) :
    b.Takes c limits .all (Schemata.makeChildren c limits scope d) fun x b₁ => b₁.Lasts e →
      Children.Declared s c scope (some d) (some x) := by
  unfold Schemata.makeChildren
  cases d with
  | simple r span =>
    refine (simpleTypeOf scope r).bind fun t b₁ _ ⟨hnames, hk⟩ => .pure fun hlast => ?_
    refine .simple (he.referent_type hlast hnames) ?_
    rw [he.typeDef]
    exact hlast.schema.isSimple (hk (hlast.clean he.clean))
  | set d =>
    refine (appendsMembers he scope d.items []).bind fun ms b₁ _ hms => .pure fun hlast => ?_
    obtain ⟨new, hnew, rfl⟩ := hms hlast
    exact .set hnew

theorem extendsChildren (scope : Scope) (base : Option Children) (d : ChildrenDecl) :
    b.Takes c limits .all (Schemata.extendChildren c limits scope base d) fun x b₁ =>
      b₁.Lasts e → Children.Extension s c scope base (some d) (some x) := by
  unfold Schemata.extendChildren
  split
  · exact (declaresChildren he scope d).mono fun x b₁ _ hx hlast =>
      ⟨nofun, nofun, fun _ => hx hlast⟩
  · exact fault_pure he
  · exact fault_pure he
  · rename_i set d
    refine (appendsMembers he scope d.items set.members).bind fun ms b₁ _ hms =>
      .pure fun hlast => ⟨?_, nofun, nofun⟩
    rintro _ ⟨⟩
    obtain ⟨new, hnew, rfl⟩ := hms hlast
    exact ⟨d.items, new, rfl, hnew, rfl⟩

theorem extendsContent (scope : Scope) (base : ComplexContent)
    (attributes : Option AttributeBlock) (children : Option ChildrenDecl) :
    b.Takes c limits .all (Schemata.extensionContent c limits scope base attributes children)
      fun x b₁ => b₁.Lasts e → base.Extension s c scope attributes children x := by
  unfold Schemata.extensionContent
  extract_lets jp
  have hjp : ∀ r (b₁ : Builder),
      (b₁.Lasts e → Attribute.Extension s c scope base.attributes attributes r) →
      b₁.Takes c limits .all (jp r) fun x b₂ => b₂.Lasts e →
        base.Extension s c scope attributes children x := by
    intro r b₁ hr
    dsimp only [jp]
    cases children with
    | none => exact .pure fun hlast => ⟨hr hlast, Children.extension_none s c scope _⟩
    | some d =>
      exact (extendsChildren he scope base.children d).map_bind fun x b₂ hl hx =>
        .pure fun hlast => ⟨hr (hl.trans hlast), hx hlast⟩
  cases attributes with
  | none =>
    exact hjp _ b fun _ => ⟨(Bool.or_false _).symm, [], rfl, (List.append_nil _).symm⟩
  | some block =>
    exact (appendsAttributes he scope block.items (base.attributes.getD [])).map_bind
      fun r b₁ _ hr => hjp (some r) b₁ fun hlast => ⟨(Bool.or_true _).symm, hr hlast⟩

end Takes

/-- The base of a declared type is what its reference names. -/
theorem Above.namesType {o : DeclarationId} {d : Declaration} {t : TypeDecl} {r : NameRef}
    {up : TypeId} (hget : c.getAs? (·.asType?) o = some (d, t)) (hr : t.base? = some r)
    (h : e.Above (·.asType?) (typeLink c) o up) : e.NamesType c d.scope r up := by
  unfold Above typeLink at h
  simp only [hget, hr] at h
  split at h
  · rcases h with hroot | ⟨p, hnext, -⟩
    · cases hroot
    · cases hnext
  · rename_i k hk
    rcases h with hroot | ⟨p, hnext, -⟩
    · cases hroot
      exact Or.inl ⟨k, hk, rfl⟩
    · cases hnext
  · rename_i p hp
    split at h
    · rcases h with hroot | ⟨q, hnext, hq⟩
      · cases hroot
      · cases hnext
        exact Or.inr ⟨p, hp, Takes.symbol_of_asType hq⟩
    · rcases h with hroot | ⟨q, hnext, -⟩
      · cases hroot
      · cases hnext

namespace Completes

variable {namespaces : List NamespaceDecl}

/-- The content of a declared complex type was made by a run, when its base had the content that it
has now. -/
theorem content_run (h : e.Completes namespaces limits) {o : DeclarationId} {id : TypeId}
    (hid : e.symbol? o = some (.type id)) {d : Declaration} {t : TypeDecl}
    (hget : (Catalog.ofNamespaces namespaces).1.getAs? (·.asType?) o = some (d, t)) {up : TypeId}
    (hup : (e.schema.typeDef id).base = some up)
    (hkind : (e.schema.typeDef id).kind = .complexType) :
    ∃ x b₀ b₁, (e.schema.typeDef id).asComplex? = some x ∧
      e.ComplexSource (Catalog.ofNamespaces namespaces).1 limits id x o d t b₀ b₁ ∧
      b₀.schema.typeDef up = e.schema.typeDef up ∧
      (complexContent (Catalog.ofNamespaces namespaces).1 limits d.scope up t.body).run b₀ =
        .ok (x, b₁) := by
  have horigin := (h.regular.origin o id).1 hid
  obtain ⟨x, hx⟩ : ∃ x, (e.schema.typeDef id).asComplex? = some x :=
    Option.isSome_iff_exists.1 ((Schema.asComplex?_isSome_iff h.inv.contents id).2 hkind)
  obtain ⟨o', d', t', b₀, b₁, hsource⟩ := h.exists_complexSource (h.mem_finished hid) hx
  obtain rfl := Option.some.inj (horigin.symm.trans hsource.origin)
  cases hget.symm.trans hsource.declared
  have hrun := hsource.run
  have hbase := hsource.base
  rw [hup, Option.getD_some] at hrun hbase
  exact ⟨x, b₀, b₁, hx, hsource, hbase, hrun⟩

/-- A declared extension has the content that its declaration makes from that of its base. -/
theorem extension_run (h : e.Completes namespaces limits) {o : DeclarationId} {id : TypeId}
    (hid : e.symbol? o = some (.type id)) {d : Declaration} {t : TypeDecl}
    (hget : (Catalog.ofNamespaces namespaces).1.getAs? (·.asType?) o = some (d, t)) {r : NameRef}
    {attributes : Option AttributeBlock} {children : Option ChildrenDecl}
    (ht : t.body = .extension r attributes children) {up : TypeId}
    (hup : (e.schema.typeDef id).base = some up)
    (hkind : (e.schema.typeDef id).kind = .complexType) {s : Schema}
    (he : e.Becomes (Catalog.ofNamespaces namespaces).1 s) :
    ∃ x, (e.schema.typeDef id).asComplex? = some x ∧
      ((e.schema.typeDef up).extended up).Extension s (Catalog.ofNamespaces namespaces).1 d.scope
        attributes children x := by
  obtain ⟨x, b₀, b₁, hx, hsource, hbase, hrun⟩ := h.content_run hid hget hup hkind
  refine ⟨x, hx, ?_⟩
  rw [complexContent, run_schema_bind, ht, hbase] at hrun
  obtain ⟨-, -, -, hx⟩ := (Takes.extendsContent he d.scope _ attributes children).apply
    hsource.placed hsource.inv hrun
  exact hx hsource.lasts

/-- A declared type has a number, which is found by the name of the type. -/
theorem exists_type (h : e.Completes namespaces limits) {s : Schema}
    (he : e.Becomes (Catalog.ofNamespaces namespaces).1 s) {ns : NamespaceDecl}
    (hns : ns ∈ namespaces) {t : TypeDecl} (hm : .type t ∈ ns.members) :
    ∃ o id, (Catalog.ofNamespaces namespaces).1.getAs? (·.asType?) o =
        some (⟨Catalog.scopeIn namespaces ns, .type t⟩, t) ∧
      e.symbol? o = some (.type id) ∧ s.lookupType ⟨ns.uri, t.name.text⟩ = some id := by
  obtain ⟨o, ho⟩ := h.exists_declaration hns hm
  obtain ⟨symbol, hsymbol⟩ := h.exists_symbol (o := o) (by rw [ho]; rfl)
  obtain ⟨d, hd, hdeclares⟩ := h.numbered.declares o symbol (mem_of_symbol? hsymbol)
  obtain ⟨d', hd', hlookup⟩ := he.declared o symbol hsymbol
  cases ho.symm.trans hd
  cases ho.symm.trans hd'
  have hlookup : s.lookup ⟨ns.uri, t.name.text⟩ = some symbol := hlookup
  cases symbol with
  | type id =>
    exact ⟨o, id, Catalog.getAs?_eq_some_iff.2 ⟨ho, rfl⟩, hsymbol, by
      rw [Schema.lookupType, hlookup]
      rfl⟩
  | attr id => exact hdeclares.elim
  | element id => exact hdeclares.elim

/-- A declared type that names a base is found by its name, and has the header that it declares on
the type that the reference names. -/
theorem exists_derived (h : e.Completes namespaces limits) {s : Schema}
    (he : e.Becomes (Catalog.ofNamespaces namespaces).1 s) {ns : NamespaceDecl}
    (hns : ns ∈ namespaces) {t : TypeDecl} (hm : .type t ∈ ns.members) {r : NameRef}
    (hr : t.base? = some r) :
    ∃ o id up, (Catalog.ofNamespaces namespaces).1.getAs? (·.asType?) o =
        some (⟨Catalog.scopeIn namespaces ns, .type t⟩, t) ∧
      e.symbol? o = some (.type id) ∧ s.lookupType ⟨ns.uri, t.name.text⟩ = some id ∧
      s.referent? (Catalog.ofNamespaces namespaces).1 (Catalog.scopeIn namespaces ns) r =
        some (.type up) ∧
      (e.schema.typeDef id).base = some up ∧
      ((e.schema.typeDef id).kind, (e.schema.typeDef id).derivation) =
        t.header (e.schema.typeDef up) := by
  obtain ⟨o, id, hget, hid, hlookup⟩ := h.exists_type he hns hm
  obtain ⟨d, t', up, declared, above, ⟨content, hheader⟩, -⟩ := h.sourced.types o id hid
  cases hget.symm.trans declared
  have hnames := above.namesType declared hr
  refine ⟨o, id, up, hget, hid, hlookup, he.referent_type (.refl e) hnames, ?_, ?_⟩ <;>
    rw [hheader] <;> rfl

/-- A declared extension is found by its name, and extends the type that its reference names. -/
theorem exists_extendsBy (h : e.Completes namespaces limits) {s : Schema}
    (he : e.Becomes (Catalog.ofNamespaces namespaces).1 s) {ns : NamespaceDecl}
    (hns : ns ∈ namespaces) {t : TypeDecl} (hm : .type t ∈ ns.members) {r : NameRef}
    {attributes : Option AttributeBlock} {children : Option ChildrenDecl}
    (ht : t.body = .extension r attributes children) :
    ∃ id up, s.lookupType ⟨ns.uri, t.name.text⟩ = some id ∧
      s.referent? (Catalog.ofNamespaces namespaces).1 (Catalog.scopeIn namespaces ns) r =
        some (.type up) ∧
      s.ExtendsBy (Catalog.ofNamespaces namespaces).1 (Catalog.scopeIn namespaces ns) attributes
        children id up := by
  obtain ⟨o, id, up, hget, hid, hlookup, hreferent, hbase, hheader⟩ :=
    h.exists_derived he hns hm (r := r) (by rw [TypeDecl.base?, ht])
  rw [TypeDecl.header, ht] at hheader
  obtain ⟨hkind, hderivation⟩ := Prod.mk.inj hheader
  obtain ⟨x, hx, hextension⟩ := h.extension_run hid hget ht hbase hkind he
  rw [← he.typeDef] at hkind hderivation hbase hx
  rw [← he.typeDef] at hextension
  refine ⟨id, up, hlookup, hreferent, hbase, hderivation, fun y hy => ?_, fun hy => ?_⟩
  · rw [TypeDef.extended_of_complex hy] at hextension
    exact ⟨x, hx, hextension⟩
  · rw [TypeDef.extended_of_simple hy] at hextension
    exact ⟨x, hx, (hextension.children.simple up rfl).2, hextension⟩

end Completes

end Builder

/-- In an accepted schema, every declared extension has what the type has that it extends, and after
that what its blocks declare; a simple type becomes its value. The attributes of any type, and the
siblings at any level of its children, have distinct names, and each sibling stores its position. -/
theorem extension_of_accepts {namespaces : List NamespaceDecl} {limits : Limits} {s : Schema}
    (h : Accepts namespaces limits s) :
    (∀ ns ∈ namespaces, ∀ t : TypeDecl, .type t ∈ ns.members → ∀ r attributes children,
      t.body = .extension r attributes children →
      ∃ id up, s.lookupType ⟨ns.uri, t.name.text⟩ = some id ∧
        s.referent? (Catalog.ofNamespaces namespaces).1 (Catalog.scopeIn namespaces ns) r =
          some (.type up) ∧
        s.ExtendsBy (Catalog.ofNamespaces namespaces).1 (Catalog.scopeIn namespaces ns) attributes
          children id up) ∧
    ∀ id x, (s.typeDef id).asComplex? = some x → x.Tidy := by
  have hsound := h.sound
  obtain ⟨e, he, rfl⟩ := h.exists_builder
  have hbecomes := he.becomes
  refine ⟨fun ns hns t ht r attributes children hbody => ?_, fun id x hx => ?_⟩
  · exact he.exists_extendsBy hbecomes hns ht hbody
  · have hcontent := hsound.content id x hx
    rw [hbecomes.typeDef] at hx
    exact hcontent.tidy (he.arranged id hx)

/-- What a letter by air has besides. -/
def airAttributes : AttributeBlock where
  items := [.declared
    { name := ⟨"weight", none⟩, type := .ofText "Int32", defaultValue := some "20" }]

/-- The members that a letter by air has besides: a set without a name, and a label. -/
def airChildren : ChildSetDecl where
  kind := .sequence
  items := [
    .set none .sequence [
      .element { name := ⟨"from", none⟩, type := .ofText "String" },
      .set none .choice [.element { name := ⟨"to", none⟩, type := .ofText "String" }] none none]
      none none,
    .element { name := ⟨"label", none⟩, type := .ofText "String" }]

/-- A letter, a letter without a greeting, and one by air. A caption is a text in some language. -/
def mail : NamespaceDecl :=
  let text (name : String) : Ident := ⟨name, none⟩
  let string (name : String) : ChildItem := .element { name := text name, type := .ofText "String" }
  let letter : TypeBody := .complex
    (some { items := [.declared { name := text "sender", type := .ofText "String" }] })
    (some (.set { kind := .sequence, items := [
      .element { name := text "greeting", type := .ofText "String", occurs := some ⟨0, 1, none⟩ },
      .set none .choice [string "text", string "scan"] none none] }))
  let shortLetter : TypeBody := .restriction (.ofText "Letter") none none
    (some (.set { kind := .sequence, items := [
      .delete { name := text "greeting" },
      .set none .choice [string "text"] none none] }))
  let caption : TypeBody := .extension (.ofText "String")
    (some { items := [.declared { name := text "language", type := .ofText "String" }] }) none
  { uri := "urn:mail"
    members := [
      .type { name := text "Letter", body := letter },
      .type { name := text "ShortLetter", body := shortLetter },
      .type { name := text "AirLetter"
              body := .extension (.ofText "ShortLetter") airAttributes (some (.set airChildren)) },
      .type { name := text "Caption", body := caption }] }

/-- The choice keeps its name where it moves to the front, and what is added is counted from there
on. -/
theorem mail_extended : let s := schemaOf [mail] {}
    Accepts [mail] {} s ∧
    s.ExtendsBy (Catalog.ofNamespaces [mail]).1 (Catalog.scopeIn [mail] mail) (some airAttributes)
      (some (.set airChildren)) ⟨24⟩ ⟨23⟩ ∧
    ∃ x, (s.typeDef ⟨24⟩).asComplex? = some x ∧ x.Tidy ∧
      x.levels.map (·.map fun m => (m.name, m.label.order)) =
        [[("Choice1", 0), ("Seq1", 1), ("label", 2)], [("text", 0)],
          [("from", 0), ("Choice1", 1)], [("to", 0)]] := by
  intro s
  have hs : Accepts [mail] {} s := accepts_schemaOf (by decide +kernel)
  obtain ⟨hextends, htidy⟩ := extension_of_accepts hs
  obtain ⟨id, up, hid, -, hup⟩ := hextends mail List.mem_cons_self
    ⟨⟨"AirLetter", none⟩, false, false,
      .extension (.ofText "ShortLetter") airAttributes (some (.set airChildren))⟩
    (.tail _ (.tail _ (.head _))) _ _ _ rfl
  have hfound : s.lookupType ⟨"urn:mail", "AirLetter"⟩ = some ⟨24⟩ := by decide +kernel
  obtain rfl := Option.some.inj (hid.symm.trans hfound)
  have hbase : (s.typeDef ⟨24⟩).base = some ⟨23⟩ := by decide +kernel
  obtain rfl := Option.some.inj (hup.base.symm.trans hbase)
  obtain ⟨x, hx⟩ : ∃ x, (s.typeDef ⟨24⟩).asComplex? = some x :=
    Option.isSome_iff_exists.1 (by decide +kernel)
  have hlevels : (s.typeDef ⟨24⟩).asComplex?.map (fun x =>
      x.levels.map (·.map fun m => (m.name, m.label.order))) =
        some [[("Choice1", 0), ("Seq1", 1), ("label", 2)], [("text", 0)],
          [("from", 0), ("Choice1", 1)], [("to", 0)]] := by decide +kernel
  rw [hx] at hlevels
  exact ⟨hs, hup, x, hx, htidy ⟨24⟩ x hx, Option.some.inj hlevels⟩

end Schemata
