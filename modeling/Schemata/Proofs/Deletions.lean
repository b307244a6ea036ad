import Schemata.Proofs.Omissions
import Schemata.Proofs.Recompilation

/-!
# Deleting by not mentioning

A restriction may say that it deletes what it inherits, or not speak of it. Namespaces are accepted
with the deletion if and only if they are accepted without it and the name is inherited, and the
schema is the same (`acceptance_of_omits`). With the deletion, the blocks could only be gone through
if it was allowed; without it, if nothing that is required is left out. Either way the name may be
deleted, so that the blocks make the same content and the compilations come to the same end.

This is so for attributes, and for members where the items behind the deletion have names.
-/

namespace Schemata

/-! ## What may be deleted -/

namespace Attribute

variable {base made : List Attribute} {n : String}

theorem deletable_of_faults (hn : (base.map name).Nodup) (h : attributeDeletionFaults base n = []) :
    Deletable base n := by
  refine ⟨isIn_of_deletionFaults h, fun a ha hname => ?_⟩
  have hfound : find? base n = some a := hname ▸ find?_name_of_mem Attribute.name hn ha
  by_contra hnot
  simp [attributeDeletionFaults, hfound, hnot] at h

/-- What is not made anew may be deleted, if all that is required is made. -/
theorem Completes.deletable (h : Completes base made) (hn : (base.map name).Nodup)
    (hin : isIn base n) (hnot : ¬isIn made n) : Deletable base n := by
  refine ⟨hin, fun a ha hname => ?_⟩
  have hfound : find? base n = some a := hname ▸ find?_name_of_mem Attribute.name hn ha
  by_contra hrequired
  exact hnot (h n a hfound (Bool.eq_false_iff.2 hrequired))

end Attribute

theorem AttributeItem.RestrictsEach.allowed {s : Schema} {c : Catalog} {scope : Scope}
    {base made : List Attribute} {mentioned : List String} {items : List AttributeItem}
    (h : RestrictsEach s c scope base mentioned items made) :
    ∀ d, .delete d ∈ items → attributeDeletionFaults base d.name.text = [] := by
  induction h with
  | nil => exact fun _ => nofun
  | delete allowed others ih =>
    intro d hd
    rcases List.mem_cons.1 hd with heq | hd
    · cases heq
      exact allowed
    · exact ih d hd
  | keep makes fresh known others ih =>
    intro d hd
    rcases List.mem_cons.1 hd with rfl | hd
    · cases makes
    · exact ih d hd

namespace Member

variable {kind : SetKind} {base made : List Member} {n : String}

theorem deletable_of_faults (hn : (base.map name).Nodup)
    (h : memberDeletionFaults kind base n = []) : Deletable kind base n := by
  refine ⟨isIn_of_deletionFaults h, fun m hm hname hkind => ?_⟩
  have hfound : find? base n = some m := hname ▸ find?_name_of_mem Member.name hn hm
  by_contra hnot
  simp [memberDeletionFaults, hfound, hkind, hnot] at h

/-- What is not made anew may be deleted, if all that is required is made. -/
theorem Completes.deletable (h : Completes kind base made) (hn : (base.map name).Nodup)
    (hin : isIn base n) (hnot : ¬isIn made n) : Deletable kind base n := by
  refine ⟨hin, fun m hm hname hkind => ?_⟩
  have hfound : find? base n = some m := hname ▸ find?_name_of_mem Member.name hn hm
  by_contra hrequired
  exact hnot (h n m hfound hkind (Bool.eq_false_iff.2 hrequired))

theorem Sound.setSound {s : Schema} {m : Member} (h : m.Sound s) {ms : List Member}
    (hm : m.innerSet? = some (kind, ms)) : SetSound s ms := by
  cases m with
  | element l e o => cases hm
  | set l k members p =>
    cases hm
    exact sound_set.1 h
  | list l item o => exact Sound.setSound (m := item) h hm

end Member

namespace ChildItem

variable {s : Schema} {c : Catalog} {scope : Scope} {kind : SetKind} {base made : List Member}
  {mentioned : List String} {order : Nat} {items items' : List ChildItem} {n : String}
  {path : List String}

theorem RestrictsEach.allowed (h : RestrictsEach s c scope kind base mentioned order items made) :
    ∀ d, .delete d ∈ items → memberDeletionFaults kind base d.name.text = [] := by
  induction items generalizing mentioned order made with
  | nil => exact fun _ => nofun
  | cons item rest ih =>
    intro d hd
    cases h with
    | delete allowed others =>
      rcases List.mem_cons.1 hd with heq | hd
      · cases heq
        exact allowed
      · exact ih others d hd
    | keep fresh found bounds single others =>
      rcases List.mem_cons.1 hd with heq | hd
      · exact (not_delete_of_restricts single d heq.symm).elim
      · exact ih others d hd

/-- A set among the items restricts a set of the base. -/
theorem RestrictsEach.exists_inner {before after : List ChildItem} {name : Option Ident}
    {inner : SetKind} {span : Option Span} {bounds : Option OccursDecl}
    (h : RestrictsEach s c scope kind base [] 0 (before ++ .set name inner items span bounds :: after)
      made) (hbase : Member.SetSound s base) :
    ∃ inherited members made, Member.find? base
        ((ChildItem.set name inner items span bounds).memberName before.length) = some inherited ∧
      inherited.innerSet? = some (inner, members) ∧ Member.SetSound s members ∧
      RestrictsEach s c scope inner members [] 0 items made ∧
      Member.Completes inner members made := by
  have hitem : (before ++ .set name inner items span bounds :: after)[before.length]? =
      some (.set name inner items span bounds) := by simp
  obtain ⟨inherited, occurs, m, hfound, hm, -⟩ := h.exists_kept hitem nofun
  rw [Nat.zero_add] at hfound
  obtain ⟨members, made', -, hinner, heach, hcomplete, -⟩ := hm.exists_each
  rw [Member.innerSet?_held] at hinner
  have hsound := (hbase.members _ (Member.mem_of_find? hfound)).setSound hinner
  exact ⟨inherited, members, made', hfound, hinner, hsound, heach, hcomplete⟩

/-- What is deleted was inherited, and could be deleted. -/
theorem Omits.exists_deletable (h : Omits n path items items') (hbase : Member.SetSound s base)
    (heach : RestrictsEach s c scope kind base [] 0 items made) :
    ∃ k ms, Member.reach? (kind, base) path = some (k, ms) ∧ Member.Deletable k ms n := by
  induction h generalizing kind base made with
  | here name unkept named =>
    refine ⟨kind, base, rfl, Member.deletable_of_faults hbase.names ?_⟩
    exact name ▸ heach.allowed _ (List.mem_append_right _ List.mem_cons_self)
  | inside omits ih =>
    obtain ⟨inherited, members, made, hfound, hinner, hsound, heach, -⟩ := heach.exists_inner hbase
    obtain ⟨k, ms, hreach, hdeletable⟩ := ih hsound heach
    refine ⟨k, ms, ?_, hdeletable⟩
    rw [Member.reach?, hfound, Option.bind_some, hinner, Option.bind_some, hreach]

/-- What is inherited and not mentioned could be deleted. -/
theorem Omits.deletable (h : Omits n path items items') (hbase : Member.SetSound s base)
    (heach : RestrictsEach s c scope kind base [] 0 items' made)
    (hcomplete : Member.Completes kind base made) {k : SetKind} {ms : List Member}
    (hreach : Member.reach? (kind, base) path = some (k, ms)) (hin : Member.isIn ms n) :
    Member.Deletable k ms n := by
  induction h generalizing kind base made with
  | @here before after d name unkept named =>
    cases hreach
    refine hcomplete.deletable hbase.names hin fun hmade => unkept ?_
    rw [heach.isIn_iff, entries_append, List.mem_append] at hmade
    rw [entries_append, List.mem_append, entries, List.mem_cons]
    refine hmade.imp_right fun hafter => .inr ?_
    rwa [entries_eq named _ (0 + before.length)]
  | inside omits ih =>
    obtain ⟨inherited, members, made, hfound, hinner, hsound, heach, hcomplete⟩ :=
      heach.exists_inner hbase
    rw [memberName_set] at hfound
    rw [Member.reach?, hfound, Option.bind_some, hinner, Option.bind_some] at hreach
    exact ih hsound heach hcomplete hreach

end ChildItem

/-! ## What is inherited -/

/-- A name is there in a part of the content of a type. -/
def ComplexContent.Has (x : ComplexContent) (n : String) : Site → Prop
  | .attributes => Attribute.isIn (x.attributes.getD []) n
  | .members path => ∃ set kind ms, x.children = some (.set set) ∧
      Member.reach? (set.kind, set.members) path = some (kind, ms) ∧ Member.isIn ms n

namespace TypeBody.Omits

variable {s : Schema} {c : Catalog} {scope : Scope} {base x : ComplexContent} {n : String}
  {site : Site} {body body' : TypeBody} {r : NameRef} {facets : Option FacetBlock}
  {attributes : Option AttributeBlock} {children : Option ChildrenDecl}

theorem resembles (h : body.Omits n site body') : body.Resembles body' := by
  cases h with
  | attributes name unkept => exact .blocks rfl rfl
  | members omits => exact .blocks rfl rfl

/-- There is a block to leave a deletion out of. -/
theorem isSome_block (h : body.Omits n site body' ∨ body'.Omits n site body)
    (hbody : body = .restriction r facets attributes children) :
    attributes.isSome ∨ children.isSome := by
  rcases h with h | h
  all_goals
    cases h <;> cases hbody
    · exact .inl rfl
    · exact .inr rfl

theorem exists_restriction (h : body.Omits n site body' ∨ body'.Omits n site body) :
    ∃ r facets attributes children, body = .restriction r facets attributes children := by
  rcases h with h | h <;> cases h <;> exact ⟨_, _, _, _, rfl⟩

/-- What a restriction deletes was inherited, and could be deleted. -/
theorem exists_deletable (h : body.Omits n site body')
    (hbody : body = .restriction r facets attributes children) (hbase : base.Sound s)
    (hx : base.Restriction s c scope attributes children x) :
    base.Deletable n site ∧ base.Has n site := by
  cases h with
  | attributes name unkept =>
    cases hbody
    have hattributes := hx.attributes
    generalize x.attributes = own at hattributes
    cases hattributes with
    | block each complete =>
      have hallowed := each.allowed _ (List.mem_append_right _ List.mem_cons_self)
      rw [name] at hallowed
      exact ⟨Attribute.deletable_of_faults hbase.attributes hallowed,
        Attribute.isIn_of_deletionFaults hallowed⟩
  | members omits =>
    cases hbody
    have hchildren := hx.children
    generalize x.children = own at hchildren
    cases hchildren with
    | @set _ inherited _ inherits kind each complete =>
      obtain ⟨k, ms, hreach, hdeletable⟩ :=
        omits.exists_deletable (hbase.children inherited inherits) each
      refine ⟨fun set hset k' ms' hreach' => ?_,
        inherited, k, ms, inherits, hreach, hdeletable.known⟩
      cases inherits.symm.trans hset
      cases hreach.symm.trans hreach'
      exact hdeletable

/-- What a restriction inherits and does not mention could be deleted. -/
theorem deletable (h : body'.Omits n site body)
    (hbody : body = .restriction r facets attributes children) (hbase : base.Sound s)
    (hx : base.Restriction s c scope attributes children x)
    (hnames : ∀ (item : AttributeItem) a, item.attribute? s c scope = some a →
      item.entry = .keeps a.name)
    (hhas : base.Has n site) : base.Deletable n site := by
  cases h with
  | attributes name unkept =>
    cases hbody
    have hattributes := hx.attributes
    generalize x.attributes = own at hattributes
    cases hattributes with
    | block each complete =>
      refine complete.deletable hbase.attributes hhas fun hmade => unkept ?_
      have hkeeps := (each.isIn_iff hnames n).1 hmade
      rw [List.map_append, List.mem_append] at hkeeps ⊢
      exact hkeeps.imp_right (List.mem_cons_of_mem _)
  | members omits =>
    cases hbody
    have hchildren := hx.children
    generalize x.children = own at hchildren
    cases hchildren with
    | @set _ inherited _ inherits kind each complete =>
      intro set hset k ms hreach
      cases inherits.symm.trans hset
      obtain ⟨set, k', ms', hset, hreach', hin⟩ := hhas
      cases inherits.symm.trans hset
      cases hreach.symm.trans hreach'
      exact omits.deletable (hbase.children inherited inherits) each complete hreach hin

end TypeBody.Omits

/-- A type inherits a name that its own declaration may speak of at a site. -/
def Schema.Inherits (s : Schema) (type : FullName) (n : String) (site : Site) : Prop :=
  ∃ id up x, s.lookupType type = some id ∧ (s.typeDef id).base = some up ∧
    (s.typeDef up).asComplex? = some x ∧ x.Has n site

namespace Builder

/-- A restriction of a simple type has no blocks. -/
theorem Takes.restrictSimple_of_isSome {c : Catalog} {limits : Limits} {s : Schema} {b e : Builder}
    (he : e.Becomes c s) (scope : Scope) (kind : Kind) {base : SimpleContent}
    (facets : Option FacetBlock) {attributes : Option AttributeBlock}
    {children : Option ChildrenDecl} (hbase : b.PlacesItem base.item)
    (hblocks : attributes.isSome ∨ children.isSome) :
    b.Takes c limits .all
      (Schemata.restrictSimple c limits scope kind base facets attributes children)
      fun _ b₁ => ¬b₁.Lasts e := by
  have hblocks : (attributes.isSome || children.isSome) = true := by simpa using hblocks
  unfold Schemata.restrictSimple
  rw [if_pos hblocks]
  refine (note _).bind fun _ b₁ hl₁ ⟨_, hne⟩ =>
    (restrictSimple scope kind facets none none (hbase.mono hl₁)).mono fun _ b₂ hl _ hlast => ?_
  exact hne (Fault.isError_diagnostic _ _) ((hl.trans hlast).clean he.clean)

namespace Completes

variable {namespaces : List NamespaceDecl} {limits : Limits} {e : Builder} {s : Schema}

/-- A declared restriction with blocks is one of a complex type. -/
theorem complexType_of_blocks (h : e.Completes namespaces limits)
    (he : e.Becomes (Catalog.ofNamespaces namespaces).1 s) {o : DeclarationId} {id : TypeId}
    (ho : e.symbol? o = some (.type id)) {d : Declaration} {t : TypeDecl}
    (hget : (Catalog.ofNamespaces namespaces).1.getAs? (·.asType?) o = some (d, t)) {r : NameRef}
    {facets : Option FacetBlock} {attributes : Option AttributeBlock}
    {children : Option ChildrenDecl} (ht : t.body = .restriction r facets attributes children)
    (hblocks : attributes.isSome ∨ children.isSome) :
    (e.schema.typeDef id).kind = .complexType := by
  have horigin := (h.regular.origin o id).1 ho
  cases h.sourced.contents id (h.mem_finished ho) with
  | complex origin declared kind =>
    simpa [Kind.isSimple, Kind.isComplex] using kind
  | simple origin declared kind inv placed has base run lasts content =>
    cases horigin.symm.trans origin
    cases hget.symm.trans declared
    unfold simpleContent at run
    rw [ht] at run
    exact absurd lasts ((Takes.restrictSimple_of_isSome he d.scope _ facets
      (placesItem_simpleBase placed id) hblocks).apply placed inv run).2.2.2

/-- A declared restriction with blocks has what its blocks keep of the content of its base. -/
theorem exists_restriction (h : e.Completes namespaces limits)
    (he : e.Becomes (Catalog.ofNamespaces namespaces).1 s) (hs : s.Sound) {ns : NamespaceDecl}
    (hns : ns ∈ namespaces) {t : TypeDecl} (hm : .type t ∈ ns.members) {r : NameRef}
    {facets : Option FacetBlock} {attributes : Option AttributeBlock}
    {children : Option ChildrenDecl} (ht : t.body = .restriction r facets attributes children)
    (hblocks : attributes.isSome ∨ children.isSome) :
    ∃ id up y x, s.lookupType ⟨ns.uri, t.name.text⟩ = some id ∧ (s.typeDef id).base = some up ∧
      (s.typeDef up).asComplex? = some y ∧ y.Sound s ∧
      y.Restriction s (Catalog.ofNamespaces namespaces).1 (Catalog.scopeIn namespaces ns)
        attributes children x := by
  obtain ⟨o, id, up, hget, ho, hlookup, -, hbase, hheader⟩ :=
    h.exists_derived he hns hm (r := r) (by rw [TypeDecl.base?, ht])
  rw [TypeDecl.header, ht] at hheader
  have hkind := h.complexType_of_blocks he ho hget ht hblocks
  obtain ⟨y, hy⟩ := Option.isSome_iff_exists.1
    ((Schema.asComplex?_isSome_iff h.inv.contents up).2 ((Prod.mk.inj hheader).1.symm.trans hkind))
  obtain ⟨x, -, hrestriction⟩ := h.restriction_run ho hget ht hbase hkind he
  rw [TypeDef.extended_of_complex hy] at hrestriction
  rw [← he.typeDef] at hbase hy
  exact ⟨id, up, y, x, hlookup, hbase, hy, hs.content up y hy, hrestriction⟩

/-- Where the name may be deleted, the type may be declared with the deletion or without it. -/
theorem remakes_of_deletable (h : e.Completes namespaces limits)
    (he : e.Becomes (Catalog.ofNamespaces namespaces).1 s) {δ : Redeclaration} {n : String}
    {site : Site}
    (homits : δ.old.body.Omits n site δ.new.body ∨ δ.new.body.Omits n site δ.old.body)
    {id up : TypeId} {x : ComplexContent}
    (hid : s.lookupType ⟨δ.uri, δ.old.name.text⟩ = some id) (hup : (s.typeDef id).base = some up)
    (hx : (s.typeDef up).asComplex? = some x) (hsite : x.Deletable n site) :
    e.Remakes (Catalog.ofNamespaces namespaces).1 limits δ := by
  intro o id' scope up' ho huri hget hup' b b₁ y hb hp hbase hrun hl
  -- the name tells which type it is
  obtain ⟨d, hd, hlookup⟩ := he.declared o _ ho
  have hdecl : d = ⟨scope, .type δ.old⟩ := by
    obtain ⟨_, hd', hpair⟩ := Option.bind_eq_some_iff.1 hget
    obtain ⟨_, -, heq⟩ := Option.map_eq_some_iff.1 hpair
    exact Option.some.inj (hd.symm.trans (hd'.trans (congrArg some (congrArg Prod.fst heq))))
  have hname : d.fullName = ⟨δ.uri, δ.old.name.text⟩ := by
    rw [hdecl, ← huri]
    rfl
  rw [Schema.lookupType, ← hname, hlookup] at hid
  cases hid
  rw [he.typeDef] at hup hx
  cases hup.symm.trans hup'
  have hextended : (e.schema.typeDef up).extended up = x :=
    TypeDef.extended_of_complex hx up
  rw [← hbase] at hextended
  exact ((Takes.complexContent_omit he (fun item a ha => h.entry_of_attribute he ha) homits
    (hextended ▸ hsite)).apply hp hb hrun).2.2.2 hl

end Completes

end Builder

/-! ## Deletions that may be left out -/

/-- Whether a restriction says that it deletes what it inherits, or does not speak of it at all, makes
no difference: the namespaces with the deletion are accepted as a schema if and only if those without
it are and the name is inherited. Behind a deletion of a member, all items have names. -/
theorem acceptance_of_omits {before after : List NamespaceDecl} {ns : NamespaceDecl}
    {ms ms' : List MemberDecl} {t : TypeDecl} {body : TypeBody} {n : String} {site : Site}
    (h : t.body.Omits n site body) (limits : Limits) (s : Schema) :
    Accepts (before ++ { ns with members := ms ++ .type t :: ms' } :: after) limits s ↔
      Accepts (before ++ { ns with members := ms ++ .type { t with body } :: ms' } :: after)
        limits s ∧ s.Inherits ⟨ns.uri, t.name.text⟩ n site := by
  have hresembles : t.Resembles { t with body } := ⟨rfl, rfl, rfl, h.resembles⟩
  constructor
  · intro hs
    obtain ⟨e, he, rfl⟩ := hs.exists_builder
    obtain ⟨r, facets, attributes, children, hbody⟩ := TypeBody.Omits.exists_restriction (.inl h)
    obtain ⟨id, up, y, x, hid, hup, hy, hsound, hrestriction⟩ :=
      he.exists_restriction he.becomes hs.sound (List.mem_append_right _ List.mem_cons_self)
        (List.mem_append_right _ List.mem_cons_self) hbody (TypeBody.Omits.isSome_block (.inl h) hbody)
    obtain ⟨hdeletable, hhas⟩ := h.exists_deletable hbody hsound hrestriction
    let δ : Redeclaration := ⟨ns.uri, t, { t with body }, hresembles⟩
    have hremakes : e.Remakes _ limits δ :=
      he.remakes_of_deletable he.becomes (.inl h) hid hup hy hdeletable
    exact ⟨he.accepts_of_remakes (δ.forall₂_namespaces before ns ms ms' after rfl) hremakes,
      id, up, y, hid, hup, hy, hhas⟩
  · rintro ⟨hs, id, up, y, hid, hup, hy, hhas⟩
    obtain ⟨e, he, rfl⟩ := hs.exists_builder
    obtain ⟨r, facets, attributes, children, hbody⟩ := TypeBody.Omits.exists_restriction (.inr h)
    obtain ⟨id', up', y', x, hid', hup', hy', hsound, hrestriction⟩ :=
      he.exists_restriction (t := { t with body }) he.becomes hs.sound
        (List.mem_append_right _ List.mem_cons_self) (List.mem_append_right _ List.mem_cons_self)
        hbody (TypeBody.Omits.isSome_block (.inr h) hbody)
    cases hid.symm.trans hid'
    cases hup.symm.trans hup'
    cases hy.symm.trans hy'
    have hdeletable := h.deletable hbody hsound hrestriction
      (fun item a ha => he.entry_of_attribute he.becomes ha) hhas
    let δ : Redeclaration := ⟨ns.uri, { t with body }, t, hresembles.symm⟩
    have hremakes : e.Remakes _ limits δ :=
      he.remakes_of_deletable he.becomes (.inr h) hid hup hy hdeletable
    exact he.accepts_of_remakes (δ.forall₂_namespaces before ns ms ms' after rfl) hremakes

/-- A ticket for a day with some items of children. -/
def dayTicket (items : List ChildItem) : TypeDecl where
  name := ⟨"DayTicket", none⟩
  body := .restriction (.ofText "Ticket") none (some dayAttributes)
    (some (.set { kind := .sequence, items }))

/-- The tickets, with some items for one for a day. -/
def ticketsOf (items : List ChildItem) : NamespaceDecl :=
  { tickets with
    members := tickets.members.take 1 ++ .type (dayTicket items) :: tickets.members.drop 2 }

/-- A choice of trains, with other items behind them. -/
def trains (rest : List ChildItem) : ChildItem :=
  .set none .choice (.element { name := ⟨"train", none⟩, type := .ofText "String" } :: rest) none none

/-- The items of a ticket for a day need not say that there is no bus. -/
theorem day_ticket_without_bus : let s := schemaOf [tickets] {}
    Accepts [tickets] {} s ∧
    TypeBody.Omits "bus" (.members ["Choice1"]) (dayTicket dayChildren.items).body
      (dayTicket [.delete { name := ⟨"stop", none⟩ }, trains []]).body ∧
    Accepts [ticketsOf [.delete { name := ⟨"stop", none⟩ }, trains []]] {} s ∧
    s.Inherits ⟨"urn:tickets", "DayTicket"⟩ "bus" (.members ["Choice1"]) := by
  intro s
  have hs : Accepts [tickets] {} s := accepts_schemaOf (by decide +kernel)
  have hbus : ChildItem.Omits "bus" []
      ([.element { name := ⟨"train", none⟩, type := .ofText "String" }] ++
        [.delete { name := ⟨"bus", none⟩ }])
      ([.element { name := ⟨"train", none⟩, type := .ofText "String" }] ++ []) :=
    .here rfl (by decide) (List.forall_mem_nil _)
  have hset : ChildItem.Omits "bus"
      [(trains [.delete { name := ⟨"bus", none⟩ }]).memberName 1]
      ([.delete { name := ⟨"stop", none⟩ }] ++ [trains [.delete { name := ⟨"bus", none⟩ }]])
      ([.delete { name := ⟨"stop", none⟩ }] ++ [trains []]) :=
    @ChildItem.Omits.inside _ [_] [] _ _ none .choice none none [] hbus
  have hname : (trains [.delete { name := ⟨"bus", none⟩ }]).memberName 1 = "Choice1" := by decide
  have homits : TypeBody.Omits "bus" (.members ["Choice1"]) (dayTicket dayChildren.items).body
      (dayTicket [.delete { name := ⟨"stop", none⟩ }, trains []]).body := hname ▸ .members hset
  have hiff : Accepts [tickets] {} s ↔
      Accepts [ticketsOf [.delete { name := ⟨"stop", none⟩ }, trains []]] {} s ∧
        s.Inherits ⟨"urn:tickets", "DayTicket"⟩ "bus" (.members ["Choice1"]) :=
    @acceptance_of_omits [] [] tickets (tickets.members.take 1) (tickets.members.drop 2)
      (dayTicket dayChildren.items) _ _ _ homits {} s
  exact ⟨hs, homits, hiff.1 hs⟩

/-- They have to say that there is no stop, or the choice behind would have another name. -/
theorem day_ticket_needs_stop : let s := schemaOf [tickets] {}
    dayChildren.items =
      [.delete { name := ⟨"stop", none⟩ }, trains [.delete { name := ⟨"bus", none⟩ }]] ∧
    .keeps "stop" ∉ ChildItem.entries 0 dayChildren.items ∧
    s.Inherits ⟨"urn:tickets", "DayTicket"⟩ "stop" (.members []) ∧
    accepted [tickets] {} = true ∧
    accepted [ticketsOf [trains [.delete { name := ⟨"bus", none⟩ }]]] {} = false := by
  intro s
  have hstop : ((s.typeDef ⟨22⟩).asComplex?.bind ComplexContent.childSet?).map
      (fun set => Member.isIn set.members "stop") = some true := by decide +kernel
  obtain ⟨set, hset, hin⟩ := Option.map_eq_some_iff.1 hstop
  obtain ⟨x, hx, hset⟩ := Option.bind_eq_some_iff.1 hset
  exact ⟨rfl, by decide, ⟨⟨23⟩, ⟨22⟩, x, by decide +kernel, by decide +kernel, hx, set, _, _,
    ComplexContent.childSet?_eq_some.1 hset, rfl, hin⟩, by decide +kernel, by decide +kernel⟩

end Schemata
