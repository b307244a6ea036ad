import Schemata.Proofs.Extension

/-!
# Kinds of child sets

A child set has the kind of the set that it derives from. A restriction has to name that kind; an
extension need not, for its block only adds members to the set of the base, whatever its own kind
is (`kind_of_extension`). So alternatives of a choice may end up as required members of a sequence.
-/

namespace Schemata

/-- The set of structural children of a type. -/
def Schema.childSet? (s : Schema) (id : TypeId) : Option ChildSet :=
  (s.typeDef id).asComplex?.bind (·.childSet?)

theorem Schema.childSet?_eq_some {s : Schema} {id : TypeId} {set : ChildSet} :
    s.childSet? id = some set ↔
      ∃ x, (s.typeDef id).asComplex? = some x ∧ x.children = some (.set set) := by
  rw [childSet?, Option.bind_eq_some_iff]
  exact exists_congr fun x => and_congr_right fun _ => ComplexContent.childSet?_eq_some

theorem TypeDef.asSimple?_of_content {t : TypeDef} {x : SimpleContent}
    (h : t.content = .simple x) : t.asSimple? = some x := by
  rw [asSimple?, h]

theorem TypeDef.asSimple?_of_asComplex? {t : TypeDef} {x : ComplexContent}
    (h : t.asComplex? = some x) : t.asSimple? = none := by
  unfold asComplex? at h
  unfold asSimple?
  split at h
  · cases h
  · rfl

/-- The types that are built in have no children. -/
theorem Kind.childSet?_builtin {s : Schema} {id : TypeId} {k : Kind}
    (h : s.typeDef id = k.builtin) : s.childSet? id = none := by
  rw [Schema.childSet?, h]
  cases hx : k.builtin.asComplex? with
  | none => rfl
  | some x =>
    rw [Kind.eq_of_asComplex?_builtin hx]
    rfl

/-- Children that narrow a set are a set of its kind. -/
theorem Children.Narrow.exists_set {s : Schema} {x : Option Children} {set : ChildSet}
    (h : Children.Narrow s x (some (.set set))) :
    ∃ own : ChildSet, x = some (.set own) ∧ own.kind = set.kind := by
  cases h
  exact ⟨_, rfl, rfl⟩

namespace Builder

variable {namespaces : List NamespaceDecl} {c : Catalog} {limits : Limits} {e : Builder}

/-- A type that names no base is above a built-in one. -/
theorem Above.eq_implicitBase {o : DeclarationId} {d : Declaration} {t : TypeDecl} {up : TypeId}
    (hget : c.getAs? (·.asType?) o = some (d, t)) (hr : t.base? = none)
    (h : e.Above (·.asType?) (typeLink c) o up) : up = t.implicitBase.typeId := by
  unfold Above typeLink at h
  simp only [hget, hr] at h
  rcases h with hroot | ⟨p, hnext, -⟩
  · cases hroot
    rfl
  · cases hnext

namespace Completes

/-- A type whose base has a set of children has a set of that kind. -/
theorem exists_childSet (h : e.Completes namespaces limits) {s : Schema} (hs : s.Sound)
    (he : e.Becomes (Catalog.ofNamespaces namespaces).1 s) {id up : TypeId}
    (hup : (s.typeDef id).base = some up) {set : ChildSet} (hset : s.childSet? up = some set) :
    ∃ own, s.childSet? id = some own ∧ own.kind = set.kind := by
  obtain ⟨y, hy, hchildren⟩ := Schema.childSet?_eq_some.1 hset
  have hbuiltin : ∀ k : Kind, up ≠ k.typeId := by
    rintro k rfl
    rw [Kind.childSet?_builtin (hs.builtin k)] at hset
    cases hset
  rcases h.inv.builtin_or_finished (fun id hid => h.isFinished hid) id with ⟨k, hk⟩ | hfinished
  · rw [he.typeDef, hk] at hup
    obtain ⟨l, -, hl⟩ := Option.map_eq_some_iff.1 hup
    exact absurd hl.symm (hbuiltin l)
  cases h.sourced.contents id hfinished with
  | simple origin declared kind inv placed has base run lasts content =>
    obtain ⟨z, hz, -⟩ := hs.simple id _ up (TypeDef.asSimple?_of_content
      ((he.typeDef id).symm ▸ content)) hup
    cases hz.symm.trans (TypeDef.asSimple?_of_asComplex? hy)
  | @complex o d t x _ _ origin declared kind inv placed has base run lasts content =>
    have hx : (s.typeDef id).asComplex? = some x := by
      rw [he.typeDef, TypeDef.asComplex?, content]
    have hid := (h.regular.origin o id).2 origin
    obtain ⟨d', t', up', declared', above, ⟨x', header⟩, -⟩ := h.sourced.types o id hid
    cases declared.symm.trans declared'
    have hbase : (s.typeDef id).base = some up' := by
      rw [he.typeDef, header]
      rfl
    obtain rfl := Option.some.inj (hbase.symm.trans hup)
    cases hbody : t.body with
    | list item =>
      exact absurd (above.eq_implicitBase declared (by rw [TypeDecl.base?, hbody])) (hbuiltin _)
    | complex attributes children =>
      exact absurd (above.eq_implicitBase declared (by rw [TypeDecl.base?, hbody])) (hbuiltin _)
    | extension r attributes children =>
      have hkind : (e.schema.typeDef id).kind = .complexType := by
        rw [header]
        simp [Declaration.typeDef, TypeDecl.header, hbody]
      obtain ⟨x, hx, hextension⟩ := h.extension_run hid declared hbody
        (he.typeDef id ▸ hbase) hkind he
      rw [← he.typeDef] at hx hextension
      rw [TypeDef.extended_of_complex hy] at hextension
      obtain ⟨-, new, -, -, hown⟩ := hextension.children.set set hchildren
      exact ⟨_, Schema.childSet?_eq_some.2 ⟨x, hx, hown⟩, rfl⟩
    | restriction r facets attributes children =>
      have hderivation : (s.typeDef id).derivation = .restriction := by
        rw [he.typeDef, header]
        simp [Declaration.typeDef, TypeDecl.header, hbody]
      obtain ⟨z, hz, hnarrows⟩ := hs.restriction id x up' hderivation hx hbase
      obtain rfl := Option.some.inj (hy.symm.trans hz)
      obtain ⟨own, hown, hkind⟩ := (hchildren ▸ hnarrows.children).exists_set
      exact ⟨own, Schema.childSet?_eq_some.2 ⟨x, hx, hown⟩, hkind⟩

/-- So it is for all types above a type. -/
theorem exists_childSet_of_derives (h : e.Completes namespaces limits) {s : Schema} (hs : s.Sound)
    (he : e.Becomes (Catalog.ofNamespaces namespaces).1 s) {id up : TypeId}
    (hup : s.derives id up) {set : ChildSet} (hset : s.childSet? up = some set) :
    ∃ own, s.childSet? id = some own ∧ own.kind = set.kind := by
  induction (Schema.derives_iff hs.ordered).1 hup using Relation.ReflTransGen.head_induction_on with
  | refl => exact ⟨set, hset, rfl⟩
  | head hbase htail ih =>
    obtain ⟨middle, hmiddle, hkind⟩ := ih ((Schema.derives_iff hs.ordered).2 htail)
    obtain ⟨own, hown, hkind'⟩ := h.exists_childSet hs he hbase hmiddle
    exact ⟨own, hown, hkind'.trans hkind⟩

end Completes

end Builder

/-- An extension of a type with a set of children has more members at the end of that set. The set
is of the kind of every set above it, so the block that declares the new members is of its kind if
and only if it is of theirs. -/
theorem kind_of_extension {namespaces : List NamespaceDecl} {limits : Limits} {s : Schema}
    (h : Accepts namespaces limits s) {ns : NamespaceDecl} (hns : ns ∈ namespaces) {t : TypeDecl}
    (ht : .type t ∈ ns.members) {r : NameRef} {attributes : Option AttributeBlock}
    {d : ChildSetDecl} (hbody : t.body = .extension r attributes (some (.set d))) :
    ∃ id up, s.lookupType ⟨ns.uri, t.name.text⟩ = some id ∧
      s.referent? (Catalog.ofNamespaces namespaces).1 (Catalog.scopeIn namespaces ns) r =
        some (.type up) ∧
      (s.typeDef id).base = some up ∧
      ∀ top set, s.derives up top → s.childSet? top = some set →
        ∃ own inherited new, s.childSet? id = some own ∧ s.childSet? up = some inherited ∧
          ChildItem.members? s (Catalog.ofNamespaces namespaces).1 (Catalog.scopeIn namespaces ns)
            inherited.members.length d.items = some new ∧
          own.members = inherited.members ++ new ∧ own.kind = set.kind ∧
          (d.kind = own.kind ↔ d.kind = set.kind) := by
  have hsound := h.sound
  obtain ⟨e, he, rfl⟩ := h.exists_builder
  have hbecomes := he.becomes
  obtain ⟨id, up, hlookup, hr, hextends⟩ := he.exists_extendsBy hbecomes hns ht hbody
  refine ⟨id, up, hlookup, hr, hextends.base, fun top set htop hset => ?_⟩
  obtain ⟨inherited, hinherited, hkind⟩ :=
    he.exists_childSet_of_derives hsound hbecomes htop hset
  obtain ⟨y, hy, hchildren⟩ := Schema.childSet?_eq_some.1 hinherited
  obtain ⟨x, hx, hextension⟩ := hextends.complex y hy
  obtain ⟨items, new, hitems, hnew, hown⟩ := hextension.children.set inherited hchildren
  cases hitems
  exact ⟨_, inherited, new, Schema.childSet?_eq_some.2 ⟨x, hx, hown⟩, hinherited, hnew, rfl,
    hkind, by rw [hkind]⟩

/-- A letter by air, whose block is a sequence, has a sequence as a letter has, two steps above. -/
theorem air_letter_kind : let s := schemaOf [mail] {}
    Accepts [mail] {} s ∧ mail ∈ [mail] ∧ ∃ own, s.childSet? ⟨24⟩ = some own ∧
      own.kind = airChildren.kind := by
  intro s
  have hs : Accepts [mail] {} s := accepts_schemaOf (by decide +kernel)
  have hmail : mail ∈ [mail] := List.mem_cons_self
  refine ⟨hs, hmail, ?_⟩
  obtain ⟨id, up, hid, -, hup, hkind⟩ := kind_of_extension hs hmail
    (t := ⟨⟨"AirLetter", none⟩, false, false,
      .extension (.ofText "ShortLetter") airAttributes (some (.set airChildren))⟩)
    (.tail _ (.tail _ (.head _))) rfl
  have hfound : s.lookupType ⟨"urn:mail", "AirLetter"⟩ = some ⟨24⟩ := by decide +kernel
  obtain rfl := Option.some.inj (hid.symm.trans hfound)
  have hbase : (s.typeDef ⟨24⟩).base = some ⟨23⟩ := by decide +kernel
  obtain rfl := Option.some.inj (hup.symm.trans hbase)
  have hletter : (s.childSet? ⟨22⟩).map (·.kind) = some .sequence := by decide +kernel
  obtain ⟨set, hset, hsequence⟩ := Option.map_eq_some_iff.1 hletter
  obtain ⟨own, -, -, hown, -, -, -, -, hiff⟩ := hkind ⟨22⟩ set (by decide +kernel) hset
  exact ⟨own, hown, (hiff.2 hsequence.symm).symm⟩

/-- Either the number of a card or a token is to be told. -/
def cardChildren : ChildSetDecl where
  kind := .choice
  items := [
    .element { name := ⟨"number", none⟩, type := .ofText "String" },
    .element { name := ⟨"token", none⟩, type := .ofText "String" }]

/-- A payment, and one by card. -/
def payments : NamespaceDecl where
  uri := "urn:payments"
  members := [
    .type { name := ⟨"Payment", none⟩
            body := .complex none (some (.set { kind := .sequence, items := [
              .element { name := ⟨"amount", none⟩, type := .ofText "Decimal" }] })) },
    .type { name := ⟨"CardPayment", none⟩
            body := .extension (.ofText "Payment") none (some (.set cardChildren)) }]

/-- What is declared as alternatives is required, one after the other. -/
theorem card_payment_needs_both : let s := schemaOf [payments] {}
    Accepts [payments] {} s ∧
    s.lookupType ⟨"urn:payments", "CardPayment"⟩ = some ⟨23⟩ ∧
    (s.typeDef ⟨23⟩).base = some ⟨22⟩ ∧ (s.childSet? ⟨22⟩).isSome ∧
    ∃ own, s.childSet? ⟨23⟩ = some own ∧ own.kind ≠ cardChildren.kind ∧
      own.members.map (fun m => (m.name, m.isOptional)) =
        [("amount", false), ("number", false), ("token", false)] := by
  intro s
  have hs : Accepts [payments] {} s := accepts_schemaOf (by decide +kernel)
  have hown : (s.childSet? ⟨23⟩).map (fun set =>
      (set.kind, set.members.map fun m => (m.name, m.isOptional))) =
        some (.sequence, [("amount", false), ("number", false), ("token", false)]) := by
    decide +kernel
  obtain ⟨own, hown, heq⟩ := Option.map_eq_some_iff.1 hown
  obtain ⟨hkind, hmembers⟩ := Prod.mk.inj heq
  exact ⟨hs, by decide +kernel, by decide +kernel, by decide +kernel, own, hown,
    by rw [hkind]; decide, hmembers⟩

end Schemata
