import Schemata.Proofs.Substitution

/-!
# Integrity

What is stored in an accepted schema is in order (`intact_of_accepts`): every number was given out,
bases come before the types that derive from them, kinds go with contents, no type derives from a
sealed one, and no declared type is deeper than the limits allow.

Bases and depths are checked when a type is added, and the types above it never change afterwards.
So the checks still hold at the end (`Builder.Derived`).
-/

namespace Schemata

open Relation

/-! ## Depths in a growing schema -/

/-- Where links go down in a rank, a walk that has enough steps depends on the links from lower
ranks only. -/
theorem follow_congr {α : Type} {link link' : α → Option α} (rank : α → Nat)
    (hr : ∀ x y, link x = some y → rank y < rank x) {n n' : Nat} {a : α} (hn : rank a ≤ n)
    (hn' : rank a ≤ n') (hl : ∀ x, rank x ≤ rank a → link' x = link x) :
    follow link' n' a = follow link n a := by
  have hroot : rank a = 0 → link a = none := by
    intro hzero
    cases hx : link a with
    | none => rfl
    | some y =>
      have := hr a y hx
      omega
  induction n generalizing n' a with
  | zero =>
    have hnone := hroot (by omega)
    cases n' with
    | zero => rfl
    | succ n' => simp [follow, hl a le_rfl, hnone]
  | succ n ih =>
    cases n' with
    | zero =>
      have hnone := hroot (by omega)
      simp [follow, hnone]
    | succ n' =>
      rw [follow, follow, hl a le_rfl]
      cases hx : link a with
      | none => rfl
      | some y =>
        have hlt := hr a y hx
        rw [Option.elim_some, Option.elim_some,
          ih (by omega) (by omega) (fun x hx => hl x (by omega)) fun hzero => ?_]
        cases hy : link y with
        | none => rfl
        | some z =>
          have := hr y z hy
          omega

namespace Schema

variable {s s' : Schema}

/-- The chain of bases of a type stays as it is. -/
theorem Extends.depth_eq (h : s.Extends s')
    (hb : ∀ id up, (s.typeDef id).base = some up → up.index < id.index) {id : TypeId}
    (hid : s.Has id) : s'.depth id = s.depth id := by
  have hchain : s'.baseChain id = s.baseChain id :=
    follow_congr TypeId.index hb (Nat.le_of_lt hid) (Nat.le_of_lt (h.has hid))
      fun x hx => h.base x (lt_of_le_of_lt hx hid)
  rw [depth, depth, hchain]

/-- A type that was declared. -/
def IsDeclared (s : Schema) (id : TypeId) : Prop := Kind.all.length ≤ id.index ∧ s.Has id

/-- What is stored is in order. -/
structure Intact (s : Schema) (limits : Limits) : Prop where
  issued : ∀ id ∈ s.ids, s.Issues id
  base : ∀ id up, (s.typeDef id).base = some up → up.index < id.index
  content : ∀ id, (s.typeDef id).asComplex?.isSome ↔ (s.typeDef id).kind = .complexType
  restriction : ∀ id up, s.IsDeclared id → (s.typeDef id).derivation = .restriction →
    (s.typeDef id).base = some up → (s.typeDef id).kind = (s.typeDef up).kind
  /-- The types of list items, of the attributes of a type and of simple values are simple. -/
  simple : ∀ id, ∀ t ∈ (s.typeDef id).content.simpleTypes, (s.typeDef t).kind.isSimple
  attributes : ∀ id a, s.attribute? id = some a → (s.typeDef a.type).kind.isSimple
  unsealed : ∀ id up, s.derives id up → up ≠ id → (s.typeDef up).isSealed = false
  depth : ∀ id, s.IsDeclared id → s.depth id ≤ limits.derivationDepth
  derives : ∀ id up, s.derives id up ↔ ReflTransGen (fun x y => (s.typeDef x).base = some y) id up
  order : IsPartialOrder TypeId fun id up => s.derives id up

end Schema

/-! ## Types above types -/

namespace Builder

variable {c : Catalog} {limits : Limits} {b b' : Builder}

/-- What was checked of the base of each type. -/
structure Derived (limits : Limits) (b : Builder) : Prop where
  roots : ∀ k : Kind, (b.schema.typeDef k.typeId).isSealed = false
  base : ∀ id up, (b.schema.typeDef id).base = some up → up.index < id.index
  unsealed : b.Clean → ∀ id up, (b.schema.typeDef id).base = some up →
    (b.schema.typeDef up).isSealed = false
  depth : b.Clean → ∀ id, b.schema.IsDeclared id → b.schema.depth id ≤ limits.derivationDepth

namespace Lasts

theorem isSealed_eq (hl : b.Lasts b') {id : TypeId} (hid : b.schema.Has id) :
    (b'.schema.typeDef id).isSealed = (b.schema.typeDef id).isSealed := by
  obtain ⟨x, hx⟩ := hl.header id hid
  rw [hx]

end Lasts

theorem isSealed_of_baseFaults {t : TypeDef} (h : baseFaults t = []) : t.isSealed = false := by
  unfold baseFaults at h
  cases hs : t.isSealed with
  | false => rfl
  | true => simp [hs] at h

/-- A step that may add one type, of which everything is known that is checked of a new type. -/
theorem Derived.next (hb : b.Derived limits) (hp : b.Placed) (hl : b.Lasts b')
    (hnew : ∀ id, b'.schema.Has id → b.schema.Has id ∨
      (∀ up, (b'.schema.typeDef id).base = some up → b.schema.Has up ∧ up.index < id.index ∧
        (b'.Clean → (b.schema.typeDef up).isSealed = false)) ∧
      (b'.Clean → b'.schema.depth id ≤ limits.derivationDepth)) : b'.Derived limits := by
  have hhas : ∀ id up, b.schema.Has id → (b'.schema.typeDef id).base = some up →
      (b.schema.typeDef id).base = some up ∧ b.schema.Has up := by
    intro id up hid hup
    rw [hl.schema.base id hid] at hup
    exact ⟨hup, lt_trans (hb.base id up hup) hid⟩
  refine ⟨fun k => ?_, fun id up hup => ?_, fun hc id up hup => ?_, fun hc id hid => ?_⟩
  · rw [hl.isSealed_eq (hp.builtin k)]
    exact hb.roots k
  · rcases hnew id (Schema.has_of_base hup) with hid | ⟨hid, -⟩
    · exact hb.base id up (hhas id up hid hup).1
    · exact (hid up hup).2.1
  · rcases hnew id (Schema.has_of_base hup) with hid | ⟨hid, -⟩
    · obtain ⟨hup, hhas⟩ := hhas id up hid hup
      rw [hl.isSealed_eq hhas]
      exact hb.unsealed (hl.clean hc) id up hup
    · obtain ⟨hhas, -, hsealed⟩ := hid up hup
      rw [hl.isSealed_eq hhas]
      exact hsealed hc
  · rcases hnew id hid.2 with hold | ⟨-, hdepth⟩
    · rw [hl.schema.depth_eq hb.base hold]
      exact hb.depth (hl.clean hc) id ⟨hid.1, hold⟩
    · exact hdepth hc

theorem Derived.of_size_eq (hb : b.Derived limits) (hp : b.Placed) (hl : b.Lasts b')
    (hsize : b'.schema.types.size = b.schema.types.size) : b'.Derived limits :=
  hb.next hp hl fun id hid => Or.inl (by rwa [Schema.Has, hsize] at hid)

/-- The base of a declaration was given out, and is not sealed if it is the one of a declaration
that names none. -/
theorem Above.base (hb : b.Derived limits) (hp : b.Placed) {o : DeclarationId} {d : Declaration}
    {t : TypeDecl} (declared : c.getAs? (·.asType?) o = some (d, t)) {up : TypeId}
    (h : b.Above (·.asType?) (typeLink c) o up) : b.schema.Has up ∧
      (t.base? = none → (b.schema.typeDef up).isSealed = false) := by
  constructor
  · rcases h with hroot | ⟨p, -, hp'⟩
    · obtain ⟨k, rfl⟩ := Ensures.typeLink_root hroot
      exact hp.builtin k
    · obtain ⟨s, hs, ht⟩ := Option.bind_eq_some_iff.1 hp'
      cases s <;> cases ht
      exact hp.symbol hs
  · intro hnone
    have hlink : typeLink c o = .ok (.root t.implicitBase.typeId) := by
      rw [typeLink, declared]
      simp only [hnone]
    rcases h with hroot | ⟨p, hnext, -⟩
    · cases hlink.symm.trans hroot
      exact hb.roots _
    · cases hlink.symm.trans hnext

theorem TypeStep.derived (h : b.TypeStep c limits b') (hp : b.Placed) (hb : b.Derived limits) :
    b'.Derived limits := by
  have hl := h.lasts
  cases h with
  | record clean => exact hb.of_size_eq hp hl rfl
  | openType id => exact hb.of_size_eq hp hl rfl
  | finish => exact hb.of_size_eq hp hl (by simp [Builder.finish])
  | @addType o d t up l declared new above clean base depth =>
    obtain ⟨hup, hroot⟩ := above.base hb hp declared
    refine hb.next hp hl fun id hid => ?_
    have hid' : id.index < b.schema.types.size + 1 := by
      simpa [Schema.Has, Builder.addType] using hid
    rcases Nat.lt_succ_iff_lt_or_eq.1 hid' with hlt | heq
    · exact Or.inl hlt
    · obtain rfl : id = ⟨b.schema.types.size⟩ := congrArg TypeId.mk heq
      refine Or.inr ⟨fun x hx => ?_, fun hc => depth hc⟩
      have hx : ((b.addType o (d.typeDef t up (b.schema.typeDef up))).2.schema.typeDef
          ⟨b.schema.types.size⟩).base = some x := hx
      obtain rfl : up = x := by
        simpa [Schema.typeDef, Builder.addType, Declaration.typeDef] using hx
      refine ⟨hup, hup, fun hc => ?_⟩
      cases hbase : t.base? with
      | none => exact hroot hbase
      | some r => exact isSealed_of_baseFaults (base hc (by rw [hbase]; rfl))

theorem Step.derived (h : b.Step c limits b') (hp : b.Placed) (hb : b.Derived limits) :
    b'.Derived limits := by
  have hl := h.lasts
  cases h with
  | type step => exact step.derived hp hb
  | openAttribute o => exact hb.of_size_eq hp hl rfl
  | addAttribute => exact hb.of_size_eq hp hl rfl
  | addElement => exact hb.of_size_eq hp hl rfl
  | finish => exact hb.of_size_eq hp hl (by simp [Builder.finish])

theorem Extent.Steps.derived {k : Extent} (h : k.Steps c limits b b') (hp : b.Placed)
    (hb : b.Derived limits) : b'.Derived limits := by
  induction h with
  | refl => exact hb
  | tail hs step ih => exact (Extent.Step.of_any step).derived (Extent.Steps.placed hs hp) ih

theorem start_derived (limits : Limits) (ledger : Ledger) : Derived limits { ledger } where
  roots k := by
    rw [Schema.builtin_typeDef]
    rfl
  base := (start_inv ⟨[], #[]⟩ ledger).ordered.base
  unsealed _ id up h := by
    obtain ⟨k, rfl, -⟩ := (start_inv ⟨[], #[]⟩ ledger).exists_kind
      (lt_trans ((start_inv ⟨[], #[]⟩ ledger).ordered.base id up h) (Schema.has_of_base h))
    rw [Schema.builtin_typeDef]
    rfl
  depth _ id hid := absurd hid.2 (not_lt.2 hid.1)

/-! ## A compilation that comes to its end -/

namespace Completes

variable {namespaces : List NamespaceDecl}

theorem derived (h : b.Completes namespaces limits) : b.Derived limits :=
  h.steps.derived (start_placed _) (start_derived limits _)

/-- What is public was given out. -/
theorem issues_of_mem_members (h : b.Completes namespaces limits) {ns : Namespace}
    (hns : ns ∈ (b.published (Catalog.ofNamespaces namespaces).1).namespaces)
    {p : String × SymbolId} (hp : p ∈ ns.members) : b.schema.Issues p.2 := by
  have hmembers : (b.published (Catalog.ofNamespaces namespaces).1).members ns.uri = ns.members :=
    Namespace.membersAt_of_mem h.nodup_uris hns
  rw [h.members_published] at hmembers
  rw [← hmembers, List.mem_append] at hp
  rcases hp with hp | hp
  · split at hp
    · obtain ⟨k, -, rfl⟩ := List.mem_map.1 hp
      exact h.placed.builtin k
    · cases hp
  · obtain ⟨q, hq, rfl⟩ := List.mem_map.1 hp
    obtain ⟨o, d, -, ho, -⟩ := mem_named.1 (List.mem_of_mem_filter hq)
    exact h.placed.symbol ho

/-- Every number that is stored was given out. -/
theorem issues_of_mem_ids (h : b.Completes namespaces limits) {id : SymbolId}
    (hid : id ∈ (b.published (Catalog.ofNamespaces namespaces).1).ids) : b.schema.Issues id := by
  have hp := h.placed
  have hnamespaces := fun ns (hns : ns ∈ (b.published _).namespaces) p hmem =>
    h.issues_of_mem_members hns (p := p) hmem
  rw [published_eq_withNames] at hid hnamespaces
  simp only [Schema.ids, List.mem_append, List.mem_flatMap, Array.mem_toList_iff] at hid
  rcases hid with (((⟨t, ht, hid⟩ | ⟨a, ha, hid⟩) | ⟨e, he, hid⟩) | ⟨ns, hns, hid⟩) | ⟨p, hp', hid⟩
  · obtain ⟨i, hi, rfl⟩ := Array.getElem_of_mem ht
    have hdef : b.schema.typeDef ⟨i⟩ = b.schema.types[i] := by
      rw [Schema.typeDef, Array.getElem?_eq_getElem hi, Option.getD_some]
    rw [← hdef, TypeDef.ids, List.mem_append] at hid
    rcases hid with hid | hid
    · obtain ⟨up, hup, rfl⟩ := List.mem_map.1 hid
      exact h.inv.has_base (Option.mem_toList.1 hup)
    · exact (hp.contents ⟨i⟩).ids id hid
  · obtain ⟨i, hi, rfl⟩ := Array.getElem_of_mem ha
    exact (hp.attributes ⟨i⟩ _ (Array.getElem?_eq_getElem hi)).ids id hid
  · obtain ⟨i, hi, rfl⟩ := Array.getElem_of_mem he
    exact (hp.elements ⟨i⟩ _ (Array.getElem?_eq_getElem hi)).ids id hid
  · obtain ⟨p, hmem, rfl⟩ := List.mem_map.1 hid
    exact hnamespaces ns hns p hmem
  · have hlink := (h.linkedElements.linked.table p.1 p.2).1 hp'
    obtain ⟨e, he, -⟩ := Schema.mem_element_of_substituted hlink
    have hlt := Schema.index_lt_of_element he
    rcases List.mem_pair.1 hid with rfl | rfl
    · exact lt_trans (h.inv.heads p.2 p.1 hlink) hlt
    · exact hlt

/-- A declared restriction has the kind of its base. -/
theorem kind_of_restriction (h : b.Completes namespaces limits) {id up : TypeId}
    (hid : b.schema.IsDeclared id) (hr : (b.schema.typeDef id).derivation = .restriction)
    (hup : (b.schema.typeDef id).base = some up) :
    (b.schema.typeDef id).kind = (b.schema.typeDef up).kind := by
  obtain ⟨o, ho⟩ := h.inv.origin_of_has hid.2 (not_lt.2 hid.1)
  obtain ⟨d, t, up', -, -, hup', -, hheader, -⟩ := h.inv.declared id o ho
  obtain rfl := Option.some.inj (hup.symm.trans hup')
  rw [hr] at hheader
  unfold TypeDecl.header at hheader
  cases ht : t.body <;> simp_all

end Completes

end Builder

namespace Schema

variable {s : Schema}

theorem asComplex?_isSome_iff (h : ∀ id, (s.typeDef id).kind.isSimple =
    (s.typeDef id).asSimple?.isSome) (id : TypeId) :
    (s.typeDef id).asComplex?.isSome ↔ (s.typeDef id).kind = .complexType := by
  have hkind := h id
  unfold TypeDef.asSimple? TypeDef.asComplex? at *
  unfold Kind.isSimple Kind.isComplex at hkind
  cases hc : (s.typeDef id).content <;> simp_all

/-- A type has a number that is no smaller than those of the types above it. -/
theorem index_le_of_derives (ho : s.Ordered) {id up : TypeId} (h : s.derives id up) :
    up.index ≤ id.index := by
  induction (derives_iff ho).1 h with
  | refl => exact le_rfl
  | tail hs hstep ih => exact (Nat.le_of_lt (ho.base _ _ hstep)).trans (ih ((derives_iff ho).2 hs))

theorem isPartialOrder_derives (ho : s.Ordered) :
    IsPartialOrder TypeId fun id up => s.derives id up where
  refl := s.derives_refl
  trans _ _ _ := derives_trans ho
  antisymm _ _ h h' :=
    congrArg TypeId.mk (Nat.le_antisymm (index_le_of_derives ho h') (index_le_of_derives ho h))

end Schema

/-- What is stored in an accepted schema is in order. -/
theorem intact_of_accepts {namespaces : List NamespaceDecl} {limits : Limits} {s : Schema}
    (h : Accepts namespaces limits s) : s.Intact limits := by
  obtain ⟨b, hb, rfl⟩ := h.exists_builder
  have ho := Builder.ordered_published hb.inv.ordered (Catalog.ofNamespaces namespaces).1
  have hids := fun id (hid : id ∈ (b.published _).ids) => hb.issues_of_mem_ids hid
  have horder := Schema.isPartialOrder_derives ho
  rw [b.published_eq_withNames] at ho hids horder ⊢
  have hd := hb.derived
  refine ⟨hids, ho.base, Schema.asComplex?_isSome_iff hb.inv.contents,
    fun id up => hb.kind_of_restriction, fun id => (hb.placed.contents id).simple hb.clean,
    fun id a ha => (hb.placed.attributes id a ha).simple hb.clean _ List.mem_cons_self,
    fun id up hderives hne => ?_, hd.depth hb.clean, fun id up => Schema.derives_iff ho, horder⟩
  rcases ((Schema.derives_iff ho).1 hderives).cases_tail with heq | ⟨x, -, hstep⟩
  · exact absurd heq hne
  · exact hd.unsealed hb.clean x up hstep

/-- A restriction of a restriction of texts, which is sealed, and lists of it. -/
def ladder : List NamespaceDecl :=
  let text (name : String) : Ident := ⟨name, none⟩
  let narrowed (base : String) (greatest : Nat) : TypeBody :=
    .restriction (.ofText base) (some { lengthRange := some { greatest := some greatest } }) none
      none
  [{ uri := "urn:ladder"
     members := [
      .type { name := text "Letters", body := .list (.ofText "Letter") },
      .type { name := text "Letter", isSealed := true, body := narrowed "Word" 1 },
      .type { name := text "Word", body := narrowed "String" 20 }] }]

/-- The lower one is as deep as the limit allows. -/
theorem ladder_intact : let limits : Limits := { derivationDepth := 4 }
    Accepts ladder limits (schemaOf ladder limits) ∧ (schemaOf ladder limits).Intact limits ∧
    (schemaOf ladder limits).depth ⟨24⟩ ≤ 4 ∧ 4 ≤ (schemaOf ladder limits).depth ⟨24⟩ := by
  intro limits
  have hs : Accepts ladder limits (schemaOf ladder limits) := accepts_schemaOf (by decide +kernel)
  have hintact := intact_of_accepts hs
  have hdeclared : (schemaOf ladder limits).IsDeclared ⟨24⟩ := ⟨by decide, by decide +kernel⟩
  exact ⟨hs, hintact, hintact.depth ⟨24⟩ hdeclared, by decide +kernel⟩

end Schemata
