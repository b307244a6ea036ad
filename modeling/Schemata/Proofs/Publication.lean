import Mathlib.Data.List.Count
import Schemata.Proofs.Naming
import Schemata.Proofs.Numbering
import Schemata.Proofs.Registration

/-!
# Publication

An accepted schema makes one symbol of every declaration (`publishes_of_accepts`). A full name finds
what was declared under it, or a built-in type, and there is nothing else to be found; each
namespace lists its members in the order in which they were declared, over all the parts that share
its URI.

Symbols are made when they are first needed, so their numbers follow another order. What matters is
that no step makes a symbol for a declaration that has one, and that each number that is given out
goes to a declaration (`Builder.Numbered`). Names are given at the end.
-/

namespace Schemata

/-! ## What is made public -/

namespace MemberDecl

/-- Whether a type is declared. -/
def isType : MemberDecl → Bool
  | .type _ => true
  | _ => false

/-- Whether a global attribute is declared. -/
def isAttribute : MemberDecl → Bool
  | .attr _ => true
  | _ => false

/-- Whether a global element is declared. -/
def isElement : MemberDecl → Bool
  | .element _ => true
  | _ => false

end MemberDecl

namespace Schema

/-- What a schema makes public of some declarations. -/
structure Publishes (s : Schema) (ds : List (FullName × MemberDecl)) : Prop where
  distinct : (ds.map Prod.fst).Nodup
  declared : ∀ d ∈ ds, ∃ id, s.lookup d.1 = some id ∧ s.Declares d.1 d.2 id
  builtin : ∀ k : Kind, s.lookup (.system k.name) = some (.type k.typeId)
  /-- Nothing else is found. -/
  found : ∀ n id, s.lookup n = some id →
    n ∈ ds.map Prod.fst ∨ ∃ k : Kind, n = .system k.name
  /-- Every number that was given out is found, under one name only. -/
  issued : ∀ id, s.Issues id ↔ ∃! n, s.lookup n = some id
  types : s.types.size = 22 + ds.countP (·.2.isType)
  attributes : s.attributes.size = ds.countP (·.2.isAttribute)
  elements : s.elements.size = ds.countP (·.2.isElement)
  uris : (s.namespaces.map (·.uri)).Nodup
  /-- The order of declaration. -/
  members : ∀ uri, s.members uri =
    (if uri = FullName.systemUri then Namespace.system.members else []) ++
      (ds.filter (·.1.uri = uri)).filterMap fun d => (s.lookup d.1).map (d.1.name, ·)

theorem Declares.isType {s : Schema} {n : FullName} {m : MemberDecl} {id : SymbolId}
    (h : s.Declares n m id) : m.isType = id.asType?.isSome := by
  cases m <;> cases id <;> first | rfl | exact h.elim

theorem Declares.isAttribute {s : Schema} {n : FullName} {m : MemberDecl} {id : SymbolId}
    (h : s.Declares n m id) : m.isAttribute = id.asAttribute?.isSome := by
  cases m <;> cases id <;> first | rfl | exact h.elim

theorem Declares.isElement {s : Schema} {n : FullName} {m : MemberDecl} {id : SymbolId}
    (h : s.Declares n m id) : m.isElement = id.asElement?.isSome := by
  cases m <;> cases id <;> first | rfl | exact h.elim

end Schema

/-! ## The names of a finished compilation -/

namespace Catalog

theorem mem_ids_of_get? {c : Catalog} {o : DeclarationId} {d : Declaration}
    (h : c.get? o = some d) : o ∈ c.ids :=
  List.mem_map.2 ⟨o.index, List.mem_range.2 (Array.getElem?_eq_some_iff.1 h).1, rfl⟩

theorem nodup_ids (c : Catalog) : c.ids.Nodup :=
  List.nodup_range.map fun _ _ h => congrArg DeclarationId.index h

theorem map_get?_ids (c : Catalog) : c.ids.map c.get? = c.declarations.toList.map some := by
  refine List.ext_getElem (by simp [ids]) fun i h _ => ?_
  have hi : i < c.declarations.size := by simpa [ids] using h
  simp [ids, get?, hi]

end Catalog

theorem Kind.typeId_inj {k l : Kind} (h : k.typeId = l.typeId) : k = l := by
  have hdef := congrArg Schema.builtin.typeDef h
  rw [Schema.builtin_typeDef, Schema.builtin_typeDef] at hdef
  exact congrArg TypeDef.kind hdef

namespace Builder

variable {c : Catalog} {b : Builder}

/-- The names of the declarations that have symbols, in order. -/
def named (b : Builder) (c : Catalog) : List (FullName × SymbolId) :=
  c.ids.filterMap fun o => (c.get? o).bind fun d => (b.symbol? o).map (d.fullName, ·)

theorem published_eq_withNames (b : Builder) (c : Catalog) : b.published c =
    { b.schema with namespaces := Namespace.withNames b.schema.namespaces (b.named c) } := by
  unfold published named
  generalize b.schema = s
  induction c.ids generalizing s with
  | nil => rfl
  | cons o ids ih =>
    rw [List.foldl_cons, List.filterMap_cons]
    cases hd : c.get? o with
    | none => exact ih s
    | some d =>
      cases hs : b.symbol? o with
      | none => exact ih s
      | some id => exact ih (s.publish d.fullName id)

theorem mem_named {n : FullName} {id : SymbolId} : (n, id) ∈ b.named c ↔
    ∃ o d, c.get? o = some d ∧ b.symbol? o = some id ∧ d.fullName = n := by
  unfold named
  rw [List.mem_filterMap]
  constructor
  · rintro ⟨o, -, h⟩
    obtain ⟨d, hd, h⟩ := Option.bind_eq_some_iff.1 h
    obtain ⟨s, hs, h⟩ := Option.map_eq_some_iff.1 h
    cases h
    exact ⟨o, d, hd, hs, rfl⟩
  · rintro ⟨o, d, hd, hs, rfl⟩
    exact ⟨o, Catalog.mem_ids_of_get? hd, by simp [hd, hs]⟩

theorem lookup_system {name : String} {id : SymbolId} :
    Namespace.system.members.lookup name = some id ↔
      ∃ k : Kind, k.name = name ∧ id = .type k.typeId := by
  have hnodup : (Namespace.system.members.map Prod.fst).Nodup := by decide
  rw [lookup_eq_some_iff_mem hnodup]
  constructor
  · intro hmem
    obtain ⟨k, -, hk⟩ := List.mem_map.1 hmem
    exact ⟨k, (Prod.mk.inj hk).1, (Prod.mk.inj hk).2.symm⟩
  · rintro ⟨k, rfl, rfl⟩
    exact List.mem_map_of_mem (f := fun k : Kind => (k.name, SymbolId.type k.typeId))
      (Kind.mem_all k)

namespace Completes

variable {namespaces : List NamespaceDecl} {limits : Limits}

theorem numbered (h : b.Completes namespaces limits) :
    b.Numbered (Catalog.ofNamespaces namespaces).1 :=
  h.steps.numbered (start_placed _) (start_numbered _ _)

/-- Every declaration has its name, in order. -/
theorem map_named (h : b.Completes namespaces limits) :
    (b.named (Catalog.ofNamespaces namespaces).1).map Prod.fst =
      (globals namespaces).map Prod.fst := by
  let c := (Catalog.ofNamespaces namespaces).1
  have hnames : ∀ o, ((c.get? o).bind fun d => (b.symbol? o).map (d.fullName, ·)).map Prod.fst =
      (c.get? o).map Declaration.fullName := by
    intro o
    cases hd : c.get? o with
    | none => rfl
    | some d =>
      obtain ⟨s, hs⟩ := h.exists_symbol (o := o) (by rw [hd]; rfl)
      simp [hs]
  calc (b.named c).map Prod.fst
      = c.ids.filterMap fun o => (c.get? o).map Declaration.fullName := by
        simp only [named, List.map_filterMap, hnames]
    _ = (c.ids.map c.get?).filterMap (Option.map Declaration.fullName) := by
        rw [List.filterMap_map]
        rfl
    _ = c.declarations.toList.map Declaration.fullName := by
        rw [c.map_get?_ids, List.filterMap_map, ← List.filterMap_eq_map]
        rfl
    _ = (globals namespaces).map Prod.fst := by
        rw [← h.registers.entries, List.map_map]
        rfl

theorem nodup_globals (h : b.Completes namespaces limits) :
    ((globals namespaces).map Prod.fst).Nodup := by
  rw [← h.registers.entries, List.map_map]
  exact h.registers.names

theorem nodup_named (h : b.Completes namespaces limits) :
    ((b.named (Catalog.ofNamespaces namespaces).1).map Prod.fst).Nodup := by
  rw [h.map_named]
  exact h.nodup_globals

theorem not_isSystem_of_mem_named (h : b.Completes namespaces limits) {p : FullName × SymbolId}
    (hp : p ∈ b.named (Catalog.ofNamespaces namespaces).1) : p.1.isSystem = false := by
  obtain ⟨o, d, hd, -, hn⟩ := mem_named.1 hp
  rw [← hn]
  exact h.registers.unreserved d (Array.mem_of_getElem? hd)

theorem nodup_uris (h : b.Completes namespaces limits) :
    ((b.published (Catalog.ofNamespaces namespaces).1).namespaces.map Namespace.uri).Nodup := by
  rw [published_eq_withNames, h.numbered.namespaces]
  exact Namespace.nodup_withNames (List.nodup_singleton _)

theorem members_published (h : b.Completes namespaces limits) (uri : String) :
    (b.published (Catalog.ofNamespaces namespaces).1).members uri =
      (if uri = FullName.systemUri then Namespace.system.members else []) ++
        ((b.named (Catalog.ofNamespaces namespaces).1).filter (·.1.uri = uri)).map
          fun p => (p.1.name, p.2) := by
  have hsystem : ∀ uri, Namespace.membersAt uri [.system] =
      if uri = FullName.systemUri then Namespace.system.members else [] := by
    intro uri
    rw [Namespace.membersAt_cons]
    exact if_congr eq_comm rfl rfl
  rw [published_eq_withNames, h.numbered.namespaces, Schema.members,
    Namespace.membersAt_withNames h.nodup_named fun p hp => ?_, hsystem]
  have hp := h.not_isSystem_of_mem_named hp
  rw [hsystem, if_neg (by simpa [FullName.isSystem] using hp), List.lookup_nil]

theorem lookup_published (h : b.Completes namespaces limits) (n : FullName) :
    (b.published (Catalog.ofNamespaces namespaces).1).lookup n =
      if n.isSystem then Namespace.system.members.lookup n.name
      else (b.named (Catalog.ofNamespaces namespaces).1).lookup n := by
  rw [Schema.lookup_eq, h.members_published, List.lookup_append, lookup_localNames]
  by_cases hn : n.isSystem
  · have huri : n.uri = FullName.systemUri := by simpa [FullName.isSystem] using hn
    have hnone : (b.named (Catalog.ofNamespaces namespaces).1).lookup n = none := by
      rw [List.lookup_eq_none_iff]
      intro p hp
      have hne := h.not_isSystem_of_mem_named hp
      simp only [bne_iff_ne, ne_eq]
      rintro rfl
      rw [hn] at hne
      cases hne
    rw [if_pos huri, if_pos hn, hnone, Option.or_none]
  · have huri : ¬n.uri = FullName.systemUri := by simpa [FullName.isSystem] using hn
    rw [if_neg huri, if_neg hn, List.lookup_nil, Option.none_or]

/-- The symbols are those of the declarations, in another order. -/
theorem countP_symbols (h : b.Completes namespaces limits) {f : MemberDecl → Bool}
    {g : SymbolId → Bool} (hfg : ∀ n m id, b.schema.Declares n m id → f m = g id) :
    b.symbols.countP (g ·.2) = (globals namespaces).countP (f ·.2) := by
  let c := (Catalog.ofNamespaces namespaces).1
  have hn := h.numbered
  have hperm : (b.symbols.map Prod.fst).Perm c.ids := by
    rw [List.perm_ext_iff_of_nodup hn.keys c.nodup_ids]
    intro o
    constructor
    · intro hmem
      obtain ⟨p, hp, rfl⟩ := List.mem_map.1 hmem
      obtain ⟨d, hd, -⟩ := hn.declares p.1 p.2 hp
      exact Catalog.mem_ids_of_get? hd
    · intro hmem
      obtain ⟨i, hi, rfl⟩ := List.mem_map.1 hmem
      obtain ⟨s, hs⟩ := h.exists_symbol (o := ⟨i⟩) (by
        simpa [Catalog.get?] using List.mem_range.1 hi)
      exact List.mem_map_of_mem (mem_of_symbol? hs)
  have hsort : ∀ p ∈ b.symbols, g p.2 ↔ (c.get? p.1).any (f ·.member) := by
    intro p hp
    obtain ⟨d, hd, hs⟩ := hn.declares p.1 p.2 hp
    rw [hd, Option.any_some, hfg _ _ _ hs]
  calc b.symbols.countP (g ·.2)
      = b.symbols.countP fun p => (c.get? p.1).any (f ·.member) := List.countP_congr hsort
    _ = (b.symbols.map Prod.fst).countP fun o => (c.get? o).any (f ·.member) := by
        rw [List.countP_map]
        rfl
    _ = (c.ids.map c.get?).countP (Option.any (f ·.member)) := by
        rw [hperm.countP_eq, List.countP_map]
        rfl
    _ = (c.declarations.toList.map Declaration.entry).countP (f ·.2) := by
        rw [c.map_get?_ids, List.countP_map, List.countP_map]
        rfl
    _ = (globals namespaces).countP (f ·.2) := by rw [h.registers.entries]

theorem issues_published {id : SymbolId} :
    (b.published c).Issues id ↔ b.schema.Issues id := by
  rw [published_eq_withNames]
  cases id <;> exact Iff.rfl

theorem declares_published {n : FullName} {m : MemberDecl} {id : SymbolId} :
    (b.published c).Declares n m id ↔ b.schema.Declares n m id := by
  rw [published_eq_withNames]
  cases m <;> cases id <;> exact Iff.rfl

/-- The symbol of a declaration is no built-in type. -/
theorem ne_typeId (h : b.Completes namespaces limits) {o : DeclarationId} {id : SymbolId}
    (hs : b.symbol? o = some id) (k : Kind) : id ≠ .type k.typeId := by
  rintro rfl
  have hmem := List.mem_map_of_mem (f := Prod.snd) (mem_of_symbol? hs)
  have hle := h.numbered.declared _ hmem
  exact absurd k.rank_lt (not_lt.2 hle)

/-- What a name finds is a built-in type or the symbol of a declaration. -/
theorem lookup_eq_some_iff (h : b.Completes namespaces limits) {n : FullName} {id : SymbolId} :
    (b.published (Catalog.ofNamespaces namespaces).1).lookup n = some id ↔
      (∃ k : Kind, n = .system k.name ∧ id = .type k.typeId) ∨
        ∃ o d, (Catalog.ofNamespaces namespaces).1.get? o = some d ∧ b.symbol? o = some id ∧
          d.fullName = n := by
  have hsystem : n.isSystem ↔ n.uri = FullName.systemUri := by simp [FullName.isSystem]
  rw [h.lookup_published, ← mem_named]
  by_cases hn : n.isSystem
  · rw [if_pos hn, lookup_system]
    constructor
    · rintro ⟨k, hk, rfl⟩
      exact Or.inl ⟨k, FullName.ext (hsystem.1 hn) hk.symm, rfl⟩
    · rintro (⟨k, rfl, rfl⟩ | hmem)
      · exact ⟨k, rfl, rfl⟩
      · cases hn.symm.trans (h.not_isSystem_of_mem_named hmem)
  · rw [if_neg hn, lookup_eq_some_iff_mem h.nodup_named, or_iff_right]
    rintro ⟨k, rfl, -⟩
    exact hn rfl

theorem existsUnique_of_issues (h : b.Completes namespaces limits) {id : SymbolId}
    (hid : b.schema.Issues id) :
    ∃! n, (b.published (Catalog.ofNamespaces namespaces).1).lookup n = some id := by
  have hn := h.numbered
  rcases hn.issued id hid with ⟨k, rfl⟩ | hmem
  · refine ⟨.system k.name, h.lookup_eq_some_iff.2 (Or.inl ⟨k, rfl, rfl⟩), fun n hfound => ?_⟩
    rcases h.lookup_eq_some_iff.1 hfound with ⟨l, rfl, hl⟩ | ⟨o, d, -, ho, -⟩
    · rw [Kind.typeId_inj (SymbolId.type.inj hl)]
    · exact absurd rfl (h.ne_typeId ho k)
  · obtain ⟨p, hp, rfl⟩ := List.mem_map.1 hmem
    have hp := hn.eq_of_symbol hp
    obtain ⟨d, hd, -⟩ := hn.declares _ _ (mem_of_symbol? hp)
    refine ⟨d.fullName, h.lookup_eq_some_iff.2 (Or.inr ⟨p.1, d, hd, hp, rfl⟩), fun n hfound => ?_⟩
    rcases h.lookup_eq_some_iff.1 hfound with ⟨k, -, hk⟩ | ⟨o, e, he, ho, rfl⟩
    · exact absurd hk (h.ne_typeId hp k)
    · rw [hn.inj ho hp, hd] at he
      rw [Option.some.inj he]

theorem issues_of_lookup (h : b.Completes namespaces limits) {n : FullName} {id : SymbolId}
    (hfound : (b.published (Catalog.ofNamespaces namespaces).1).lookup n = some id) :
    b.schema.Issues id := by
  rcases h.lookup_eq_some_iff.1 hfound with ⟨k, -, rfl⟩ | ⟨o, d, -, ho, -⟩
  · exact h.placed.builtin k
  · exact h.placed.symbol ho

/-- A declaration is found by its name. -/
theorem declared (h : b.Completes namespaces limits) {d : FullName × MemberDecl}
    (hd : d ∈ globals namespaces) :
    ∃ id, (b.published (Catalog.ofNamespaces namespaces).1).lookup d.1 = some id ∧
      b.schema.Declares d.1 d.2 id := by
  rw [← h.registers.entries] at hd
  obtain ⟨e, he, rfl⟩ := List.mem_map.1 hd
  obtain ⟨i, hi, rfl⟩ := List.getElem_of_mem he
  let o : DeclarationId := ⟨i⟩
  have hget : (Catalog.ofNamespaces namespaces).1.get? o = some _ :=
    (Array.getElem?_toList (i := i)).symm.trans (List.getElem?_eq_getElem hi)
  obtain ⟨id, hid⟩ := h.exists_symbol (o := o) (by rw [hget]; rfl)
  obtain ⟨d', hd', hdeclares⟩ := h.numbered.declares o id (mem_of_symbol? hid)
  obtain rfl := Option.some.inj (hget.symm.trans hd')
  exact ⟨id, h.lookup_eq_some_iff.2 (Or.inr ⟨o, _, hget, hid, rfl⟩), hdeclares⟩

/-- The members of a namespace are what was declared in it, in order. -/
theorem members_eq (h : b.Completes namespaces limits) (uri : String) :
    (b.published (Catalog.ofNamespaces namespaces).1).members uri =
      (if uri = FullName.systemUri then Namespace.system.members else []) ++
        ((globals namespaces).filter (·.1.uri = uri)).filterMap fun d =>
          ((b.published (Catalog.ofNamespaces namespaces).1).lookup d.1).map (d.1.name, ·) := by
  let names := b.named (Catalog.ofNamespaces namespaces).1
  have hlookup : ∀ n ∈ (names.map Prod.fst).filter (·.uri = uri),
      (names.lookup n).map (n.name, ·) =
        ((b.published (Catalog.ofNamespaces namespaces).1).lookup n).map (n.name, ·) := by
    intro n hn
    obtain ⟨p, hp, rfl⟩ := List.mem_map.1 (List.mem_of_mem_filter hn)
    rw [h.lookup_published, h.not_isSystem_of_mem_named hp]
    rfl
  rw [h.members_published, ← filterMap_lookup h.nodup_named (·.uri = uri) fun n id => (n.name, id),
    List.filterMap_congr hlookup, h.map_named, List.filter_map, List.filterMap_map]
  rfl

end Completes

end Builder

/-- An accepted schema has one symbol for every declaration, which is found by its full name and is
what was declared. Nothing else is found but the built-in types, nothing else has a number, and
every namespace lists its members in the order in which they were declared. -/
theorem publishes_of_accepts {namespaces : List NamespaceDecl} {limits : Limits} {s : Schema}
    (h : Accepts namespaces limits s) : s.Publishes (globals namespaces) := by
  obtain ⟨b, hb, rfl⟩ := h.exists_builder
  have hsizes := b.published_eq_withNames (Catalog.ofNamespaces namespaces).1
  have hn := hb.numbered
  refine ⟨hb.nodup_globals, fun d hd => ?_, fun k => ?_, fun n id hfound => ?_, fun id => ?_, ?_,
    ?_, ?_, ?_, fun uri => ?_⟩
  · obtain ⟨id, hfound, hdeclares⟩ := hb.declared hd
    exact ⟨id, hfound, Builder.Completes.declares_published.2 hdeclares⟩
  · exact hb.lookup_eq_some_iff.2 (Or.inl ⟨k, rfl, rfl⟩)
  · rcases hb.lookup_eq_some_iff.1 hfound with ⟨k, rfl, -⟩ | ⟨o, d, hd, ho, rfl⟩
    · exact Or.inr ⟨k, rfl⟩
    · rw [← hb.map_named]
      exact Or.inl (List.mem_map_of_mem (f := Prod.fst) (Builder.mem_named.2 ⟨o, d, hd, ho, rfl⟩))
  · rw [Builder.Completes.issues_published]
    exact ⟨hb.existsUnique_of_issues, fun ⟨n, hfound, _⟩ => hb.issues_of_lookup hfound⟩
  · rw [hsizes, ← hb.countP_symbols fun _ _ _ h => h.isType]
    exact hn.types
  · rw [hsizes, ← hb.countP_symbols fun _ _ _ h => h.isAttribute]
    exact hn.attributes
  · rw [hsizes, ← hb.countP_symbols fun _ _ _ h => h.isElement]
    exact hn.elements
  · exact hb.nodup_uris
  · exact hb.members_eq uri

/-- Two parts of a namespace with another one between them. The first part speaks of types that the
second one declares. -/
def parts : List NamespaceDecl :=
  let text (name : String) : Ident := ⟨name, none⟩
  let crate : TypeBody := .extension (.ofText "Box") none none
  [{ uri := "urn:parts"
     imports := [{ uri := "urn:marks" }]
     members := [
      .element { name := text "crate", type := .ofText "Crate", substitutes := some (.ofText "box") },
      .type { name := text "Crate", body := crate }] },
   { uri := "urn:marks"
     members := [.attr { name := text "mark", type := .ofText "String" }] },
   { uri := "urn:parts"
     members := [
      .type { name := text "Box", body := .complex none none },
      .element { name := text "box", type := .ofText "Box" }] }]

/-- The box has a smaller number than the crate, and comes after it in the namespace. -/
theorem parts_published : Accepts parts {} (schemaOf parts {}) ∧
    (schemaOf parts {}).Publishes (globals parts) ∧ (schemaOf parts {}).types.size = 24 ∧
    (schemaOf parts {}).members "urn:parts" =
      [("crate", .element ⟨1⟩), ("Crate", .type ⟨23⟩), ("Box", .type ⟨22⟩),
        ("box", .element ⟨0⟩)] := by
  have hs : Accepts parts {} (schemaOf parts {}) := accepts_schemaOf (by decide +kernel)
  have hpublishes := publishes_of_accepts hs
  exact ⟨hs, hpublishes, hpublishes.types, by decide +kernel⟩

end Schemata
