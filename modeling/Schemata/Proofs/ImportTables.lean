import Mathlib.Data.List.Nodup
import Schemata.Compile.Catalog
import Schemata.Proofs.Naming
import Schemata.Proofs.Splitting

/-!
# Tables of imports

Importing goes through the imports of a namespace one by one, and refuses an alias that is taken.
Where no alias is given twice, each import stands on its own: it is refused for its own sake or
added. So the order of the imports decides in which order the table lists the URIs, and nothing else
(`registerImports_perm`).

A reference without an alias is ambiguous if two imported namespaces have the name and the one that
it is written in has not (`Catalog.isAmbiguous_iff`). Which namespaces have a name and which are
imported is said here of the declarations, without a catalog.
-/

namespace Schemata

namespace ImportDecl

/-- The alias of an import. -/
def alias? (d : ImportDecl) : Option String := d.aliasName.map (·.text)

/-- What is wrong with an import, whatever else is imported. -/
def faults (uris : List String) (d : ImportDecl) : List Diagnostic :=
  if d.alias? == some FullName.systemAlias then
    [Fault.reservedAlias.diagnostic ((d.aliasName.bind (·.span)).or d.span)]
  else if d.uri != FullName.systemUri && !uris.contains d.uri then
    [(Fault.unknownNamespace d.uri).diagnostic d.span]
  else []

/-- An import is free of faults if its alias is not reserved and its namespace is there. -/
theorem faults_eq_nil_iff {uris : List String} {d : ImportDecl} : d.faults uris = [] ↔
    d.alias? ≠ some FullName.systemAlias ∧ (d.uri = FullName.systemUri ∨ d.uri ∈ uris) := by
  unfold faults
  split
  · rename_i h
    simp [beq_iff_eq.1 h]
  · rename_i h
    rw [beq_iff_eq] at h
    split
    · rename_i huri
      have hnot : ¬(d.uri = FullName.systemUri ∨ d.uri ∈ uris) := by simpa using huri
      simp [hnot]
    · rename_i huri
      have hthere : d.uri = FullName.systemUri ∨ d.uri ∈ uris := by
        simpa [or_iff_not_imp_left] using huri
      simp [h, hthere]

end ImportDecl

namespace Imports

/-- A table with one more import, whose alias is not taken. -/
def including (imports : Imports) (d : ImportDecl) : Imports where
  uris := if imports.uris.contains d.uri then imports.uris else imports.uris ++ [d.uri]
  aliases := imports.aliases ++ (d.alias?.map (·, d.uri)).toList

/-- Two tables list the same URIs, and their aliases stand for the same. -/
structure Reorders (i i' : Imports) : Prop where
  uris : i.uris.Perm i'.uris
  uriOf (a : String) : i'.uriOf a = i.uriOf a

variable {imports : Imports} {d : ImportDecl} {ds : List ImportDecl} {u : String}

theorem add_eq (h : ∀ a ∈ d.alias?, a ∉ imports.aliases.map Prod.fst) :
    imports.add d.uri d.alias? = some (imports.including d) := by
  unfold add including
  cases ha : d.alias? with
  | none => simp
  | some a =>
    have hnone : imports.uriOf a = none := by
      rw [uriOf, List.lookup_eq_none_iff]
      intro p hp
      have hne : p.1 ≠ a := fun heq => h a ha (List.mem_map.2 ⟨p, hp, heq⟩)
      simpa using hne.symm
    simp [hnone]

theorem mem_uris_including : u ∈ (imports.including d).uris ↔ u ∈ imports.uris ∨ d.uri = u := by
  unfold including
  dsimp only
  split
  · rename_i hmem
    rw [List.contains_iff_mem] at hmem
    refine ⟨.inl, ?_⟩
    rintro (h | rfl)
    · exact h
    · exact hmem
  · simp [eq_comm]

theorem nodup_uris_including (h : imports.uris.Nodup) : (imports.including d).uris.Nodup := by
  unfold including
  dsimp only
  split
  · exact h
  · rename_i hmem
    rw [List.contains_iff_mem] at hmem
    exact h.append (List.nodup_singleton _) (List.disjoint_singleton.2 hmem)

theorem mem_uris_foldl :
    u ∈ (ds.foldl including imports).uris ↔ u ∈ imports.uris ∨ ∃ d ∈ ds, d.uri = u := by
  induction ds generalizing imports with
  | nil => simp
  | cons d rest ih => rw [List.foldl_cons, ih, mem_uris_including, List.exists_mem_cons_iff, or_assoc]

theorem nodup_uris_foldl (h : imports.uris.Nodup) : (ds.foldl including imports).uris.Nodup := by
  induction ds generalizing imports with
  | nil => exact h
  | cons d rest ih => exact ih (nodup_uris_including h)

theorem aliases_foldl : (ds.foldl including imports).aliases =
    imports.aliases ++ ds.filterMap fun d => d.alias?.map (·, d.uri) := by
  induction ds generalizing imports with
  | nil => simp
  | cons d rest ih =>
    rw [List.foldl_cons, ih, including, List.append_assoc]
    cases ha : d.alias? <;> simp [ha]

end Imports

/-! ## Registering imports -/

section

variable {uris : List String}

theorem registerImports_cons_of_faults {d : ImportDecl} {rest : List ImportDecl}
    {imports : Imports} (h : d.faults uris ≠ []) : registerImports uris (d :: rest) imports =
      ((registerImports uris rest imports).1,
        d.faults uris ++ (registerImports uris rest imports).2) := by
  unfold ImportDecl.faults at h ⊢
  split
  · rename_i hsys
    exact if_pos hsys
  · rename_i hsys
    split
    · rename_i huri
      exact (if_neg hsys).trans (if_pos huri)
    · rename_i huri
      rw [if_neg hsys, if_neg huri] at h
      exact absurd rfl h

theorem registerImports_cons {d : ImportDecl} {rest : List ImportDecl} {imports : Imports}
    (h : d.faults uris = []) (hfree : ∀ a ∈ d.alias?, a ∉ imports.aliases.map Prod.fst) :
    registerImports uris (d :: rest) imports =
      registerImports uris rest (imports.including d) := by
  have hadd : imports.add d.uri (d.aliasName.map (·.text)) = some (imports.including d) :=
    Imports.add_eq hfree
  unfold ImportDecl.faults at h
  split at h
  · cases h
  · rename_i hsys
    split at h
    · cases h
    · rename_i huri
      refine (if_neg hsys).trans ((if_neg huri).trans ?_)
      rw [hadd]

/-- Where no alias is given twice, every import is refused for its own sake or added. -/
theorem registerImports_eq {ds : List ImportDecl} {imports : Imports}
    (h : (imports.aliases.map Prod.fst ++ ds.filterMap (·.alias?)).Nodup) :
    registerImports uris ds imports =
      ((ds.filter fun d => (d.faults uris).isEmpty).foldl Imports.including imports,
        ds.flatMap (·.faults uris)) := by
  induction ds generalizing imports with
  | nil => rfl
  | cons d rest ih =>
    rw [List.filter_cons, List.flatMap_cons]
    by_cases hd : d.faults uris = []
    · have hfree : ∀ a ∈ d.alias?, a ∉ imports.aliases.map Prod.fst := by
        intro a ha hmem
        refine (List.nodup_append.1 h).2.2 a hmem a ?_ rfl
        exact List.mem_filterMap.2 ⟨d, List.mem_cons_self, ha⟩
      have hnext : ((imports.including d).aliases.map Prod.fst ++
          rest.filterMap (·.alias?)).Nodup := by
        refine Eq.subst (motive := List.Nodup) ?_ h
        cases ha : d.alias? <;> simp [Imports.including, ha]
      rw [registerImports_cons hd hfree, ih hnext, hd]
      rfl
    · have hrest : (imports.aliases.map Prod.fst ++ rest.filterMap (·.alias?)).Nodup :=
        h.sublist (((List.sublist_cons_self d rest).filterMap _).append_left _)
      rw [registerImports_cons_of_faults hd, ih hrest, if_neg (mt List.isEmpty_iff.1 hd)]

variable {ds ds' : List ImportDecl}

theorem nodup_uris_registerImports (h : (ds.filterMap (·.alias?)).Nodup) :
    (registerImports uris ds {}).1.uris.Nodup := by
  rw [registerImports_eq (by simpa using h)]
  exact Imports.nodup_uris_foldl List.nodup_nil

theorem mem_uris_registerImports (h : (ds.filterMap (·.alias?)).Nodup) {u : String} :
    u ∈ (registerImports uris ds {}).1.uris ↔ ∃ d ∈ ds, d.faults uris = [] ∧ d.uri = u := by
  rw [registerImports_eq (by simpa using h), Imports.mem_uris_foldl]
  simp [and_assoc]

theorem uriOf_registerImports (h : (ds.filterMap (·.alias?)).Nodup) {a u : String} :
    (registerImports uris ds {}).1.uriOf a = some u ↔
      ∃ d ∈ ds, d.faults uris = [] ∧ d.alias? = some a ∧ d.uri = u := by
  have hkeys (kept : List ImportDecl) : (kept.filterMap fun d => d.alias?.map (·, d.uri)).map
      Prod.fst = kept.filterMap (·.alias?) := by
    rw [List.map_filterMap]
    congr 1
    funext d
    cases d.alias? <;> rfl
  have hnodup : ((ds.filter fun d => (d.faults uris).isEmpty).filterMap (·.alias?)).Nodup :=
    h.sublist (List.filter_sublist.filterMap _)
  rw [registerImports_eq (by simpa using h), Imports.uriOf, Imports.aliases_foldl, List.nil_append,
    lookup_eq_some_iff_mem (by rwa [hkeys])]
  simp [and_assoc]

/-- The order of the imports decides in which order the URIs are listed, and nothing else. -/
theorem registerImports_perm (uris : List String) (h : (ds.filterMap (·.alias?)).Nodup)
    (hp : ds.Perm ds') :
    (registerImports uris ds {}).1.Reorders (registerImports uris ds' {}).1 ∧
      (registerImports uris ds {}).2.Perm (registerImports uris ds' {}).2 := by
  have h' : (ds'.filterMap (·.alias?)).Nodup := (hp.filterMap _).nodup_iff.1 h
  refine ⟨⟨?_, fun a => ?_⟩, ?_⟩
  · refine (List.perm_ext_iff_of_nodup (nodup_uris_registerImports h)
      (nodup_uris_registerImports h')).2 fun u => ?_
    rw [mem_uris_registerImports h, mem_uris_registerImports h']
    exact exists_congr fun d => and_congr_left fun _ => hp.mem_iff
  · refine Option.ext fun u => ?_
    rw [uriOf_registerImports h, uriOf_registerImports h']
    exact exists_congr fun d => and_congr_left fun _ => hp.mem_iff.symm
  · rw [registerImports_eq (by simpa using h), registerImports_eq (by simpa using h')]
    exact hp.flatMap_right _

end

/-! ## Ambiguous names -/

/-- A part of a namespace imports a namespace. An import under the alias of the built-in types is
refused. -/
def NamespaceDecl.Imports (ns : NamespaceDecl) (uri : String) : Prop :=
  ∃ d ∈ ns.imports, d.alias? ≠ some FullName.systemAlias ∧ d.uri = uri

/-- The aliases that a part of a namespace gives to its imports. -/
def NamespaceDecl.aliases (ns : NamespaceDecl) : List String := ns.imports.filterMap (·.alias?)

/-- Some namespaces have a name: it is that of a built-in type or of a member. The namespace of the
built-in types gets no members, and a member whose name is no identifier is not registered. -/
inductive Provides (namespaces : List NamespaceDecl) : FullName → Prop
  | builtin {name : String} {k : Kind} (h : Kind.ofName? name = some k) :
    Provides namespaces (.system name)
  | declared {ns : NamespaceDecl} {m : MemberDecl} (hns : ns ∈ namespaces)
    (hr : ns.isReserved = false) (hm : m ∈ ns.members) (hid : isIdentifier m.name.text) :
    Provides namespaces ⟨ns.uri, m.name.text⟩

/-! ## Names that are registered -/

section Registering

variable {found : Array Declaration} {n : FullName}

theorem exists_registerMembers_iff {s : Scope} {ms : List MemberDecl} :
    (∃ d ∈ (registerMembers s ms found).1, d.fullName = n) ↔
      (∃ d ∈ found, d.fullName = n) ∨
        ∃ m ∈ ms, isIdentifier m.name.text ∧ ⟨s.uri, m.name.text⟩ = n := by
  induction ms generalizing found with
  | nil => simp [registerMembers]
  | cons m rest ih =>
    rw [registerMembers]
    dsimp only
    rw [List.exists_mem_cons_iff]
    split
    · rename_i hname
      have hm : ¬isIdentifier m.name.text := by simpa [Declaration.name] using hname
      rw [ih]
      simp [hm]
    · rename_i hname
      have hm : isIdentifier m.name.text := by simpa [Declaration.name] using hname
      split
      · rename_i htaken
        rw [Array.any_eq_true'] at htaken
        obtain ⟨other, hother, heq⟩ := htaken
        have hn : ⟨s.uri, m.name.text⟩ = n → ∃ d ∈ found, d.fullName = n := by
          rintro rfl
          exact ⟨other, hother, beq_iff_eq.1 heq⟩
        rw [ih]
        constructor
        · exact Or.imp_right .inr
        · rintro (h | h | h)
          · exact .inl h
          · exact .inl (hn h.2)
          · exact .inr h
      · rw [ih]
        have hpush : (∃ d ∈ found.push ⟨s, m⟩, d.fullName = n) ↔
            (∃ d ∈ found, d.fullName = n) ∨ ⟨s.uri, m.name.text⟩ = n := by
          simp only [Array.mem_push, or_and_right, exists_or, exists_eq_left]
          rfl
        rw [hpush, or_assoc]
        simp [hm]

theorem exists_registerNamespaces_iff {scope : NamespaceDecl → Scope}
    (hs : ∀ ns, (scope ns).uri = ns.uri) {namespaces : List NamespaceDecl} :
    (∃ d ∈ (registerNamespaces scope namespaces found).1, d.fullName = n) ↔
      (∃ d ∈ found, d.fullName = n) ∨ ∃ ns ∈ namespaces, ns.isReserved = false ∧
        ∃ m ∈ ns.members, isIdentifier m.name.text ∧ ⟨ns.uri, m.name.text⟩ = n := by
  induction namespaces generalizing found with
  | nil => simp [registerNamespaces]
  | cons ns rest ih =>
    rw [registerNamespaces]
    dsimp only
    rw [List.exists_mem_cons_iff]
    split
    · rename_i hr
      rw [ih]
      simp [hr]
    · rename_i hr
      rw [ih, exists_registerMembers_iff, hs, or_assoc]
      simp [hr]

end Registering

namespace Catalog

variable {namespaces : List NamespaceDecl}

/-- A name is found if and only if some namespace has it. -/
theorem isSome_find?_iff {n : FullName} :
    ((ofNamespaces namespaces).1.find? n).isSome ↔ Provides namespaces n := by
  unfold find?
  split
  · rename_i hsys
    obtain ⟨uri, name⟩ := n
    obtain rfl : uri = FullName.systemUri := by simpa [FullName.isSystem] using hsys
    rw [Option.isSome_map]
    constructor
    · intro h
      obtain ⟨k, hk⟩ := Option.isSome_iff_exists.1 h
      exact .builtin hk
    · generalize hn : FullName.mk FullName.systemUri name = n
      rintro (⟨hk⟩ | ⟨-, hr, -, -⟩)
      · cases hn
        exact Option.isSome_iff_exists.2 ⟨_, hk⟩
      · have huri := congrArg FullName.uri hn
        rw [NamespaceDecl.isReserved, beq_eq_false_iff_ne] at hr
        exact absurd huri.symm hr
  · rename_i hsys
    rw [Option.isSome_map, Array.findIdx?_isSome, Array.any_eq_true', declarations_ofNamespaces]
    simp only [beq_iff_eq]
    rw [exists_registerNamespaces_iff fun _ => rfl]
    constructor
    · rintro (⟨d, hd, -⟩ | ⟨ns, hns, hr, m, hm, hid, rfl⟩)
      · exact absurd hd (Array.not_mem_empty d)
      · exact .declared hns hr hm hid
    · rintro (⟨-⟩ | ⟨hns, hr, hm, hid⟩)
      · exact absurd rfl hsys
      · exact .inr ⟨_, hns, hr, _, hm, hid, rfl⟩

/-- A namespace that has a name can be imported. -/
theorem importable_of_provides {n : FullName} (h : Provides namespaces n) :
    n.uri = FullName.systemUri ∨ n.uri ∈ (namespaces.filter (!·.isReserved)).map (·.uri) := by
  cases h with
  | builtin h => exact .inl rfl
  | declared hns hr hm hid =>
    exact .inr (List.mem_map.2 ⟨_, List.mem_filter.2 ⟨hns, by simp [hr]⟩, rfl⟩)

/-! ## References -/

section Resolving

variable {c : Catalog} {s : Scope}

theorem map_importedReferents (c : Catalog) (s : Scope) (name : String) :
    (c.importedReferents s name).map Prod.fst =
      (s.imports.uris.filter (· != s.uri)).filter fun uri => (c.find? ⟨uri, name⟩).isSome := by
  rw [importedReferents, List.map_filterMap]
  refine .trans ?_ (congrFun List.filterMap_eq_filter _)
  refine List.filterMap_congr fun uri _ => ?_
  cases hfind : c.find? ⟨uri, name⟩ <;> simp [Option.guard, hfind]

/-- Several imported namespaces have the name, and the one that refers to it has not. -/
theorem isAmbiguous_iff_length {r : NameRef} (hr : r.aliasName = none) :
    (∃ d, c.resolve s r = .error d ∧ d.code = .ambiguousNameReference) ↔
      c.find? ⟨s.uri, r.name.text⟩ = none ∧
        2 ≤ (c.importedReferents s r.name.text).length := by
  unfold resolve
  dsimp only
  rw [hr]
  dsimp only
  cases c.find? ⟨s.uri, r.name.text⟩ with
  | some found => simp
  | none =>
    match c.importedReferents s r.name.text with
    | [] =>
      cases c.find? (.system r.name.text) with
      | none => simp [Fault.diagnostic, Fault.code, Diagnostic.errorAt]
      | some found => simp
    | [x] => simp
    | x :: y :: rest => simp [Fault.diagnostic, Fault.code, Diagnostic.errorAt]

end Resolving

theorem two_le_length_iff {α : Type} {l : List α} (h : l.Nodup) :
    2 ≤ l.length ↔ ∃ a b, a ≠ b ∧ a ∈ l ∧ b ∈ l := by
  constructor
  · intro hlen
    refine ⟨l[0], l[1], fun heq => ?_, List.getElem_mem _, List.getElem_mem _⟩
    exact absurd ((h.getElem_inj_iff).1 heq) (by omega)
  · rintro ⟨a, b, hne, ha, hb⟩
    match l with
    | [x] => exact absurd ((List.mem_singleton.1 ha).trans (List.mem_singleton.1 hb).symm) hne
    | _ :: _ :: _ => simp

/-- A reference without an alias is ambiguous if and only if two imported namespaces, apart from the
one that it is written in, have the name, and that one has not. -/
theorem isAmbiguous_iff {ns : NamespaceDecl} (ha : ns.aliases.Nodup) {r : NameRef}
    (hr : r.aliasName = none) :
    (∃ d, (ofNamespaces namespaces).1.resolve (scopeIn namespaces ns) r = .error d ∧
        d.code = .ambiguousNameReference) ↔
      ¬Provides namespaces ⟨ns.uri, r.name.text⟩ ∧ ∃ u u', u ≠ u' ∧
        (ns.Imports u ∧ u ≠ ns.uri ∧ Provides namespaces ⟨u, r.name.text⟩) ∧
        ns.Imports u' ∧ u' ≠ ns.uri ∧ Provides namespaces ⟨u', r.name.text⟩ := by
  have himported (u : String) : u ∈ ((ofNamespaces namespaces).1.importedReferents
      (scopeIn namespaces ns) r.name.text).map Prod.fst ↔
      ns.Imports u ∧ u ≠ ns.uri ∧ Provides namespaces ⟨u, r.name.text⟩ := by
    rw [map_importedReferents, List.mem_filter, List.mem_filter, isSome_find?_iff, bne_iff_ne,
      and_assoc, scopeIn, mem_uris_registerImports ha]
    refine ⟨?_, ?_⟩
    · rintro ⟨⟨d, hd, hfaults, rfl⟩, hne, hp⟩
      exact ⟨⟨d, hd, (ImportDecl.faults_eq_nil_iff.1 hfaults).1, rfl⟩, hne, hp⟩
    · rintro ⟨⟨d, hd, hsys, rfl⟩, hne, hp⟩
      exact ⟨⟨d, hd, ImportDecl.faults_eq_nil_iff.2 ⟨hsys, importable_of_provides hp⟩, rfl⟩, hne,
        hp⟩
  have hnodup : (((ofNamespaces namespaces).1.importedReferents (scopeIn namespaces ns)
      r.name.text).map Prod.fst).Nodup := by
    rw [map_importedReferents]
    exact ((nodup_uris_registerImports ha).filter _).filter _
  rw [isAmbiguous_iff_length hr, ← isSome_find?_iff, ← List.length_map Prod.fst,
    two_le_length_iff hnodup, Option.not_isSome_iff_eq_none]
  simp only [himported]
  rfl

end Catalog

end Schemata
