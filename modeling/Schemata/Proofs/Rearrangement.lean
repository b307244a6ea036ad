import Mathlib.Data.List.Forall2
import Mathlib.Data.List.Rotate
import Schemata.Proofs.Registration

/-!
# The order of declarations

Namespaces may be given in another order, and each may have its members in another order
(`Rearranges`). One thing that a compilation does depends on that order: a default value is held
against the type of its items only as far as that type has its content. So an order may be refused
where another one is accepted.
-/

namespace Schemata

/-- The same part of a namespace with its members in another order. -/
def NamespaceDecl.Shuffles (ns ns' : NamespaceDecl) : Prop :=
  ns.members.Perm ns'.members ∧ ns' = { ns with members := ns'.members }

theorem NamespaceDecl.Shuffles.symm {ns ns' : NamespaceDecl} (h : ns.Shuffles ns') :
    ns'.Shuffles ns :=
  ⟨h.1.symm, by rw [h.2]⟩

/-- The same namespaces in another order, each with its members in another order. -/
def Rearranges (namespaces namespaces' : List NamespaceDecl) : Prop :=
  ∃ shuffled, namespaces.Perm shuffled ∧ List.Forall₂ NamespaceDecl.Shuffles shuffled namespaces'

/-! ## Two catalogs of the same declarations -/

/-- The same referent with the number of its declaration in another catalog. -/
def Referent.place (place : DeclarationId → DeclarationId) : Referent → Referent
  | .builtin k => .builtin k
  | .declared o => .declared (place o)

/-- The same link with the number of its declaration in another catalog. -/
def Link.place {α : Type} (place : DeclarationId → DeclarationId) : Link α → Link α
  | .root a => .root a
  | .next o => .next (place o)

namespace Catalog

/-- References are resolved in the same way, if names are found in the same way. -/
theorem resolve_map {c c' : Catalog} {place : DeclarationId → DeclarationId} {scope : Scope}
    {r : NameRef} (h : ∀ uri, c'.find? ⟨uri, r.name.text⟩ =
      (c.find? ⟨uri, r.name.text⟩).map (·.place place)) :
    c'.resolve scope r = (c.resolve scope r).map (·.place place) := by
  have hfind (uri : String) (e : Except Diagnostic Referent) (he : e.map (·.place place) = e) :
      (c'.find? ⟨uri, r.name.text⟩).elim e .ok =
        ((c.find? ⟨uri, r.name.text⟩).elim e .ok).map (·.place place) := by
    rw [h]
    cases c.find? ⟨uri, r.name.text⟩ with
    | none => exact he.symm
    | some x => rfl
  have himported : c'.importedReferents scope r.name.text =
      (c.importedReferents scope r.name.text).map (Prod.map id (·.place place)) := by
    rw [importedReferents, importedReferents, List.map_filterMap]
    refine List.filterMap_congr fun uri _ => ?_
    rw [h]
    cases c.find? ⟨uri, r.name.text⟩ <;> rfl
  unfold resolve
  dsimp only
  split
  · split
    · rfl
    · exact hfind _ _ rfl
  · rw [h]
    cases hf : c.find? ⟨scope.uri, r.name.text⟩ with
    | some x => rfl
    | none =>
      simp only [Option.map_none]
      rw [himported]
      cases c.importedReferents scope r.name.text with
      | nil => exact hfind _ _ rfl
      | cons x rest =>
        cases rest with
        | nil => rfl
        | cons y rest => simp [Except.map, Function.comp_def]

/-- Another catalog has all declarations of a catalog, each in its place, and references that stand
for something stand for the same. -/
structure Embeds (c c' : Catalog) (place : DeclarationId → DeclarationId) : Prop where
  get? : ∀ o, c'.get? (place o) = c.get? o
  resolve : ∀ {scope r x}, c.resolve scope r = .ok x → c'.resolve scope r = .ok (x.place place)

namespace Embeds

variable {c c' : Catalog} {place : DeclarationId → DeclarationId} {o : DeclarationId}

theorem getAs?_eq (h : c.Embeds c' place) {α : Type} (as? : Declaration → Option α) :
    c'.getAs? as? (place o) = c.getAs? as? o := by
  rw [getAs?, getAs?, h.get?]

theorem typeLink_place (h : c.Embeds c' place) {l : Link TypeId} (hl : typeLink c o = .ok l) :
    typeLink c' (place o) = .ok (l.place place) := by
  unfold typeLink at hl
  split at hl
  · cases hl
  · rename_i d t hget
    unfold typeLink
    simp only [h.getAs?_eq, hget]
    split at hl
    · cases hl
      rfl
    · split at hl
      · cases hl
      · rename_i k hr
        cases hl
        simp only [h.resolve hr]
        rfl
      · rename_i up hr
        split at hl
        · rename_i hup
          cases hl
          simp only [h.resolve hr, Referent.place, h.get?, hup, if_true, Link.place]
        · cases hl

theorem elementLink_place (h : c.Embeds c' place) {l : Link (Option ElementId)}
    (hl : elementLink c o = .ok l) : elementLink c' (place o) = .ok (l.place place) := by
  unfold elementLink at hl
  split at hl
  · rename_i hnone
    cases hl
    simp only [elementLink, h.getAs?_eq, hnone, Link.place]
  · rename_i d e hget
    unfold elementLink
    simp only [h.getAs?_eq, hget]
    split at hl
    · cases hl
      rfl
    · split at hl
      · cases hl
      · cases hl
      · rename_i up hr
        split at hl
        · rename_i hup
          cases hl
          simp only [h.resolve hr, Referent.place, h.get?, hup, if_true, Link.place]
        · cases hl

end Embeds

/-- The number that a declaration has in another catalog. -/
def place (c c' : Catalog) (o : DeclarationId) : DeclarationId :=
  ⟨c'.declarations.findIdx fun d => (c.get? o).any (·.fullName == d.fullName)⟩

/-- Another catalog has the same declarations, which differ in their full names. -/
structure Reorders (c c' : Catalog) : Prop where
  perm : c.declarations.toList.Perm c'.declarations.toList
  names : (c.declarations.toList.map Declaration.fullName).Nodup

variable {c c' : Catalog} {o o' p : DeclarationId} {d : Declaration}

theorem mem_of_get? (h : c.get? o = some d) : d ∈ c.declarations := Array.mem_of_getElem? h

theorem exists_get?_of_mem (h : d ∈ c.declarations) : ∃ o, c.get? o = some d := by
  obtain ⟨i, hi, rfl⟩ := Array.getElem_of_mem h
  exact ⟨⟨i⟩, Array.getElem?_eq_getElem hi⟩

/-- A declaration is found by its full name. -/
theorem eq_of_fullName (hn : (c.declarations.toList.map Declaration.fullName).Nodup)
    {e : Declaration} (ho : c.get? o = some d) (hp : c.get? p = some e)
    (h : d.fullName = e.fullName) : o = p := by
  obtain ⟨i⟩ := o
  obtain ⟨j⟩ := p
  obtain ⟨hi, rfl⟩ := Array.getElem?_eq_some_iff.1 ho
  obtain ⟨hj, rfl⟩ := Array.getElem?_eq_some_iff.1 hp
  rw [List.nodup_iff_injective_get] at hn
  have hij := @hn ⟨i, by simpa using hi⟩ ⟨j, by simpa using hj⟩ (by simpa using h)
  rw [(Fin.mk.inj hij)]

namespace Reorders

theorem symm (h : c.Reorders c') : c'.Reorders c :=
  ⟨h.perm.symm, (h.perm.map _).nodup_iff.1 h.names⟩

theorem mem_iff (h : c.Reorders c') : d ∈ c.declarations ↔ d ∈ c'.declarations := by
  rw [← Array.mem_toList_iff, h.perm.mem_iff, Array.mem_toList_iff]

theorem get?_place (h : c.Reorders c') (ho : c.get? o = some d) :
    c'.get? (c.place c' o) = some d := by
  have hmem : d ∈ c'.declarations := h.mem_iff.1 (mem_of_get? ho)
  have hlt : (c.place c' o).index < c'.declarations.size :=
    Array.findIdx_lt_size.2 ⟨d, hmem, by simp [ho]⟩
  obtain ⟨p, hp⟩ := exists_get?_of_mem hmem
  have hname : (c.get? o).any (·.fullName == c'.declarations[(c.place c' o).index].fullName) :=
    Array.findIdx_getElem (w := hlt)
  rw [ho, Option.any_some, beq_iff_eq] at hname
  rw [← eq_of_fullName h.symm.names hp (Array.getElem?_eq_getElem hlt) hname, hp]

theorem place_eq_iff (h : c.Reorders c') (ho : c.get? o = some d) :
    c.place c' o = o' ↔ c'.get? o' = some d := by
  constructor
  · rintro rfl
    exact h.get?_place ho
  · exact fun ho' => eq_of_fullName h.symm.names (h.get?_place ho) ho' rfl

theorem place_inj (h : c.Reorders c') (ho : (c.get? o).isSome) (hp : (c.get? p).isSome)
    (heq : c.place c' o = c.place c' p) : o = p := by
  obtain ⟨d, hd⟩ := Option.isSome_iff_exists.1 ho
  obtain ⟨e, he⟩ := Option.isSome_iff_exists.1 hp
  have hde := (h.get?_place hd).symm.trans (heq ▸ h.get?_place he)
  exact eq_of_fullName h.names hd he (congrArg Declaration.fullName (Option.some.inj hde))

/-- Every declaration of the other catalog is in its place. -/
theorem exists_place (h : c.Reorders c') (ho' : c'.get? o' = some d) :
    ∃ o, c.get? o = some d ∧ c.place c' o = o' := by
  obtain ⟨o, ho⟩ := exists_get?_of_mem (h.mem_iff.2 (mem_of_get? ho'))
  exact ⟨o, ho, (h.place_eq_iff ho).2 ho'⟩

theorem find?_eq (h : c.Reorders c') (n : FullName) :
    c'.find? n = (c.find? n).map (·.place (c.place c')) := by
  unfold find?
  split
  · cases Kind.ofName? n.name <;> rfl
  · cases hi : c.declarations.findIdx? (·.fullName == n) with
    | none =>
      rw [Array.findIdx?_eq_none_iff] at hi
      rw [Array.findIdx?_eq_none_iff.2 fun d hd => hi d (h.mem_iff.2 hd)]
      rfl
    | some i =>
      obtain ⟨hlt, hname, -⟩ := Array.findIdx?_eq_some_iff_getElem.1 hi
      have ho : c.get? ⟨i⟩ = some c.declarations[i] := Array.getElem?_eq_getElem hlt
      obtain rfl : c.declarations[i].fullName = n := by simpa using hname
      have hplace := h.get?_place ho
      have hfound : c'.declarations.findIdx? (·.fullName == c.declarations[i].fullName) =
          some (c.place c' ⟨i⟩).index := by
        refine Array.findIdx?_eq_some_iff_findIdx_eq.2
          ⟨(Array.getElem?_eq_some_iff.1 hplace).1, ?_⟩
        simp [place, ho, BEq.comm]
      rw [hfound]
      rfl

theorem resolve_eq (h : c.Reorders c') (scope : Scope) (r : NameRef) :
    c'.resolve scope r = (c.resolve scope r).map (·.place (c.place c')) :=
  resolve_map fun _ => h.find?_eq _

theorem embeds (h : c.Reorders c') : c.Embeds c' (c.place c') where
  get? o := by
    cases ho : c.get? o with
    | some d => exact h.get?_place ho
    | none => exact Array.getElem?_eq_none (by simp [place, ho, Array.findIdx_eq_size_of_false])
  resolve hx := by
    rw [h.resolve_eq, hx]
    rfl

theorem getAs?_place (h : c.Reorders c') {α : Type} {as? : Declaration → Option α} {a : α}
    (ho : c.getAs? as? o = some (d, a)) : c'.getAs? as? (c.place c' o) = some (d, a) := by
  obtain ⟨hd, ha⟩ := getAs?_eq_some_iff.1 ho
  exact getAs?_eq_some_iff.2 ⟨h.get?_place hd, ha⟩

theorem isSome_place (h : c.Reorders c') {α : Type} {as? : Declaration → Option α}
    (ho : ((c.get? o).bind as?).isSome) : ((c'.get? (c.place c' o)).bind as?).isSome := by
  obtain ⟨d, hd⟩ := exists_get? ho
  rwa [h.get?_place hd, ← hd]

end Reorders

end Catalog

/-! ## Registering in another order -/

theorem registerImports_congr {uris uris' : List String}
    (h : ∀ uri, uris.contains uri = uris'.contains uri) (ds : List ImportDecl) (imports : Imports) :
    registerImports uris ds imports = registerImports uris' ds imports := by
  induction ds generalizing imports with
  | nil => rfl
  | cons d rest ih => simp only [registerImports, h, ih]

theorem harmless_nil : Harmless [] := by simp [Harmless]

theorem registerImports_eq_nil {uris : List String} {ds : List ImportDecl} {imports : Imports}
    (h : Harmless (registerImports uris ds imports).2) :
    (registerImports uris ds imports).2 = [] := by
  induction ds generalizing imports with
  | nil => rfl
  | cons d rest ih =>
    unfold registerImports at h ⊢
    dsimp only at h ⊢
    split at h
    · exact (not_harmless_fault h).elim
    · split at h
      · exact (not_harmless_fault h).elim
      · split at h
        · rename_i halias huri _ imports' hadd
          rw [if_neg halias, if_neg huri]
          exact ih h
        · exact (not_harmless_fault h).elim

/-- What registering a namespace asks for. -/
structure Registrable (namespaces : List NamespaceDecl) : Prop where
  unreserved : ∀ ns ∈ namespaces, ns.isReserved = false
  identifiers : ∀ ns ∈ namespaces, ∀ m ∈ ns.members, isIdentifier m.name.text
  names : ((globals namespaces).map Prod.fst).Nodup
  imports : ∀ ns ∈ namespaces,
    (registerImports (namespaces.map (·.uri)) ns.imports {}).2 = []

theorem identifiers_of_registerMembers {scope : Scope} {ms : List MemberDecl}
    {found : Array Declaration} (h : Harmless (registerMembers scope ms found).2) :
    ∀ m ∈ ms, isIdentifier m.name.text := by
  induction ms generalizing found with
  | nil => simp
  | cons m rest ih =>
    unfold registerMembers at h
    dsimp only at h
    split at h
    · exact (not_harmless_fault h).elim
    · rename_i hname
      split at h
      · exact (not_harmless_fault h).elim
      · rw [Bool.not_eq_true', Bool.not_eq_false] at hname
        exact List.forall_mem_cons.2 ⟨hname, ih h⟩

theorem identifiers_of_registerNamespaces {scope : NamespaceDecl → Scope}
    {namespaces : List NamespaceDecl} {found : Array Declaration}
    (h : Harmless (registerNamespaces scope namespaces found).2) :
    ∀ ns ∈ namespaces, ∀ m ∈ ns.members, isIdentifier m.name.text := by
  induction namespaces generalizing found with
  | nil => simp
  | cons ns rest ih =>
    unfold registerNamespaces at h
    split at h
    · exact (not_harmless_fault h).elim
    · obtain ⟨hmembers, hrest⟩ := List.forall_mem_append.1 h
      exact List.forall_mem_cons.2 ⟨identifiers_of_registerMembers hmembers, ih hrest⟩

theorem registerMembers_eq_nil {scope : Scope} {ms : List MemberDecl} {found : Array Declaration}
    (hid : ∀ m ∈ ms, isIdentifier m.name.text)
    (hn : (found.toList.map Declaration.fullName ++
      ms.map fun m => (⟨scope.uri, m.name.text⟩ : FullName)).Nodup) :
    (registerMembers scope ms found).2 = [] := by
  induction ms generalizing found with
  | nil => rfl
  | cons m rest ih =>
    obtain ⟨hm, hrest⟩ := List.forall_mem_cons.1 hid
    unfold registerMembers
    dsimp only
    have hname : isIdentifier (Declaration.mk scope m).name := hm
    have hnew : found.any (fun other => other.fullName == (Declaration.mk scope m).fullName) =
        false := by
      rw [Array.any_eq_false']
      intro other hother heq
      refine (List.nodup_append.1 hn).2.2 other.fullName
        (List.mem_map_of_mem (Array.mem_toList_iff.2 hother)) _ List.mem_cons_self ?_
      exact beq_iff_eq.1 heq
    rw [hname, hnew]
    refine ih hrest ?_
    simpa [Declaration.fullName, Declaration.name] using hn

theorem registerNamespaces_eq_nil {scope : NamespaceDecl → Scope}
    (hscope : ∀ ns, (scope ns).uri = ns.uri) {namespaces : List NamespaceDecl}
    {found : Array Declaration} (hr : ∀ ns ∈ namespaces, ns.isReserved = false)
    (hid : ∀ ns ∈ namespaces, ∀ m ∈ ns.members, isIdentifier m.name.text)
    (hn : (found.toList.map Declaration.fullName ++ (globals namespaces).map Prod.fst).Nodup) :
    (registerNamespaces scope namespaces found).2 = [] := by
  induction namespaces generalizing found with
  | nil => rfl
  | cons ns rest ih =>
    obtain ⟨hns, hr⟩ := List.forall_mem_cons.1 hr
    obtain ⟨hm, hid⟩ := List.forall_mem_cons.1 hid
    have hsplit : found.toList.map Declaration.fullName ++ (globals (ns :: rest)).map Prod.fst =
        (found.toList.map Declaration.fullName ++
          ns.members.map fun m => (⟨(scope ns).uri, m.name.text⟩ : FullName)) ++
          (globals rest).map Prod.fst := by
      simp [globals, hscope]
    rw [hsplit] at hn
    have hmembers := registerMembers_eq_nil hm (List.nodup_append.1 hn).1
    have hharmless : Harmless (registerMembers (scope ns) ns.members found).2 := by
      rw [hmembers]
      exact harmless_nil
    have hlist := (registerMembers_ok hharmless).1
    unfold registerNamespaces
    rw [hns]
    dsimp only
    rw [hmembers, List.nil_append]
    refine ih hr hid ?_
    rw [hlist]
    simpa [Declaration.fullName, Declaration.name, Function.comp_def] using hn

namespace Catalog

/-- Where the references of a namespace are looked up. -/
def scopeOf (namespaces : List NamespaceDecl) (ns : NamespaceDecl) : Scope :=
  ⟨ns.uri, (registerImports (namespaces.map (·.uri)) ns.imports {}).1⟩

theorem ofNamespaces_eq {namespaces : List NamespaceDecl}
    (hr : ∀ ns ∈ namespaces, ns.isReserved = false) : ofNamespaces namespaces =
      let found := registerNamespaces (scopeOf namespaces) namespaces #[]
      (⟨namespaces.map (·.uri), found.1⟩, found.2 ++ namespaces.flatMap fun ns =>
        (registerImports (namespaces.map (·.uri)) ns.imports {}).2) := by
  have hfilter : namespaces.filter (!·.isReserved) = namespaces :=
    List.filter_eq_self.2 fun ns hns => by simp [hr ns hns]
  unfold ofNamespaces
  simp only [hfilter]
  rfl

end Catalog

theorem registrable_of_harmless {namespaces : List NamespaceDecl}
    (h : Harmless (Catalog.ofNamespaces namespaces).2) : Registrable namespaces := by
  have hr := (registerNamespaces_ok (List.forall_mem_append.1 h).1).1
  have hnames := (registers_ofNamespaces h).names
  have hentries := (registers_ofNamespaces h).entries
  rw [Catalog.ofNamespaces_eq hr] at h
  obtain ⟨hmembers, himports⟩ := List.forall_mem_append.1 h
  refine ⟨hr, identifiers_of_registerNamespaces hmembers, ?_, fun ns hns => ?_⟩
  · rw [← hentries, List.map_map]
    exact hnames
  · exact registerImports_eq_nil fun d hd => himports d (List.mem_flatMap_of_mem hns hd)

theorem Registrable.ofNamespaces {namespaces : List NamespaceDecl} (h : Registrable namespaces) :
    (Catalog.ofNamespaces namespaces).2 = [] ∧
    (Catalog.ofNamespaces namespaces).1.declarations.toList =
      namespaces.flatMap fun ns => ns.members.map (Declaration.mk (Catalog.scopeOf namespaces ns)) := by
  have hfaults : (registerNamespaces (Catalog.scopeOf namespaces) namespaces #[]).2 = [] :=
    registerNamespaces_eq_nil (fun _ => rfl) h.unreserved h.identifiers (by simpa using h.names)
  have hharmless :
      Harmless (registerNamespaces (Catalog.scopeOf namespaces) namespaces #[]).2 := by
    rw [hfaults]
    exact harmless_nil
  have hlist := (registerNamespaces_ok hharmless).2.1
  rw [Catalog.ofNamespaces_eq h.unreserved]
  refine ⟨?_, by simpa using hlist⟩
  simp only [hfaults, List.nil_append, List.flatMap_eq_nil_iff]
  exact h.imports

namespace Rearranges

variable {namespaces namespaces' : List NamespaceDecl} {β : Type}

theorem map_perm (h : Rearranges namespaces namespaces') {f : NamespaceDecl → β}
    (hf : ∀ {ns ns'}, NamespaceDecl.Shuffles ns ns' → f ns = f ns') :
    (namespaces.map f).Perm (namespaces'.map f) := by
  obtain ⟨shuffled, hperm, hshuffles⟩ := h
  refine (hperm.map f).trans (List.Perm.of_eq ?_)
  clear hperm
  induction hshuffles with
  | nil => rfl
  | cons hns _ ih => rw [List.map_cons, List.map_cons, hf hns, ih]

theorem members_perm (h : Rearranges namespaces namespaces') {f : NamespaceDecl → MemberDecl → β}
    (hf : ∀ {ns ns'}, NamespaceDecl.Shuffles ns ns' → f ns = f ns') :
    (namespaces.flatMap fun ns => ns.members.map (f ns)).Perm
      (namespaces'.flatMap fun ns => ns.members.map (f ns)) := by
  obtain ⟨shuffled, hperm, hshuffles⟩ := h
  refine (hperm.flatMap_right _).trans ?_
  clear hperm
  induction hshuffles with
  | nil => exact .refl _
  | cons hns _ ih =>
    rw [List.flatMap_cons, List.flatMap_cons, hf hns]
    exact (hns.1.map _).append ih

theorem forall_mem (h : Rearranges namespaces namespaces') {P : NamespaceDecl → Prop}
    (hP : ∀ ns ∈ namespaces, P ns)
    (hs : ∀ {ns ns'}, NamespaceDecl.Shuffles ns ns' → P ns → P ns') : ∀ ns ∈ namespaces', P ns := by
  obtain ⟨shuffled, hperm, hshuffles⟩ := h
  have hP : ∀ ns ∈ shuffled, P ns := fun ns hns => hP ns (hperm.mem_iff.2 hns)
  clear hperm
  induction hshuffles with
  | nil => simp
  | cons hns _ ih =>
    obtain ⟨hfirst, hrest⟩ := List.forall_mem_cons.1 hP
    exact List.forall_mem_cons.2 ⟨hs hns hfirst, ih hrest⟩

theorem symm (h : Rearranges namespaces namespaces') : Rearranges namespaces' namespaces := by
  obtain ⟨shuffled, hperm, hshuffles⟩ := h
  obtain ⟨other, hother, hperm'⟩ := List.perm_comp_forall₂ hperm hshuffles
  exact ⟨other, hperm'.symm, hother.flip.imp fun _ _ hns => NamespaceDecl.Shuffles.symm hns⟩

/-- The same namespaces can be imported. -/
theorem registerImports_eq (h : Rearranges namespaces namespaces') :
    registerImports (namespaces'.map (·.uri)) = registerImports (namespaces.map (·.uri)) := by
  have huris : (namespaces.map (·.uri)).Perm (namespaces'.map (·.uri)) :=
    h.map_perm fun hns => by rw [hns.2]
  funext ds imports
  refine registerImports_congr (fun uri => ?_) ds imports
  rw [Bool.eq_iff_iff, List.contains_iff_mem, List.contains_iff_mem, huris.mem_iff]

theorem registrable (h : Rearranges namespaces namespaces') (hr : Registrable namespaces) :
    Registrable namespaces' := by
  refine ⟨h.forall_mem hr.unreserved fun hns hr => ?_, h.forall_mem hr.identifiers ?_, ?_, ?_⟩
  · rw [hns.2]
    exact hr
  · exact fun hns hid m hm => hid m (hns.1.mem_iff.2 hm)
  · have hg := h.members_perm (f := fun ns m => ((⟨ns.uri, m.name.text⟩ : FullName), m))
      fun hns => by rw [hns.2]
    exact (hg.map Prod.fst).nodup_iff.1 hr.names
  · rw [h.registerImports_eq]
    exact h.forall_mem hr.imports fun hns hi => by rw [hns.2]; exact hi

/-- The catalogs list the same declarations. -/
theorem reorders (h : Rearranges namespaces namespaces') (hr : Registrable namespaces) :
    (Catalog.ofNamespaces namespaces).1.Reorders (Catalog.ofNamespaces namespaces').1 := by
  have hscope : Catalog.scopeOf namespaces' = Catalog.scopeOf namespaces := by
    funext ns
    rw [Catalog.scopeOf, Catalog.scopeOf, h.registerImports_eq]
  have hregisters := registers_ofNamespaces (by rw [hr.ofNamespaces.1]; exact harmless_nil)
  refine ⟨?_, hregisters.names⟩
  rw [hr.ofNamespaces.2, (h.registrable hr).ofNamespaces.2, hscope]
  exact h.members_perm fun hns => by rw [hns.2]; rfl

end Rearranges

/-- Codes of at most two letters, lists of them, and parcels with a list that has a longer code by
default; the members come in a given order. -/
def parcels (order : List MemberDecl → List MemberDecl) : List NamespaceDecl :=
  let text (name : String) : Ident := ⟨name, none⟩
  let code : TypeBody :=
    .restriction (.ofText "String") (some { lengthRange := some { greatest := some 2 } }) none none
  let parcel : TypeBody := .complex
    (some { items := [.declared
      { name := text "zone", type := .ofText "Codes", defaultValue := some "abc" }] }) none
  [{ uri := "urn:codes"
     members := order [
      .type { name := text "Parcel", body := parcel },
      .type { name := text "Code", body := code },
      .type { name := text "Codes", body := .list (.ofText "Code") }] }]

/-- The default value is refused where codes come first, and accepted where parcels do. -/
theorem parcels_depend_on_order : Rearranges (parcels id) (parcels (·.rotate 1)) ∧
    accepted (parcels id) {} = true ∧ accepted (parcels (·.rotate 1)) {} = false := by
  refine ⟨⟨_, .refl _, .cons ⟨(List.rotate_perm _ 1).symm, rfl⟩ .nil⟩, ?_, ?_⟩
  · decide +kernel
  · decide +kernel

end Schemata
