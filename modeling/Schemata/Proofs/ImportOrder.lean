import Schemata.Proofs.ImportTables

/-!
# The order of imports

The imports of a namespace may be given in another order (`NamespaceDecl.Reimports`). If no alias is
given twice in a part of a namespace, then every reference stands for the same thing as before, or
fails with the same code. The words of a failure may differ, since an ambiguous name is told with
the namespaces that have it, in the order of their imports. So a compilation takes the same steps and
records the same codes (`compile_of_reimports`).
-/

namespace Schemata

/-- The same part of a namespace with its imports in another order. -/
def NamespaceDecl.Reimports (ns ns' : NamespaceDecl) : Prop :=
  ns.imports.Perm ns'.imports ∧ ns' = { ns with imports := ns'.imports }

/-- Two scopes whose imports differ in their order. -/
structure Scope.Reorders (s s' : Scope) : Prop where
  uri : s'.uri = s.uri
  imports : s.imports.Reorders s'.imports

/-- Two declarations that are the same apart from the order of imports in their scopes. -/
structure Declaration.Rescoped (d d' : Declaration) : Prop where
  member : d'.member = d.member
  scope : d.scope.Reorders d'.scope

theorem Declaration.Rescoped.fullName {d d' : Declaration} (h : d.Rescoped d') :
    d'.fullName = d.fullName := by
  rw [Declaration.fullName, Declaration.fullName, Declaration.name, Declaration.name, h.member,
    h.scope.uri]

/-! ## Registering -/

theorem registerNamespaces_rescoped {scope scope' : NamespaceDecl → Scope}
    {namespaces namespaces' : List NamespaceDecl}
    (hn : List.Forall₂ (fun ns ns' => ns.Reimports ns' ∧ (scope ns).Reorders (scope' ns'))
      namespaces namespaces') :
    List.Forall₂ Declaration.Rescoped (registerNamespaces scope namespaces #[]).1.toList
        (registerNamespaces scope' namespaces' #[]).1.toList ∧
      (registerNamespaces scope' namespaces' #[]).2 =
        (registerNamespaces scope namespaces #[]).2 := by
  refine registerNamespaces_forall₂ Declaration.Rescoped.fullName (hn.imp ?_) .nil
  rintro ns ns' ⟨⟨-, hns'⟩, hscope⟩
  refine ⟨by rw [hns'], by rw [hns'], hscope.uri, ?_⟩
  rw [hns']
  exact List.forall₂_same.2 fun m _ => ⟨rfl, rfl, hns' ▸ hscope⟩

/-! ## Looking up -/

/-- The comparison of codes, whatever their order. -/
def Comparison.codes : Comparison where
  diagnostics d d' := d'.code = d.code ∧ d'.isError = d.isError
  ledgers l l' := (l.entries.toList.map (·.code)).Perm (l'.entries.toList.map (·.code)) ∧
    l'.hasErrors = l.hasErrors
  refl d := ⟨rfl, rfl⟩
  add := by
    rintro l l' d d' ⟨hcodes, herrors⟩ ⟨hcode, herror⟩
    rw [Ledger.hasErrors_eq, Ledger.hasErrors_eq] at herrors ⊢
    rw [Ledger.toList_add, Ledger.toList_add]
    constructor
    · rw [List.map_append, List.map_append, List.map_singleton, List.map_singleton, hcode]
      exact hcodes.append_right _
    · rw [List.any_append, List.any_append, herrors]
      simp [herror]

namespace Catalog

variable {c c' : Catalog} {s s' : Scope}

/-- Two catalogs whose declarations are the same apart from the order of imports in their scopes. -/
def Rescopes (c c' : Catalog) : Prop :=
  List.Forall₂ Declaration.Rescoped c.declarations.toList c'.declarations.toList

theorem Rescopes.find?_eq (h : c.Rescopes c') (n : FullName) : c'.find? n = c.find? n :=
  find?_of_forall₂ Declaration.Rescoped.fullName h n

theorem Rescopes.importedReferents_perm (h : c.Rescopes c') (hs : s.Reorders s') (name : String) :
    (c.importedReferents s name).Perm (c'.importedReferents s' name) := by
  have hfind : (fun uri => (c'.find? ⟨uri, name⟩).map (uri, ·)) =
      fun uri => (c.find? ⟨uri, name⟩).map (uri, ·) := by
    funext uri
    rw [h.find?_eq]
  rw [importedReferents, importedReferents, hs.uri, hfind]
  exact (hs.imports.uris.filter _).filterMap _

/-- A reference stands for the same thing, or fails with the same code. -/
theorem Rescopes.answers_resolve (h : c.Rescopes c') (hs : s.Reorders s') (r : NameRef) :
    Comparison.codes.Answers (c.resolve s r) (c'.resolve s' r) := by
  unfold resolve
  dsimp only
  simp only [h.find?_eq, hs.uri, hs.imports.uriOf]
  split
  · exact .refl _ _
  · split
    · exact .ok _
    · have hperm := h.importedReferents_perm hs r.name.text
      generalize c.importedReferents s r.name.text = found at hperm
      generalize c'.importedReferents s' r.name.text = found' at hperm
      cases found with
      | nil =>
        rw [List.nil_perm.1 hperm]
        exact .refl _ _
      | cons x rest =>
        cases rest with
        | nil =>
          rw [List.perm_singleton.1 hperm.symm]
          exact .ok _
        | cons y rest =>
          match found', hperm.length_eq with
          | _ :: _ :: _, _ => exact .error ⟨rfl, rfl⟩

theorem Rescopes.catalogs (h : c.Rescopes c') : Comparison.codes.Catalogs c c' := by
  refine ⟨by simpa using (List.Forall₂.length_eq h).symm, fun id => ?_⟩
  have hid := get?_of_forall₂ h id
  generalize c.get? id = x at hid
  generalize c'.get? id = x' at hid
  cases hid with
  | none => exact .none
  | some hd =>
    exact .some ⟨hd.member ▸ .refl _, hd.scope.uri, h.answers_resolve hd.scope⟩

theorem Rescopes.sameBodies (h : c.Rescopes c') : Comparison.SameBodies c c' := by
  refine Comparison.sameBodies_of_members fun o => ?_
  have ho := get?_of_forall₂ h o
  generalize c.get? o = x at ho
  generalize c'.get? o = x' at ho
  cases ho with
  | none => rfl
  | some hd => exact congrArg some hd.member

end Catalog

/-! ## Importing in another order -/

namespace NamespaceDecl.Reimports

variable {ns ns' : NamespaceDecl} (h : ns.Reimports ns')
include h

theorem uri : ns'.uri = ns.uri := by rw [h.2]

theorem isReserved : ns'.isReserved = ns.isReserved := by
  rw [NamespaceDecl.isReserved, NamespaceDecl.isReserved, h.uri]

end NamespaceDecl.Reimports

/-- What is found in the parts of namespaces one after the other comes in the order of the parts. -/
theorem flatMap_unreserved_perm {α : Type} {f f' : NamespaceDecl → List α}
    {namespaces namespaces' : List NamespaceDecl}
    (h : List.Forall₂ (fun ns ns' => ns.Reimports ns' ∧ (f ns).Perm (f' ns'))
      namespaces namespaces') :
    ((namespaces.filter (!·.isReserved)).flatMap f).Perm
      ((namespaces'.filter (!·.isReserved)).flatMap f') := by
  induction h with
  | nil => exact .refl _
  | cons hns _ ih =>
    rw [List.filter_cons, List.filter_cons, hns.1.isReserved]
    split
    · exact hns.2.append ih
    · exact ih

section Reimporting

variable {namespaces namespaces' : List NamespaceDecl}
  (h : List.Forall₂ NamespaceDecl.Reimports namespaces namespaces')
include h

/-- The same namespaces can be imported. -/
theorem uris_of_reimports : (namespaces'.filter (!·.isReserved)).map (·.uri) =
    (namespaces.filter (!·.isReserved)).map (·.uri) := by
  induction h with
  | nil => rfl
  | cons hns _ ih =>
    rw [List.filter_cons, List.filter_cons, hns.isReserved]
    split
    · rw [List.map_cons, List.map_cons, ih, hns.uri]
    · exact ih

/-- Each part of a namespace has the same scope, apart from the order of imports, and the same is
wrong with its imports. -/
theorem scopeIn_of_reimports {ns ns' : NamespaceDecl} (hns : ns.Reimports ns')
    (ha : ns.aliases.Nodup) :
    (Catalog.scopeIn namespaces ns).Reorders (Catalog.scopeIn namespaces' ns') ∧
      (ns.importFaults namespaces).Perm (ns'.importFaults namespaces') := by
  have hperm := registerImports_perm ((namespaces.filter (!·.isReserved)).map (·.uri)) ha hns.1
  rw [Catalog.scopeIn, Catalog.scopeIn, NamespaceDecl.importFaults, NamespaceDecl.importFaults,
    uris_of_reimports h]
  exact ⟨⟨hns.uri, hperm.1⟩, hperm.2⟩

variable (ha : ∀ ns ∈ namespaces, ns.aliases.Nodup)
include ha

theorem rescopes_ofNamespaces :
    (Catalog.ofNamespaces namespaces).1.Rescopes (Catalog.ofNamespaces namespaces').1 ∧
      (Catalog.ofNamespaces namespaces).2.Perm (Catalog.ofNamespaces namespaces').2 := by
  have hboth : List.Forall₂ (fun ns ns' => ns.aliases.Nodup ∧ NamespaceDecl.Reimports ns ns')
      namespaces namespaces' := (List.forall₂_and_left _ _).2 ⟨ha, h⟩
  have hregister := registerNamespaces_rescoped
    (hboth.imp fun ns ns' hns => ⟨hns.2, (scopeIn_of_reimports h hns.2 hns.1).1⟩)
  refine ⟨hregister.1, ?_⟩
  rw [Catalog.faults_ofNamespaces, Catalog.faults_ofNamespaces, hregister.2]
  refine List.Perm.append_left _ (flatMap_unreserved_perm ?_)
  exact hboth.imp fun ns ns' hns => ⟨hns.2, (scopeIn_of_reimports h hns.2 hns.1).2⟩

theorem ledgers_of_reimports : Comparison.codes.ledgers
    (Ledger.extend {} (Catalog.ofNamespaces namespaces).2)
    (Ledger.extend {} (Catalog.ofNamespaces namespaces').2) := by
  have hperm := (rescopes_ofNamespaces h ha).2
  constructor
  · rw [Ledger.toList_extend, Ledger.toList_extend]
    exact (hperm.append_left _).map _
  · rw [Ledger.hasErrors_extend, Ledger.hasErrors_extend, hperm.any_eq]

/-- Every reference stands for the same declaration, or fails with the same code. -/
theorem resolve_of_reimports {ns ns' : NamespaceDecl} (hns : ns.Reimports ns')
    (hns' : ns.aliases.Nodup) (r : NameRef) :
    ((Catalog.ofNamespaces namespaces).1.resolve (Catalog.scopeIn namespaces ns) r).mapError
        Diagnostic.code =
      ((Catalog.ofNamespaces namespaces').1.resolve (Catalog.scopeIn namespaces' ns') r).mapError
        Diagnostic.code := by
  have hr := (rescopes_ofNamespaces h ha).1.answers_resolve (scopeIn_of_reimports h hns hns').1 r
  rcases hr.cases with ⟨referent, hx, hx'⟩ | ⟨d, d', hd, hx, hx'⟩
  · rw [hx, hx']
  · rw [hx, hx']
    exact congrArg Except.error hd.1.symm

end Reimporting

/-- Two compilations have the same verdict, make the same schema and record the same codes, each
equally often. -/
structure Compilation.SameVerdict (r r' : Compilation) : Prop where
  isValid : r'.isValid = r.isValid
  schema : r'.schema = r.schema
  codes : (r.diagnostics.map (·.code)).Perm (r'.diagnostics.map (·.code))

theorem Comparison.sameVerdict_of_results {x x' : Except TooLong Compilation}
    (h : Comparison.codes.Results x x') :
    (x = .error {} ∧ x' = .error {}) ∨ ∃ r r', x = .ok r ∧ x' = .ok r' ∧ r.SameVerdict r' := by
  cases h with
  | ended made h =>
    refine .inr ⟨_, _, rfl, rfl, ?_, ?_, h.1⟩
    · rw [h.2]
    · rw [h.2]
  | stopped h => exact .inr ⟨_, _, rfl, rfl, rfl, rfl, h.1⟩
  | tooLong => exact .inl ⟨rfl, rfl⟩

/-- If no part of a namespace gives an alias twice, the order of imports does not matter: compiling
has the same verdict, schema and codes, and every reference stands for the same declaration or fails
with the same code. One without an alias is ambiguous if and only if two imported namespaces, apart
from the one that it is written in, have the name, and that one has not. -/
theorem compile_of_reimports {namespaces namespaces' : List NamespaceDecl}
    (h : List.Forall₂ NamespaceDecl.Reimports namespaces namespaces')
    (ha : ∀ ns ∈ namespaces, ns.aliases.Nodup) :
    (∀ limits, (compile namespaces limits = .error {} ∧ compile namespaces' limits = .error {}) ∨
      ∃ r r', compile namespaces limits = .ok r ∧ compile namespaces' limits = .ok r' ∧
        r.SameVerdict r') ∧
    List.Forall₂ (fun ns ns' => ∀ r : NameRef,
      ((Catalog.ofNamespaces namespaces).1.resolve (Catalog.scopeIn namespaces ns) r).mapError
        Diagnostic.code =
      ((Catalog.ofNamespaces namespaces').1.resolve (Catalog.scopeIn namespaces' ns') r).mapError
        Diagnostic.code) namespaces namespaces' ∧
    ∀ ns ∈ namespaces, ∀ r : NameRef, r.aliasName = none →
      ((∃ d, (Catalog.ofNamespaces namespaces).1.resolve (Catalog.scopeIn namespaces ns) r =
          .error d ∧ d.code = .ambiguousNameReference) ↔
        ¬Provides namespaces ⟨ns.uri, r.name.text⟩ ∧ ∃ u u', u ≠ u' ∧
          (ns.Imports u ∧ u ≠ ns.uri ∧ Provides namespaces ⟨u, r.name.text⟩) ∧
          ns.Imports u' ∧ u' ≠ ns.uri ∧ Provides namespaces ⟨u', r.name.text⟩) := by
  refine ⟨fun limits => ?_, ?_, fun ns hns r hr => Catalog.isAmbiguous_iff (ha ns hns) hr⟩
  · exact Comparison.sameVerdict_of_results (Comparison.results_compile
      (rescopes_ofNamespaces h ha).1.catalogs (rescopes_ofNamespaces h ha).1.sameBodies
      (ledgers_of_reimports h ha) limits)
  · have hboth : List.Forall₂ (fun ns ns' => ns.aliases.Nodup ∧ NamespaceDecl.Reimports ns ns')
        namespaces namespaces' := (List.forall₂_and_left _ _).2 ⟨ha, h⟩
    exact hboth.imp fun ns ns' hns => resolve_of_reimports h ha hns.2 hns.1

/-- Marks of one colour. -/
def marks (colour : String) : NamespaceDecl where
  uri := "urn:" ++ colour
  members := [.type { name := ⟨"Mark", none⟩, body := .restriction (.ofText "String") none none none }]

/-- Flags with a mark, whose colour is not told, and imports in a given order. -/
def flags (order : List ImportDecl → List ImportDecl) : NamespaceDecl where
  uri := "urn:flags"
  imports := order [{ uri := "urn:red", aliasName := some ⟨"r", none⟩ }, { uri := "urn:blue" }]
  members := [
    .type { name := ⟨"Flag", none⟩
            body := .complex (some { items := [
              .declared { name := ⟨"mark", none⟩, type := .ofText "Mark" }] }) none }]

/-- The name of a mark is ambiguous, in whichever order the colours are imported. -/
theorem flags_ambiguous :
    List.Forall₂ NamespaceDecl.Reimports [marks "red", marks "blue", flags id]
      [marks "red", marks "blue", flags List.reverse] ∧
    (∀ ns ∈ [marks "red", marks "blue", flags id], ns.aliases.Nodup) ∧
    (∃ r r', compile [marks "red", marks "blue", flags id] {} = .ok r ∧
      compile [marks "red", marks "blue", flags List.reverse] {} = .ok r' ∧ r.SameVerdict r') ∧
    ∃ d, (Catalog.ofNamespaces [marks "red", marks "blue", flags id]).1.resolve
      (Catalog.scopeIn [marks "red", marks "blue", flags id] (flags id)) (.ofText "Mark") = .error d ∧
        d.code = .ambiguousNameReference := by
  have h : List.Forall₂ NamespaceDecl.Reimports [marks "red", marks "blue", flags id]
      [marks "red", marks "blue", flags List.reverse] :=
    .cons ⟨.refl _, rfl⟩ (.cons ⟨.refl _, rfl⟩ (.cons ⟨(List.reverse_perm _).symm, rfl⟩ .nil))
  have ha : ∀ ns ∈ [marks "red", marks "blue", flags id], ns.aliases.Nodup := by decide +kernel
  obtain ⟨hcompile, -, hambiguous⟩ := compile_of_reimports h ha
  refine ⟨h, ha, ?_, ?_⟩
  · rcases hcompile {} with ⟨hlong, -⟩ | hverdict
    · have hends : (compile [marks "red", marks "blue", flags id] {}).isOk := by decide +kernel
      rw [hlong] at hends
      cases hends
    · exact hverdict
  · refine (hambiguous (flags id) (by simp) (.ofText "Mark") (by decide +kernel)).2 ⟨?_, ?_⟩
    · rw [← Catalog.isSome_find?_iff]
      decide +kernel
    · have hmark (colour : String) (hc : marks colour ∈ [marks "red", marks "blue", flags id])
          (hr : (marks colour).isReserved = false) :
          Provides [marks "red", marks "blue", flags id] ⟨"urn:" ++ colour, "Mark"⟩ :=
        .declared hc hr List.mem_cons_self (by decide +kernel)
      refine ⟨"urn:red", "urn:blue", by decide, ⟨?_, by decide, ?_⟩, ?_, by decide, ?_⟩
      · exact ⟨_, List.mem_cons_self, by decide +kernel, rfl⟩
      · exact hmark "red" (by simp) (by decide +kernel)
      · exact ⟨_, List.mem_cons_of_mem _ List.mem_cons_self, by decide +kernel, rfl⟩
      · exact hmark "blue" (by simp) (by decide +kernel)

end Schemata
