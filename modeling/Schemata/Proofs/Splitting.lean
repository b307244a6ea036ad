import Schemata.Proofs.ContentLikeness
import Schemata.Proofs.Rearrangement

/-!
# Namespaces in parts

A part of a namespace may be cut in two, each with the imports of the whole, and nothing changes:
the members are registered one after the other as before, each with the same scope, so that both
compilations have the same catalog, apart from how often it lists a URI (`compile_cut`). What is
wrong with the imports would be recorded for either part, so nothing may be wrong with them.
-/

namespace Schemata

namespace NamespaceDecl

/-- What is wrong with the imports of a namespace among others. -/
def importFaults (namespaces : List NamespaceDecl) (ns : NamespaceDecl) : List Diagnostic :=
  (registerImports ((namespaces.filter (!·.isReserved)).map (·.uri)) ns.imports {}).2

/-- A namespace in two parts, the first with as many of the members as a number says. -/
def cut (ns : NamespaceDecl) (n : Nat) : List NamespaceDecl :=
  [{ ns with members := ns.members.take n }, { ns with members := ns.members.drop n }]

end NamespaceDecl

theorem Catalog.faults_ofNamespaces (namespaces : List NamespaceDecl) : (ofNamespaces namespaces).2 =
    (registerNamespaces (scopeIn namespaces) namespaces #[]).2 ++
      (namespaces.filter (!·.isReserved)).flatMap (·.importFaults namespaces) := rfl

/-! ## Registering one part after the other -/

theorem registerMembers_append (scope : Scope) (ms ms' : List MemberDecl)
    (found : Array Declaration) :
    registerMembers scope (ms ++ ms') found =
      ((registerMembers scope ms' (registerMembers scope ms found).1).1,
        (registerMembers scope ms found).2 ++
          (registerMembers scope ms' (registerMembers scope ms found).1).2) := by
  induction ms generalizing found with
  | nil => rfl
  | cons m rest ih =>
    rw [List.cons_append, registerMembers, registerMembers]
    dsimp only
    split
    · rw [ih, List.cons_append]
    · split
      · rw [ih, List.cons_append]
      · exact ih _

theorem registerNamespaces_append (scope : NamespaceDecl → Scope)
    (namespaces namespaces' : List NamespaceDecl) (found : Array Declaration) :
    registerNamespaces scope (namespaces ++ namespaces') found =
      ((registerNamespaces scope namespaces' (registerNamespaces scope namespaces found).1).1,
        (registerNamespaces scope namespaces found).2 ++
          (registerNamespaces scope namespaces' (registerNamespaces scope namespaces found).1).2) := by
  induction namespaces generalizing found with
  | nil => rfl
  | cons ns rest ih =>
    rw [List.cons_append, registerNamespaces, registerNamespaces]
    dsimp only
    split
    · rw [ih, List.cons_append]
    · rw [ih, List.append_assoc]

variable {before after : List NamespaceDecl} {ns : NamespaceDecl}

/-- The two parts of a namespace are registered as the whole is. -/
theorem registerNamespaces_cut {scope : NamespaceDecl → Scope} (hr : ns.isReserved = false) (n : Nat)
    (hscope : ∀ members, scope { ns with members } = scope ns) (found : Array Declaration) :
    registerNamespaces scope (ns.cut n) found = registerNamespaces scope [ns] found := by
  have hsplit := registerMembers_append (scope ns) (ns.members.take n) (ns.members.drop n) found
  rw [List.take_append_drop] at hsplit
  have hpart (members : List MemberDecl) : { ns with members }.isReserved = false := hr
  simp only [NamespaceDecl.cut, registerNamespaces, hr, hpart, hscope, hsplit, Bool.false_eq_true,
    if_false, List.append_nil]

/-! ## Compiling one part after the other -/

theorem filter_cut (hr : ns.isReserved = false) (n : Nat) :
    (before ++ ns.cut n ++ after).filter (!·.isReserved) =
      before.filter (!·.isReserved) ++ ns.cut n ++ after.filter (!·.isReserved) := by
  have hpart (members : List MemberDecl) : { ns with members }.isReserved = false := hr
  simp [NamespaceDecl.cut, hpart]

theorem filter_whole (hr : ns.isReserved = false) :
    (before ++ ns :: after).filter (!·.isReserved) =
      before.filter (!·.isReserved) ++ ns :: after.filter (!·.isReserved) := by
  simp [hr]

/-- The same namespaces can be imported. -/
theorem registerImports_cut (before after : List NamespaceDecl) (hr : ns.isReserved = false)
    (n : Nat) :
    registerImports (((before ++ ns.cut n ++ after).filter (!·.isReserved)).map (·.uri)) =
      registerImports (((before ++ ns :: after).filter (!·.isReserved)).map (·.uri)) := by
  funext ds imports
  refine registerImports_congr (fun uri => ?_) ds imports
  rw [filter_cut hr, filter_whole hr, Bool.eq_iff_iff, List.contains_iff_mem, List.contains_iff_mem]
  simp [NamespaceDecl.cut]

/-- The comparison that no difference passes. -/
def Comparison.same : Comparison where
  diagnostics := Eq
  ledgers := Eq
  refl _ := rfl
  add hl hd := by rw [hl, hd]

/-- What references stand for does not depend on the URIs that a catalog lists. -/
theorem Comparison.same_of_declarations {c c' : Catalog} (h : c'.declarations = c.declarations) :
    Comparison.same.Catalogs c c' := by
  obtain ⟨uris, ds⟩ := c
  obtain ⟨uris', ds'⟩ := c'
  obtain rfl : ds' = ds := h
  have hscope (s : Scope) : Comparison.same.Scopes ⟨uris, ds'⟩ ⟨uris', ds'⟩ s s :=
    ⟨rfl, fun r => .refl _ (Catalog.resolve ⟨uris, ds'⟩ s r)⟩
  refine ⟨rfl, fun id => ?_⟩
  have hget : Catalog.get? ⟨uris', ds'⟩ id = Catalog.get? ⟨uris, ds'⟩ id := rfl
  rw [hget]
  cases Catalog.get? ⟨uris, ds'⟩ id with
  | none => exact .none
  | some d => exact .some ⟨.refl _, hscope d.scope⟩

theorem Comparison.eq_of_results {x x' : Except TooLong Compilation}
    (h : Comparison.same.Results x x') : x' = x := by
  cases h with
  | ended made h => cases h; rfl
  | stopped h => cases h; rfl
  | tooLong => rfl

/-- The same declarations are registered, with the same scopes, and the same faults are found. -/
theorem ofNamespaces_cut (hr : ns.isReserved = false)
    (hi : ns.importFaults (before ++ ns :: after) = []) (n : Nat) :
    (Catalog.ofNamespaces (before ++ ns.cut n ++ after)).1.declarations =
        (Catalog.ofNamespaces (before ++ ns :: after)).1.declarations ∧
      (Catalog.ofNamespaces (before ++ ns.cut n ++ after)).2 =
        (Catalog.ofNamespaces (before ++ ns :: after)).2 := by
  have himports := registerImports_cut before after hr n
  have hscope : Catalog.scopeIn (before ++ ns.cut n ++ after) =
      Catalog.scopeIn (before ++ ns :: after) := by
    funext part
    rw [Catalog.scopeIn, Catalog.scopeIn, himports]
  have hfaults : NamespaceDecl.importFaults (before ++ ns.cut n ++ after) =
      NamespaceDecl.importFaults (before ++ ns :: after) := by
    funext part
    rw [NamespaceDecl.importFaults, NamespaceDecl.importFaults, himports]
  have hregister : registerNamespaces (Catalog.scopeIn (before ++ ns :: after))
      (before ++ ns.cut n ++ after) #[] =
      registerNamespaces (Catalog.scopeIn (before ++ ns :: after)) (before ++ ns :: after) #[] := by
    have hcut : registerNamespaces (Catalog.scopeIn (before ++ ns :: after)) (ns.cut n) =
        registerNamespaces (Catalog.scopeIn (before ++ ns :: after)) [ns] :=
      funext (registerNamespaces_cut hr n fun _ => rfl)
    rw [List.append_cons before ns after] at hcut ⊢
    simp only [registerNamespaces_append, hcut]
  have hparts : (ns.cut n).flatMap (NamespaceDecl.importFaults (before ++ ns :: after)) = [] := by
    have hpart (members : List MemberDecl) :
        { ns with members }.importFaults (before ++ ns :: after) = [] := hi
    simp [NamespaceDecl.cut, hpart]
  rw [Catalog.declarations_ofNamespaces, Catalog.declarations_ofNamespaces,
    Catalog.faults_ofNamespaces, Catalog.faults_ofNamespaces, hscope, hfaults, hregister,
    filter_cut hr, filter_whole hr]
  refine ⟨rfl, ?_⟩
  simp only [List.flatMap_append, List.flatMap_cons, hparts, hi, List.append_nil, List.nil_append]

/-- Cutting a part of a namespace in two changes neither what a compilation records nor what it
makes, if nothing is wrong with the imports of that part. -/
theorem compile_cut (hr : ns.isReserved = false)
    (hi : ns.importFaults (before ++ ns :: after) = []) (n : Nat) (limits : Limits) :
    compile (before ++ ns.cut n ++ after) limits = compile (before ++ ns :: after) limits := by
  obtain ⟨hdeclarations, hfaults⟩ := ofNamespaces_cut hr hi n
  refine Comparison.eq_of_results (Comparison.results_compile ?_ ?_ ?_ limits)
  · exact Comparison.same_of_declarations hdeclarations
  · refine Comparison.sameBodies_of_members fun o => ?_
    rw [Catalog.get?, Catalog.get?, hdeclarations]
  · exact congrArg (Ledger.extend {}) hfaults.symm

/-- Units of weight. -/
def weights : NamespaceDecl where
  uri := "urn:weights"
  members := [.type { name := ⟨"Weight", none⟩, body := .restriction (.ofText "Decimal") none none none }]

/-- Crates whose weight is given in a unit of another namespace. A crate is declared before the label
that it has. -/
def crates : NamespaceDecl where
  uri := "urn:crates"
  imports := [{ uri := "urn:weights", aliasName := some ⟨"w", none⟩ }]
  members := [
    .type { name := ⟨"Crate", none⟩
            body := .complex (some { items := [
              .declared { name := ⟨"weight", none⟩, type := .ofText "w:Weight" },
              .declared { name := ⟨"label", none⟩, type := .ofText "Label" }] }) none },
    .type { name := ⟨"Label", none⟩, body := .restriction (.ofText "String") none none none }]

/-- The label may be declared in a part of its own. -/
theorem crates_cut : crates.isReserved = false ∧
    crates.importFaults ([weights] ++ crates :: []) = [] ∧
    accepted ([weights] ++ crates :: []) {} = true ∧
    compile ([weights] ++ crates.cut 1 ++ []) {} = compile ([weights] ++ crates :: []) {} :=
  ⟨by decide, by decide +kernel, by decide +kernel,
    compile_cut (by decide) (by decide +kernel) 1 {}⟩

end Schemata
