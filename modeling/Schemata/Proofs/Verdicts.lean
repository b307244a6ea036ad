import Schemata.Proofs.Compilation
import Schemata.Proofs.ContentReports

/-!
# Verdicts

What a compilation reports, whatever it is given. It ends in one of two ways (`Compilation.Ends`):
everything that was recorded let it go on, or the last diagnostic is the one that stopped it. That
one is about a circle of bases or of substitutions, or about a name that does not stand for what it
has to stand for. Circles of any other sort, through the types of elements, of attributes or of the
items of lists, do not stop a compilation.

Conversely a compilation that comes to its end has found no circle anywhere: every declaration has
its symbol then, and no circle is reached from what has one.
-/

namespace Schemata

/-! ## Registering -/

theorem ordinary_registerImports (uris : List String) (ds : List ImportDecl) (imports : Imports) :
    ∀ d ∈ (registerImports uris ds imports).2, d.Ordinary := by
  induction ds generalizing imports with
  | nil => simp [registerImports]
  | cons i rest ih =>
    unfold registerImports
    extract_lets refuse aliasSpan aliasName
    split
    · exact List.forall_mem_cons.2 ⟨rfl, ih imports⟩
    · split
      · exact List.forall_mem_cons.2 ⟨rfl, ih imports⟩
      · split
        · exact ih _
        · exact List.forall_mem_cons.2 ⟨rfl, ih imports⟩

theorem ordinary_registerMembers (scope : Scope) (ms : List MemberDecl)
    (found : Array Declaration) : ∀ d ∈ (registerMembers scope ms found).2, d.Ordinary := by
  induction ms generalizing found with
  | nil => simp [registerMembers]
  | cons m rest ih =>
    unfold registerMembers
    extract_lets refuse d
    split
    · exact List.forall_mem_cons.2 ⟨rfl, ih found⟩
    · split
      · exact List.forall_mem_cons.2 ⟨rfl, ih found⟩
      · exact ih _

theorem ordinary_registerNamespaces (scope : NamespaceDecl → Scope) (ns : List NamespaceDecl)
    (found : Array Declaration) :
    ∀ d ∈ (registerNamespaces scope ns found).2, d.Ordinary := by
  induction ns generalizing found with
  | nil => simp [registerNamespaces]
  | cons n rest ih =>
    unfold registerNamespaces
    split
    · exact List.forall_mem_cons.2 ⟨rfl, ih found⟩
    · exact List.forall_mem_append.2 ⟨ordinary_registerMembers _ _ _, ih _⟩

/-- What is wrong with names and imports stops no compilation. -/
theorem ordinary_ofNamespaces (namespaces : List NamespaceDecl) :
    ∀ d ∈ (Catalog.ofNamespaces namespaces).2, d.Ordinary := by
  refine List.forall_mem_append.2 ⟨ordinary_registerNamespaces _ _ _, fun d hd => ?_⟩
  obtain ⟨n, -, hd⟩ := List.mem_flatMap.1 hd
  exact ordinary_registerImports _ _ _ d hd

namespace Builder

variable {c : Catalog} {b b₁ : Builder} {limits : Limits}

/-- The builder that a compilation starts with is in order. -/
theorem Orderly.start (c : Catalog) (ledger : Ledger) : Orderly c { ledger } :=
  have hb := start_inv c ledger
  { builtin := hb.builtin
    size := hb.size
    below := hb.ordered.base
    simple := fun id up h _ => by
      have hid : id.index < Kind.all.length := by
        have hhas := Schema.has_of_base h
        rwa [Schema.Has, hb.size] at hhas
      obtain ⟨k, -, hk⟩ := hb.exists_kind hid
      rw [hk] at h
      obtain ⟨l, hl, rfl⟩ := Option.map_eq_some_iff.1 h
      rw [hb.typeDef_builtin]
      exact Kind.isSimple_base hl
    origins := by simp
    types := nofun
    attributes := nofun
    elements := nofun }

/-! ## Everything is made -/

/-- Nothing is in the making. -/
structure Idle (b : Builder) : Prop where
  attributes : b.openAttributes = []
  types : b.openTypes = []

namespace Idle

theorem mono (h : b.Idle) (hk : b.Keeps b₁) : b₁.Idle :=
  ⟨hk.openAttributes.trans h.attributes, hk.openTypes.trans h.types⟩

theorem atRest (h : b.Idle) : b.AtRest :=
  ⟨h.attributes, fun t ht => by rw [h.types] at ht; cases ht⟩

end Idle

theorem has_of_origin (ho : b.Orderly c) {id : TypeId} {o : DeclarationId}
    (h : b.origin? id = some o) : b.schema.Has id := by
  unfold origin? at h
  split at h
  · cases h
  · have hlt := (Array.getElem?_eq_some_iff.1 h).1
    rw [Schema.Has, ho.size]
    omega

theorem exists_origin {id : TypeId} (h : id ∈ b.declaredTypes) : ∃ o, b.origin? id = some o := by
  obtain ⟨i, hi, rfl⟩ := List.mem_map.1 h
  rw [List.mem_range] at hi
  refine ⟨b.origins[i], ?_⟩
  simp [origin?, Array.getElem?_eq_getElem hi]

namespace Reports

theorem resolveDeclaration (hidle : b.Idle) (id : DeclarationId) :
    b.Reports c (resolveDeclaration c limits id) fun _ b₁ =>
      (c.get? id).isSome → b₁.Knows id := by
  unfold Schemata.resolveDeclaration
  split
  · rename_i hnone
    exact .pure fun h => by rw [hnone] at h; cases h
  · rename_i d hd
    split
    · rename_i t ht
      have hid : c.DeclaresType id := by
        simp [Catalog.DeclaresType, hd, Declaration.asType?, ht]
      exact (resolveType hid).bind fun _ _ _ _ h => .pure fun _ => h.2
    · rename_i a ha
      have hget : c.getAs? (·.asAttribute?) id = some (d, a) :=
        Catalog.getAs?_eq_some_iff.2 ⟨hd, by rw [Declaration.asAttribute?, ha]⟩
      exact (resolveAttribute hget hidle.atRest).bind fun _ _ _ _ h => .pure fun _ => h.2
    · rename_i e he
      have hid : c.DeclaresElement id := by
        simp [Catalog.DeclaresElement, hd, Declaration.asElement?, he]
      exact (resolveElement hid).bind fun _ _ _ _ h => .pure fun _ => h.2

theorem finishType (hidle : b.Idle) {id : TypeId} {o : DeclarationId}
    (ho : b.origin? id = some o) : b.Reports c (finishType c limits id) fun _ _ => True := by
  refine .of_orderly fun horder => ?_
  unfold Schemata.finishType
  refine .get_bind ?_
  split
  · exact .pure trivial
  · rw [if_neg (by simp [hidle.types])]
    split
    · exact finishSimple ho
    · rename_i hk
      exact finishComplex ho (has_of_origin horder ho) (by simpa using hk) hidle.atRest

theorem resolveAll (hidle : b.Idle) (ids : List DeclarationId) :
    b.Reports c (ids.forM (Schemata.resolveDeclaration c limits)) fun _ b₁ =>
      ∀ id ∈ ids, (c.get? id).isSome → b₁.Knows id :=
  forM (P := fun id b₁ => (c.get? id).isSome → b₁.Knows id)
    (fun _ _ _ hk h hd => (h hd).mono hk) fun id _ _ hk => resolveDeclaration (hidle.mono hk) id

/-- At the end, everything that was declared has its symbol. -/
theorem buildAll (hidle : b.Idle) :
    b.Reports c (buildAll c limits) fun _ b₁ => ∀ id, (c.get? id).isSome → b₁.Knows id := by
  unfold Schemata.buildAll
  refine (resolveAll hidle c.ids).bind fun _ b₁ _ hk₁ hknows => .get_bind ?_
  refine (forM (P := fun _ _ => True) (fun _ _ _ _ _ => trivial) fun t ht b₂ hk₂ => ?_).mono
    fun _ b₂ _ hk₂ _ id hd => (hknows id ?_ hd).mono hk₂
  · -- the types were listed before the first of them was finished
    obtain ⟨o, ho⟩ := exists_origin ht
    exact finishType ((hidle.mono hk₁).mono hk₂) (hk₂.origin ho)
  · obtain ⟨d, hd⟩ := Option.isSome_iff_exists.1 hd
    exact List.mem_map.2
      ⟨id.index, List.mem_range.2 (Array.getElem?_eq_some_iff.1 hd).1, rfl⟩

end Reports

/-- Where everything that was declared has its symbol, nothing runs in a circle. -/
theorem Orderly.not_isCircular (ho : b.Orderly c)
    (h : ∀ id, (c.get? id).isSome → b.Knows id) : ¬c.IsCircular := by
  have hknows : ∀ {α : Type} {as? : Declaration → Option α} {o : DeclarationId},
      ((c.get? o).bind as?).isSome → b.Knows o := by
    intro α as? o hd
    obtain ⟨d, hd⟩ := Catalog.exists_get? hd
    exact h o (by rw [hd]; rfl)
  refine Catalog.not_isCircular (fun o hd => ?_) fun o hd => ?_
  · obtain ⟨s, hs⟩ := hknows hd
    obtain ⟨t, rfl⟩ := ho.exists_type hd hs
    exact (ho.types o t hs).2.1
  · obtain ⟨s, hs⟩ := hknows hd
    obtain ⟨e, rfl⟩ := ho.exists_element hd hs
    exact (ho.elements o e hs).2.1

end Builder

/-! ## How a compilation ends -/

theorem Ledger.hasErrors_eq_false_iff (l : Ledger) :
    l.hasErrors = false ↔ l.entries.toList.filter (·.isError) = [] := by
  rw [hasErrors_eq, List.any_eq_false, List.filter_eq_nil_iff]

/-- The ways in which a compilation ends: everything that was recorded let it go on, or the last
diagnostic tells why it stopped. -/
inductive Compilation.Ends (c : Catalog) (r : Compilation) : Prop
  | finished (ordinary : ∀ d ∈ r.diagnostics, d.Ordinary) (grounded : ¬c.IsCircular)
      (isValid : r.isValid ↔ r.errors = [])
  | stopped {ds : List Diagnostic} {d : Diagnostic} (diagnostics : r.diagnostics = ds ++ [d])
      (ordinary : ∀ x ∈ ds, x.Ordinary) (explains : c.Explains d) (isValid : r.isValid = false)

namespace Builder

/-- The builder that the compilation of some namespaces starts with. -/
def start (namespaces : List NamespaceDecl) : Builder :=
  { ledger := Ledger.extend {} (Catalog.ofNamespaces namespaces).2 }

theorem toList_start (namespaces : List NamespaceDecl) :
    (start namespaces).ledger.entries.toList = (Catalog.ofNamespaces namespaces).2 := by
  simp [start, Ledger.toList_extend]

/-- How the run of a compilation ends. -/
theorem run_buildAll (namespaces : List NamespaceDecl) (limits : Limits) :
    let c := (Catalog.ofNamespaces namespaces).1
    match (buildAll c limits).run (start namespaces) with
    | .ok (_, b) => (∀ d ∈ b.ledger.entries.toList, d.Ordinary) ∧ ¬c.IsCircular
    | .error stop => Halts c (start namespaces) stop := by
  intro c
  have hidle : (start namespaces).Idle := ⟨rfl, rfl⟩
  have h : (start namespaces).Reports c (buildAll c limits) _ := Reports.buildAll hidle
  have h := h (Orderly.start c _)
  have hordinary := ordinary_ofNamespaces namespaces
  cases hrun : (buildAll c limits).run (start namespaces) with
  | error stop =>
    rw [hrun] at h
    exact h
  | ok r =>
    rw [hrun] at h
    obtain ⟨ho, hk, hknows⟩ := h
    obtain ⟨ds, hds, hds'⟩ := hk.ledger
    refine ⟨?_, ho.not_isCircular hknows⟩
    rw [hds, toList_start]
    exact List.forall_mem_append.2 ⟨hordinary, hds'⟩

end Builder

theorem ends_of_compile {namespaces : List NamespaceDecl} {limits : Limits} {r : Compilation}
    (h : compile namespaces limits = .ok r) : r.Ends (Catalog.ofNamespaces namespaces).1 := by
  have hends := Builder.run_buildAll namespaces limits
  unfold compile at h
  dsimp only [Builder.start] at h hends
  split at h
  · rename_i b hrun
    rw [hrun] at hends
    cases h
    refine .finished hends.1 hends.2 ?_
    rw [Compilation.errors, ← Ledger.hasErrors_eq_false_iff]
    simp
  · rename_i ledger hrun
    rw [hrun] at hends
    cases h
    obtain ⟨ds, d, hl, ho, hd⟩ := hends
    have hdiagnostics : ledger.entries.toList =
        ((Catalog.ofNamespaces namespaces).2 ++ ds) ++ [d] := by
      rw [hl]
      simp [Ledger.toList_extend]
    exact .stopped hdiagnostics
      (List.forall_mem_append.2 ⟨ordinary_ofNamespaces namespaces, ho⟩) hd rfl
  · rename_i hrun
    rw [hrun] at hends
    exact hends.elim
  · cases h

/-- A compilation gives a result unless a literal that is mentioned is too long to count. -/
theorem exists_of_compile {namespaces : List NamespaceDecl} (limits : Limits)
    (h : ¬(Catalog.ofNamespaces namespaces).1.TooLong) :
    ∃ r, compile namespaces limits = .ok r := by
  have hends := Builder.run_buildAll namespaces limits
  unfold compile
  dsimp only [Builder.start] at hends ⊢
  split
  · exact ⟨_, rfl⟩
  · exact ⟨_, rfl⟩
  · exact ⟨_, rfl⟩
  · rename_i hrun
    rw [hrun] at hends
    exact absurd hends h

namespace Compilation

variable {c : Catalog} {r : Compilation}

/-- Every name that was looked up stood for what it had to stand for. -/
def Resolved (r : Compilation) : Prop := ∀ d ∈ r.diagnostics, d.code.isLookup = false

namespace Ends

/-- What is recorded let the compilation go on, or tells why it stopped. -/
theorem forall_mem (h : r.Ends c) {P : Diagnostic → Prop} (hordinary : ∀ d, d.Ordinary → P d)
    (hlast : ∀ d, c.Explains d → P d) : ∀ d ∈ r.diagnostics, P d := by
  cases h with
  | finished ordinary grounded isValid => exact fun d hd => hordinary d (ordinary d hd)
  | stopped diagnostics ordinary explains isValid =>
    rw [diagnostics, List.forall_mem_append]
    exact ⟨fun d hd => hordinary d (ordinary d hd),
      List.forall_mem_singleton.2 (hlast _ explains)⟩

theorem isValid_iff (h : r.Ends c) : r.isValid ↔ r.errors = [] := by
  cases h with
  | finished ordinary grounded isValid => exact isValid
  | stopped diagnostics ordinary explains isValid =>
    rw [isValid, errors, diagnostics, List.filter_append, List.filter_singleton, explains.isError]
    simp

theorem ne_internal (h : r.Ends c) : ∀ d ∈ r.diagnostics, d.code ≠ .internalCompilerError :=
  h.forall_mem (fun _ hd => hd.ne_internal) fun _ hd => hd.ne_internal

/-- What is reported as a circle is one. -/
theorem tellsOfCircle (h : r.Ends c) :
    ∀ d ∈ r.diagnostics, d.code = .circularReferenceDetected → c.TellsOfCircle d :=
  h.forall_mem (fun _ hd hcode => absurd hcode hd.ne_circular) fun _ hd => hd.tellsOfCircle

theorem resolved (h : r.Ends c) (hmissing : ¬c.Missing) : r.Resolved := by
  refine h.forall_mem (fun _ hd => hd.isLookup) fun d hd => ?_
  rw [(hd.cause.resolve_right fun h => hmissing h.2).code]
  rfl

theorem count_eq_zero (h : r.Ends c) (hc : ¬c.IsCircular) :
    r.count .circularReferenceDetected = 0 := by
  rw [count, List.countP_eq_zero]
  intro d hd hcode
  exact hc (h.tellsOfCircle d hd (by simpa using hcode)).isCircular

/-- A compilation that meets a circle stops there, unless it has stopped for a name before. -/
theorem count_eq_one (h : r.Ends c) (hr : r.Resolved) (hc : c.IsCircular) :
    r.isValid = false ∧ r.count .circularReferenceDetected = 1 := by
  cases h with
  | finished ordinary grounded isValid => exact absurd hc grounded
  | @stopped ds d diagnostics ordinary explains isValid =>
    refine ⟨isValid, ?_⟩
    -- a name would have been told of by its code
    have hcode : d.code = .circularReferenceDetected := by
      refine (explains.cause.resolve_right fun hlookup => ?_).code
      have := hr d (by simp [diagnostics])
      rw [hlookup.1] at this
      cases this
    have hds : ds.countP (·.code == .circularReferenceDetected) = 0 := by
      rw [List.countP_eq_zero]
      exact fun x hx h => (ordinary x hx).ne_circular (by simpa using h)
    rw [count, diagnostics, List.countP_append, hds, Nat.zero_add, List.countP_singleton, hcode]
    rfl

end Ends

end Compilation

/-! ## Validity -/

/-- A result is valid just in case none of its diagnostics is an error, and just in case it has a
schema. A run that stops early has recorded an error last, unless a literal was too long to count.
No diagnostic is about a fault of the compilation itself: no content is made while it is in the
making, no declaration has a symbol of another sort, and no climb along substitutions ends without
an element. -/
theorem verdict_of_compile (namespaces : List NamespaceDecl) (limits : Limits) :
    let c := (Catalog.ofNamespaces namespaces).1
    (¬c.TooLong → ∃ r, compile namespaces limits = .ok r) ∧
    (∀ stop, (buildAll c limits).run (.start namespaces) = .error stop →
      (stop = .tooLong ∧ c.TooLong) ∨ ∃ ledger ds d, stop = .aborted ledger ∧
        ledger.entries.toList =
          (Builder.start namespaces).ledger.entries.toList ++ ds ++ [d] ∧ d.isError) ∧
    ∀ r, compile namespaces limits = .ok r →
      (r.isValid ↔ r.errors = []) ∧ (r.isValid ↔ r.schema.isSome) ∧
      ∀ d ∈ r.diagnostics, d.code ≠ .internalCompilerError := by
  refine ⟨exists_of_compile limits, fun stop hrun => ?_, fun r hr => ?_⟩
  · have hends := Builder.run_buildAll namespaces limits
    dsimp only at hends
    rw [hrun] at hends
    cases stop with
    | aborted ledger =>
      obtain ⟨ds, d, hl, -, hd⟩ := hends
      exact Or.inr ⟨ledger, ds, d, rfl, hl, hd.isError⟩
    | failed message ledger => exact hends.elim
    | tooLong => exact Or.inl ⟨rfl, hends⟩
  · have hends := ends_of_compile hr
    exact ⟨hends.isValid_iff, by rw [isValid_eq_isSome hr], hends.ne_internal⟩

/-- Two types that are extensions of each other, and an extension of one of them. -/
def rings : List NamespaceDecl :=
  let extended (name base : String) : MemberDecl :=
    .type { name := ⟨name, none⟩, body := .extension (.ofText base) none none }
  [{ uri := "urn:rings"
     members := [extended "Tail" "First", extended "First" "Second", extended "Second" "First"] }]

/-- The result has no schema, and an error that tells why. -/
theorem rings_refused : ∃ r, compile rings {} = .ok r ∧ r.isValid = false ∧
    r.schema.isSome = false ∧ r.errors ≠ [] := by
  have hinvalid : (compile rings {}).toOption.any (!·.isValid) := by decide +kernel
  cases hr : compile rings {} with
  | error e =>
    rw [hr] at hinvalid
    cases hinvalid
  | ok r =>
    rw [hr] at hinvalid
    have hinvalid : r.isValid = false := by simpa [Except.toOption] using hinvalid
    obtain ⟨herrors, hschema, -⟩ := (verdict_of_compile rings {}).2.2 r hr
    refine ⟨r, rfl, hinvalid, ?_, fun h => ?_⟩
    · rw [← Bool.not_eq_true, ← hschema, hinvalid]
      exact Bool.false_ne_true
    · rw [herrors.2 h] at hinvalid
      cases hinvalid

/-! ## Circles -/

/-- Every name that is mentioned stands for what it has to stand for. -/
def Catalog.Resolves (c : Catalog) : Prop := ∀ scope m, c.Mentions scope m → c.Meets scope m

/-- A circle of bases or of substitutions, of whatever length and wherever it is reached from, is
reported once if every name that is looked up stands for what it has to, and then there is no
schema. Nothing else is reported as a circle: the declaration that the diagnostic names lies on a
circle of bases or of substitutions. -/
theorem circles_of_compile (namespaces : List NamespaceDecl) (limits : Limits) :
    let c := (Catalog.ofNamespaces namespaces).1
    (¬c.TooLong → ∃ r, compile namespaces limits = .ok r) ∧
    ∀ r, compile namespaces limits = .ok r →
      (c.Resolves → r.Resolved) ∧
      (r.Resolved → c.IsCircular →
        r.count .circularReferenceDetected = 1 ∧ r.schema = none) ∧
      (¬c.IsCircular → r.count .circularReferenceDetected = 0) ∧
      ∀ d ∈ r.diagnostics, d.code = .circularReferenceDetected → c.TellsOfCircle d := by
  refine ⟨exists_of_compile limits, fun r hr => ?_⟩
  have hends := ends_of_compile hr
  refine ⟨fun hresolves => hends.resolved ?_, fun hresolved hc => ?_, hends.count_eq_zero,
    hends.tellsOfCircle⟩
  · rintro ⟨scope, m, hm, hnot⟩
    exact hnot (hresolves scope m hm)
  · obtain ⟨hvalid, hcount⟩ := hends.count_eq_one hresolved hc
    rw [isValid_eq_isSome hr] at hvalid
    exact ⟨hcount, by simpa using hvalid⟩

/-- The circle is reported once, though it is met first from the tail. -/
theorem rings_reported : ∃ r, compile rings {} = .ok r ∧
    (Catalog.ofNamespaces rings).1.IsCircular ∧ r.Resolved ∧
    r.count .circularReferenceDetected = 1 ∧ r.schema = none := by
  have hcircular : (Catalog.ofNamespaces rings).1.IsCircular := by
    refine ⟨⟨1⟩, Or.inl (.tail (.single (b := ⟨2⟩) ?_) ?_)⟩
    · exact Catalog.leads_typeLink.1 (by decide +kernel)
    · exact Catalog.leads_typeLink.1 (by decide +kernel)
  have hlookups : (compile rings {}).toOption.any fun r =>
      r.diagnostics.all fun d => !d.code.isLookup := by decide +kernel
  cases hr : compile rings {} with
  | error e =>
    rw [hr] at hlookups
    cases hlookups
  | ok r =>
    rw [hr] at hlookups
    have hresolved : r.Resolved := by
      simpa [Except.toOption, Compilation.Resolved] using hlookups
    exact ⟨r, rfl, hcircular, hresolved,
      ((circles_of_compile rings {}).2 r hr).2.1 hresolved hcircular⟩

/-- Trees that have trees as children, and a list whose items are of a type that restricts it. -/
def nested : List NamespaceDecl :=
  let child : ChildItem := .element { name := ⟨"child", none⟩, type := .ofText "Tree" }
  [{ uri := "urn:nested"
     members := [
      .type { name := ⟨"Tree", none⟩,
              body := .complex none (some (.set { kind := .choice, items := [child] })) },
      .type { name := ⟨"Many", none⟩, body := .list (.ofText "Some") },
      .type { name := ⟨"Some", none⟩, body := .restriction (.ofText "Many") none none none }] }]

example : (compile nested {}).toOption.any fun r =>
    r.isValid && r.count .circularReferenceDetected == 0 := by decide +kernel

end Schemata
