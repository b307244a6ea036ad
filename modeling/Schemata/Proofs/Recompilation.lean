import Schemata.Proofs.ImportOrder
import Schemata.Proofs.Sources

/-!
# Declaring a type with other blocks

Of the namespaces, one declared type may get other entries in its restricting blocks
(`Redeclaration`). All steps of a compilation stay the same but those that make the content of this
type. So if the new blocks make the same content when it is the turn of the type, the compilation
comes to the same end (`Builder.Completes.accepts_of_remakes`).
-/

namespace Schemata

theorem TypeBody.Resembles.symm {body body' : TypeBody} (h : body.Resembles body') :
    body'.Resembles body := by
  cases h with
  | refl => exact .refl body
  | blocks attributeSpan childrenSpan => exact .blocks attributeSpan.symm childrenSpan.symm

theorem TypeDecl.Resembles.symm {t t' : TypeDecl} (h : t.Resembles t') : t'.Resembles t :=
  ⟨h.name.symm, h.isAbstract.symm, h.isSealed.symm, h.body.symm⟩

/-- A type of a namespace, and what is declared in its place: the same apart from the entries of
restricting blocks. -/
structure Redeclaration where
  uri : String
  old : TypeDecl
  new : TypeDecl
  resembles : old.Resembles new

namespace Redeclaration

/-- The other way round. -/
def symm (δ : Redeclaration) : Redeclaration := ⟨δ.uri, δ.new, δ.old, δ.resembles.symm⟩

variable (δ : Redeclaration)

/-- A member of a namespace may be the type that is declared in another way. -/
inductive Member (uri : String) : MemberDecl → MemberDecl → Prop
  | same (m : MemberDecl) : Member uri m m
  | changed (here : uri = δ.uri) : Member uri (.type δ.old) (.type δ.new)

/-- The same part of a namespace, apart from the type. -/
structure Namespace (ns ns' : NamespaceDecl) : Prop where
  uri : ns'.uri = ns.uri
  span : ns'.span = ns.span
  imports : ns'.imports = ns.imports
  members : List.Forall₂ (δ.Member ns.uri) ns.members ns'.members

/-- The same declaration, unless it is that of the type. -/
structure Declaration (d d' : Schemata.Declaration) : Prop where
  scope : d'.scope = d.scope
  member : δ.Member d.scope.uri d.member d'.member

/-- The same declarations, apart from the type. -/
def Catalog (c c' : Schemata.Catalog) : Prop :=
  List.Forall₂ δ.Declaration c.declarations.toList c'.declarations.toList

variable {δ}

theorem Member.resembles {uri : String} {m m' : MemberDecl} (h : δ.Member uri m m') :
    m.Resembles m' := by
  cases h with
  | same => exact .refl m
  | changed here => exact .type δ.resembles

theorem Member.symm {uri : String} {m m' : MemberDecl} (h : δ.Member uri m m') :
    δ.symm.Member uri m' m := by
  cases h with
  | same => exact .same m
  | changed here => exact .changed here

theorem Declaration.fullName {d d' : Schemata.Declaration} (h : δ.Declaration d d') :
    d'.fullName = d.fullName := by
  rw [Schemata.Declaration.fullName, Schemata.Declaration.fullName, h.scope]
  exact congrArg (FullName.mk _) (congrArg Ident.text h.member.resembles.name_eq)

/-! ## Catalogs -/

namespace Catalog

variable {c c' : Schemata.Catalog} (h : δ.Catalog c c')

include h

theorem find?_eq (n : FullName) : c'.find? n = c.find? n :=
  Catalog.find?_of_forall₂ Declaration.fullName h n

theorem resolve_eq (s : Scope) (r : NameRef) : c'.resolve s r = c.resolve s r := by
  unfold Schemata.Catalog.resolve Schemata.Catalog.importedReferents
  simp only [h.find?_eq]

theorem get?_rel (o : DeclarationId) : Option.Rel δ.Declaration (c.get? o) (c'.get? o) :=
  Catalog.get?_of_forall₂ h o

theorem scopes (scope : Scope) : Comparison.same.Scopes c c' scope scope := by
  refine ⟨rfl, fun r => ?_⟩
  rw [h.resolve_eq]
  exact .refl _ _

theorem catalogs : Comparison.same.Catalogs c c' := by
  refine ⟨by simpa using (List.Forall₂.length_eq h).symm, fun o => ?_⟩
  have ho := h.get?_rel o
  generalize c.get? o = x at ho
  generalize c'.get? o = x' at ho
  cases ho with
  | none => exact .none
  | some hd => exact .some ⟨hd.member.resembles, hd.scope ▸ h.scopes _⟩

/-- A declared type is declared as before, unless it is the one that changes. -/
theorem getType?_cases (o : DeclarationId) :
    c'.getAs? (·.asType?) o = c.getAs? (·.asType?) o ∨
      ∃ scope, scope.uri = δ.uri ∧
        c.getAs? (·.asType?) o = some (⟨scope, .type δ.old⟩, δ.old) ∧
        c'.getAs? (·.asType?) o = some (⟨scope, .type δ.new⟩, δ.new) := by
  have ho := h.get?_rel o
  unfold Schemata.Catalog.getAs?
  generalize c.get? o = x at ho
  generalize c'.get? o = x' at ho
  cases ho with
  | none => exact .inl rfl
  | @some d d' hd =>
    obtain ⟨scope, m⟩ := d
    obtain ⟨scope', m'⟩ := d'
    obtain ⟨rfl, hm⟩ := hd
    cases hm with
    | same => exact .inl rfl
    | changed here => exact .inr ⟨_, here, rfl, rfl⟩

end Catalog

variable (δ) in
/-- Where the type is declared among the members of a namespace, it is declared in another way. -/
theorem forall₂_namespaces (before : List NamespaceDecl) (ns : NamespaceDecl)
    (ms ms' : List MemberDecl) (after : List NamespaceDecl) (h : ns.uri = δ.uri) :
    List.Forall₂ δ.Namespace
      (before ++ { ns with members := ms ++ .type δ.old :: ms' } :: after)
      (before ++ { ns with members := ms ++ .type δ.new :: ms' } :: after) := by
  have hmembers (uri : String) (ms : List MemberDecl) : List.Forall₂ (δ.Member uri) ms ms :=
    List.forall₂_same.2 fun m _ => .same m
  have hothers (l : List NamespaceDecl) : List.Forall₂ δ.Namespace l l :=
    List.forall₂_same.2 fun ns _ => ⟨rfl, rfl, rfl, hmembers _ _⟩
  exact List.rel_append (hothers before) (.cons ⟨rfl, rfl, rfl,
    List.rel_append (hmembers _ ms) (.cons (.changed h) (hmembers _ ms'))⟩ (hothers after))

section

variable {namespaces namespaces' : List NamespaceDecl}
  (h : List.Forall₂ δ.Namespace namespaces namespaces')

include h

/-- What is the same in two namespaces is the same in all that are registered. -/
theorem map_unreserved_eq {α : Type} {f f' : NamespaceDecl → α}
    (hf : ∀ ns ns' : NamespaceDecl, δ.Namespace ns ns' → f' ns' = f ns) :
    (namespaces'.filter (!·.isReserved)).map f' = (namespaces.filter (!·.isReserved)).map f := by
  induction h with
  | nil => rfl
  | @cons ns ns' rest rest' hns _ ih =>
    have hreserved : ns'.isReserved = ns.isReserved := by
      rw [NamespaceDecl.isReserved, NamespaceDecl.isReserved, hns.uri]
    rw [List.filter_cons, List.filter_cons, hreserved]
    split
    · rw [List.map_cons, List.map_cons, ih, hf ns ns' hns]
    · exact ih

/-- The same namespaces can be imported. -/
theorem registerImports_eq {ns ns' : NamespaceDecl} (hns : δ.Namespace ns ns') :
    registerImports ((namespaces'.filter (!·.isReserved)).map (·.uri)) ns'.imports {} =
      registerImports ((namespaces.filter (!·.isReserved)).map (·.uri)) ns.imports {} := by
  rw [map_unreserved_eq h fun ns ns' hns => hns.uri, hns.imports]

theorem scopeIn_eq {ns ns' : NamespaceDecl} (hns : δ.Namespace ns ns') :
    Schemata.Catalog.scopeIn namespaces' ns' = Schemata.Catalog.scopeIn namespaces ns := by
  rw [Schemata.Catalog.scopeIn, Schemata.Catalog.scopeIn, registerImports_eq h hns, hns.uri]

/-- The same is registered, with the same faults. -/
theorem ofNamespaces :
    δ.Catalog (Schemata.Catalog.ofNamespaces namespaces).1
        (Schemata.Catalog.ofNamespaces namespaces').1 ∧
      (Schemata.Catalog.ofNamespaces namespaces').2 =
        (Schemata.Catalog.ofNamespaces namespaces).2 := by
  have hnone : List.Forall₂ δ.Declaration (#[] : Array Schemata.Declaration).toList
      (#[] : Array Schemata.Declaration).toList := .nil
  obtain ⟨hfound, hfaults⟩ := registerNamespaces_forall₂ Declaration.fullName
    (h.imp fun ns ns' hns => ⟨hns.uri, hns.span, congrArg Scope.uri (scopeIn_eq h hns),
      hns.members.imp fun m m' hm => ⟨hm.resembles.name_eq, scopeIn_eq h hns, hm⟩⟩) hnone
  refine ⟨hfound, ?_⟩
  rw [Catalog.faults_ofNamespaces, Catalog.faults_ofNamespaces, hfaults, List.flatMap_def,
    List.flatMap_def, map_unreserved_eq h fun ns ns' hns => ?_]
  exact congrArg Prod.snd (registerImports_eq h hns)

end

end Redeclaration

/-! ## Running again -/

theorem Comparison.run_eq_of_same {α : Type} {m m' : Build α} (h : Comparison.same.Alike m m')
    (b : Builder) : m'.run b = m.run b := by
  have hrun := h b b.ledger rfl
  generalize m.run b = x at hrun
  change Comparison.same.Outcomes x (m'.run b) at hrun
  generalize m'.run b = x' at hrun
  cases hrun with
  | ok a b h => cases h; rfl
  | aborted h => cases h; rfl
  | failed message h => cases h; rfl
  | tooLong => rfl

namespace Builder

variable {c c' : Catalog} {limits : Limits} {δ : Redeclaration} {b b' e : Builder}

/-- The new blocks make the same content of the type when it is its turn. -/
def Remakes (e : Builder) (c : Catalog) (limits : Limits) (δ : Redeclaration) : Prop :=
  ∀ {o id scope up}, e.symbol? o = some (.type id) → scope.uri = δ.uri →
    c.getAs? (·.asType?) o = some (⟨scope, .type δ.old⟩, δ.old) →
    (e.schema.typeDef id).base = some up →
    ∀ {b b₁ x}, b.Inv c → b.Placed → b.schema.typeDef up = e.schema.typeDef up →
      (complexContent c limits scope up δ.old.body).run b = .ok (x, b₁) → b₁.Lasts e →
      (complexContent c limits scope up δ.new.body).run b = .ok (x, b₁)

variable (hc : δ.Catalog c c') (he : e.Inv c) (hr : e.Regular) (hm : e.Remakes c limits δ)

include hc he hr hm

theorem rerun_finishComplex (hb : b.Inv c) (hp : b.Placed) {id : TypeId} (hid : b.schema.Has id)
    (hf : ¬b.isFinished id) (hk : (b.schema.typeDef id).kind.isSimple = false)
    (hn : b.FinishedBelow id.index) (hrun : (finishComplex c limits id).run b = .ok ((), b'))
    (hl : b'.Lasts e) : (finishComplex c' limits id).run b = .ok ((), b') := by
  obtain ⟨o, d, t, up, x, b₁, ho, hget, hup, hlt, hx, hl₁, hunfinished, rfl⟩ :=
    exists_complexTurn hb hp hid hf hk hn hrun
  have hcontent (scope : Scope) (body : TypeBody) : (complexContent c' limits scope up body).run
      (b.openType id) = (complexContent c limits scope up body).run (b.openType id) :=
    Comparison.run_eq_of_same (.complexContent hc.catalogs (hc.scopes scope) up body) _
  rcases hc.getType?_cases o with heq | ⟨scope, huri, hold, hnew⟩
  · rw [run_finishComplex ho (heq.trans hget) hup, run_bind_of_ok ((hcontent _ _).trans hx)]
    rfl
  · cases hget.symm.trans hold
    have hb₀ : (b.openType id).Inv c := withOpen_inv hb b.openAttributes (id :: b.openTypes)
    have hopen : b.TypeStep c limits (b.openType id) := .openType id
    have hl₁ : b.Lasts e := (hopen.lasts.trans hl₁).trans ((lasts_finish hunfinished _).trans hl)
    have hsymbol : e.symbol? o = some (.type id) := (hr.origin o id).2 (hl₁.origin id o ho)
    have hbase : e.schema.typeDef up = b.schema.typeDef up :=
      hl₁.typeDef_eq hb he (hn up hlt).1 (hn up hlt).2
    have hupe : (e.schema.typeDef id).base = some up := by
      rw [hl₁.schema.base id hid, hup]
    have hx' := hm hsymbol huri hget hupe hb₀ (hopen.placed hp) hbase.symm hx
      ((lasts_finish hunfinished _).trans hl)
    rw [run_finishComplex ho hnew hup, run_bind_of_ok ((hcontent _ _).trans hx')]
    rfl

theorem rerun_finishType (hb : b.Inv c) (hp : b.Placed) {n : Nat} (hn : b.FinishedBelow n)
    (hid : b.schema.Has ⟨n⟩) (hrun : (finishType c limits ⟨n⟩).run b = .ok ((), b'))
    (hl : b'.Lasts e) : (finishType c' limits ⟨n⟩).run b = .ok ((), b') := by
  have hturn (c : Catalog) : (finishType c limits ⟨n⟩).run b =
      (if b.isFinished ⟨n⟩ then pure ()
      else if b.openTypes.contains ⟨n⟩ then Build.internal .contentReentered
      else if (b.schema.typeDef ⟨n⟩).kind.isSimple then finishSimple c limits ⟨n⟩
      else finishComplex c limits ⟨n⟩ : Build Unit).run b := rfl
  rw [hturn] at hrun ⊢
  split at hrun
  · rename_i hf
    rwa [if_pos hf]
  · rename_i hf
    rw [if_neg hf]
    split at hrun
    · cases hrun
    · rename_i hopen
      rw [if_neg hopen]
      split at hrun
      · rename_i hk
        rw [if_pos hk, Comparison.run_eq_of_same (.finishSimple hc.catalogs ⟨n⟩), hrun]
      · rename_i hk
        rw [if_neg hk]
        exact rerun_finishComplex hc he hr hm hb hp hid hf (by simpa using hk) hn hrun hl

/-- The induction is on the types that are left. -/
theorem rerun_finishTypes (hb : b.Inv c) (hp : b.Placed) {n count : Nat} (hn : b.FinishedBelow n)
    (hsize : n + count ≤ b.schema.types.size)
    (hrun : (((List.range' n count).map TypeId.mk).forM (finishType c limits)).run b = .ok ((), b'))
    (hl : b'.Lasts e) :
    (((List.range' n count).map TypeId.mk).forM (finishType c' limits)).run b = .ok ((), b') := by
  induction count generalizing n b with
  | zero =>
    obtain ⟨⟩ := Except.ok.inj hrun
    rfl
  | succ count ih =>
    obtain ⟨⟨_, b₁⟩, hrun₁, hrun₂⟩ := bind_eq_ok hrun
    have hid : b.schema.Has ⟨n⟩ := show n < _ by omega
    have hp₁ := (steps_finishType hb hp hn hid hrun₁).placed hp
    obtain ⟨hg₁, hb₁, hn₁⟩ := finishType_ok hb hn hid hrun₁
    have hsize₁ : n + 1 + count ≤ b₁.schema.types.size := by
      have := hg₁.schema.types_size
      omega
    have hl₁ := (steps_finishTypes hb₁ hp₁ hn₁ hsize₁ hrun₂).lasts.trans hl
    have hfirst := rerun_finishType hc he hr hm hb hp hn hid hrun₁ hl₁
    rw [List.range'_succ, List.map_cons, List.forM, run_bind_of_ok hfirst]
    exact ih hb₁ hp₁ hn₁ hsize₁ hrun₂

theorem rerun_buildAll (hb : b.Inv c) (hp : b.Placed)
    (hrun : (buildAll c limits).run b = .ok ((), e)) :
    (buildAll c' limits).run b = .ok ((), e) := by
  obtain ⟨⟨_, b₁⟩, hrun₁, hrun₂⟩ := bind_eq_ok hrun
  obtain ⟨hs, hb₁, hp₁, -⟩ := (Takes.resolveAll c.ids).apply hp hb hrun₁
  have hrun₂ : (b₁.declaredTypes.forM (finishType c limits)).run b₁ = .ok ((), e) := hrun₂
  have hstart : b₁.FinishedBelow Kind.all.length := fun id hid =>
    ⟨hb₁.has_of_builtin hid, isFinished_iff.2 (Or.inl (origin_of_builtin hid))⟩
  have hsymbols : (c'.ids.forM (resolveDeclaration c' limits)).run b = .ok ((), b₁) := by
    rw [hc.catalogs.ids]
    exact (Comparison.run_eq_of_same
      (.forM (Comparison.Alike.resolveDeclaration hc.catalogs) c.ids) b).trans hrun₁
  refine (run_bind_of_ok hsymbols).trans ?_
  change (b₁.declaredTypes.forM (finishType c' limits)).run b₁ = .ok ((), e)
  rw [declaredTypes_eq] at hrun₂ ⊢
  exact rerun_finishTypes hc he hr hm hb₁ hp₁ hstart hb₁.size.ge hrun₂ (.refl e)

end Builder

/-- If the new blocks make the same content, the namespaces are accepted as the same schema. -/
theorem Builder.Completes.accepts_of_remakes {namespaces namespaces' : List NamespaceDecl}
    {limits : Limits} {δ : Redeclaration} {e : Builder} (h : e.Completes namespaces limits)
    (hn : List.Forall₂ δ.Namespace namespaces namespaces')
    (hm : e.Remakes (Catalog.ofNamespaces namespaces).1 limits δ) :
    Accepts namespaces' limits (e.published (Catalog.ofNamespaces namespaces).1) := by
  obtain ⟨hc, hfaults⟩ := Redeclaration.ofNamespaces hn
  have hrun := rerun_buildAll hc h.inv h.regular hm (start_inv _ _)
    (start_placed _) h.run
  have hcompletes : e.Completes namespaces' limits := ⟨by rw [start, hfaults]; exact hrun, h.clean⟩
  have hpublished := hc.catalogs.published e e.ledger
  exact hpublished ▸ hcompletes.accepts

end Schemata
