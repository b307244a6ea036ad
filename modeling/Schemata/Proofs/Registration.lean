import Mathlib.Data.List.Nodup
import Schemata.Proofs.ContentSequences
import Schemata.Proofs.Verdicts

/-!
# Registering everything

Where nothing is wrong with the names, the catalog has every member of the namespaces as a
declaration, in order and with distinct full names, none of which is that of a built-in type. That
is so wherever the namespaces are accepted, and then the run of the compilation has come to an end
(`Builder.Completes`) without recording an error, every type has its content, and every declaration
has its symbol.
-/

namespace Schemata

/-- What some namespaces declare, each with its full name, in order. -/
def globals (namespaces : List NamespaceDecl) : List (FullName × MemberDecl) :=
  namespaces.flatMap fun ns => ns.members.map fun m => (⟨ns.uri, m.name.text⟩, m)

/-- Where the references of a namespace among others are looked up. -/
def Catalog.scopeIn (namespaces : List NamespaceDecl) (ns : NamespaceDecl) : Scope :=
  ⟨ns.uri, (registerImports ((namespaces.filter (!·.isReserved)).map (·.uri)) ns.imports {}).1⟩

theorem Catalog.declarations_ofNamespaces (namespaces : List NamespaceDecl) :
    (ofNamespaces namespaces).1.declarations =
      (registerNamespaces (scopeIn namespaces) namespaces #[]).1 := rfl

namespace Declaration

/-- A declaration as one of its namespace. -/
def entry (d : Declaration) : FullName × MemberDecl := (d.fullName, d.member)

end Declaration

/-! ## Like declarations -/

theorem Catalog.get?_of_forall₂ {R : Declaration → Declaration → Prop} {c c' : Catalog}
    (h : List.Forall₂ R c.declarations.toList c'.declarations.toList) (o : DeclarationId) :
    Option.Rel R (c.get? o) (c'.get? o) := by
  rw [get?, get?, ← Array.getElem?_toList, ← Array.getElem?_toList]
  generalize o.index = i
  generalize c.declarations.toList = ds at h
  generalize c'.declarations.toList = ds' at h
  induction h generalizing i with
  | nil => exact .none
  | cons hd _ ih =>
    cases i with
    | zero => exact .some hd
    | succ i => exact ih i

section

variable {R : Declaration → Declaration → Prop}
  (hR : ∀ {d d' : Declaration}, R d d' → d'.fullName = d.fullName) {found found' : Array Declaration}

include hR

theorem any_fullName_of_forall₂ (h : List.Forall₂ R found.toList found'.toList) (n : FullName) :
    (found'.any fun d => d.fullName == n) = found.any fun d => d.fullName == n := by
  rw [← Array.any_toList, ← Array.any_toList]
  generalize found.toList = ds at h
  generalize found'.toList = ds' at h
  induction h with
  | nil => rfl
  | cons hd _ ih => rw [List.any_cons, List.any_cons, ih, hR hd]

theorem Catalog.find?_of_forall₂ {c c' : Catalog}
    (h : List.Forall₂ R c.declarations.toList c'.declarations.toList) (n : FullName) :
    c'.find? n = c.find? n := by
  have hnames : c'.declarations.map Declaration.fullName =
      c.declarations.map Declaration.fullName := by
    rw [← Array.toList_inj, Array.toList_map, Array.toList_map]
    generalize c.declarations.toList = ds at h
    generalize c'.declarations.toList = ds' at h
    induction h with
    | nil => rfl
    | cons hd _ ih => rw [List.map_cons, List.map_cons, ih, hR hd]
  have hindex (ds : Array Declaration) : ds.findIdx? (·.fullName == n) =
      (ds.map Declaration.fullName).findIdx? (· == n) := by
    rw [Array.findIdx?_map]
    rfl
  rw [find?, find?, hindex, hindex, hnames]

/-- Members with the same names are registered with the same faults. -/
theorem registerMembers_forall₂ {s s' : Scope} (hs : s'.uri = s.uri) {ms ms' : List MemberDecl}
    (hms : List.Forall₂ (fun m m' => m'.name = m.name ∧ R ⟨s, m⟩ ⟨s', m'⟩) ms ms')
    (h : List.Forall₂ R found.toList found'.toList) :
    List.Forall₂ R (registerMembers s ms found).1.toList
        (registerMembers s' ms' found').1.toList ∧
      (registerMembers s' ms' found').2 = (registerMembers s ms found).2 := by
  induction hms generalizing found found' with
  | nil => exact ⟨h, rfl⟩
  | @cons m m' rest rest' hm _ ih =>
    obtain ⟨hname, hm⟩ := hm
    have hdname : Declaration.name ⟨s', m'⟩ = Declaration.name ⟨s, m⟩ := congrArg Ident.text hname
    rw [registerMembers, registerMembers]
    dsimp only
    rw [any_fullName_of_forall₂ hR h, hR hm, hs, hname, hdname]
    split
    · exact ⟨(ih h).1, congrArg (List.cons _) (ih h).2⟩
    · split
      · exact ⟨(ih h).1, congrArg (List.cons _) (ih h).2⟩
      · refine ih ?_
        rw [Array.toList_push, Array.toList_push]
        exact List.rel_append h (.cons hm .nil)

theorem registerNamespaces_forall₂ {scope scope' : NamespaceDecl → Scope}
    {namespaces namespaces' : List NamespaceDecl}
    (hn : List.Forall₂ (fun ns ns' => ns'.uri = ns.uri ∧ ns'.span = ns.span ∧
      (scope' ns').uri = (scope ns).uri ∧
      List.Forall₂ (fun m m' => m'.name = m.name ∧ R ⟨scope ns, m⟩ ⟨scope' ns', m'⟩)
        ns.members ns'.members) namespaces namespaces')
    (h : List.Forall₂ R found.toList found'.toList) :
    List.Forall₂ R (registerNamespaces scope namespaces found).1.toList
        (registerNamespaces scope' namespaces' found').1.toList ∧
      (registerNamespaces scope' namespaces' found').2 =
        (registerNamespaces scope namespaces found).2 := by
  induction hn generalizing found found' with
  | nil => exact ⟨h, rfl⟩
  | @cons ns ns' rest rest' hns _ ih =>
    obtain ⟨huri, hspan, hscope, hms⟩ := hns
    have hreserved : ns'.isReserved = ns.isReserved := by
      rw [NamespaceDecl.isReserved, NamespaceDecl.isReserved, huri]
    rw [registerNamespaces, registerNamespaces]
    dsimp only
    rw [hreserved, hspan]
    split
    · exact ⟨(ih h).1, congrArg (List.cons _) (ih h).2⟩
    · obtain ⟨hfound, hfaults⟩ := registerMembers_forall₂ hR hscope hms h
      exact ⟨(ih hfound).1, by rw [hfaults, (ih hfound).2]⟩

end

/-! ## Members -/

/-- The faults do not stop a compilation from being valid. -/
def Harmless (faults : List Diagnostic) : Prop := ∀ d ∈ faults, d.isError = false

theorem not_harmless_fault {f : Fault} {span : Option Span} {faults : List Diagnostic}
    (h : Harmless (f.diagnostic span :: faults)) : False := by
  have hf := h _ List.mem_cons_self
  rw [f.isError_diagnostic span] at hf
  cases hf

theorem registerMembers_ok {scope : Scope} {ms : List MemberDecl} {found : Array Declaration}
    (h : Harmless (registerMembers scope ms found).2) :
    (registerMembers scope ms found).1.toList = found.toList ++ ms.map (Declaration.mk scope) ∧
    ((found.toList.map Declaration.fullName).Nodup →
      (((registerMembers scope ms found).1.toList.map Declaration.fullName).Nodup)) := by
  induction ms generalizing found with
  | nil => simp [registerMembers]
  | cons m rest ih =>
    unfold registerMembers at h ⊢
    dsimp only at h ⊢
    split at h
    · exact (not_harmless_fault h).elim
    · rename_i hname
      split at h
      · exact (not_harmless_fault h).elim
      · rename_i hnew
        rw [if_neg hname, if_neg hnew]
        obtain ⟨hlist, hnodup⟩ := ih h
        refine ⟨by rw [hlist]; simp, fun hfound => hnodup ?_⟩
        rw [Array.toList_push, List.map_append, List.map_singleton]
        refine List.Nodup.append hfound (List.nodup_singleton _) ?_
        rw [List.disjoint_singleton]
        intro hmem
        obtain ⟨other, hother, heq⟩ := List.mem_map.1 hmem
        refine hnew (Array.any_eq_true'.2 ⟨other, Array.mem_toList_iff.1 hother, ?_⟩)
        simpa using heq

theorem registerNamespaces_ok {scope : NamespaceDecl → Scope} {ns : List NamespaceDecl}
    {found : Array Declaration} (h : Harmless (registerNamespaces scope ns found).2) :
    (∀ n ∈ ns, n.isReserved = false) ∧
    (registerNamespaces scope ns found).1.toList =
      found.toList ++ ns.flatMap (fun n => n.members.map (Declaration.mk (scope n))) ∧
    ((found.toList.map Declaration.fullName).Nodup →
      ((registerNamespaces scope ns found).1.toList.map Declaration.fullName).Nodup) := by
  induction ns generalizing found with
  | nil => simp [registerNamespaces]
  | cons n rest ih =>
    unfold registerNamespaces at h ⊢
    split at h
    · exact (not_harmless_fault h).elim
    · rename_i hreserved
      rw [if_neg hreserved]
      obtain ⟨hmembers, hrest⟩ := List.forall_mem_append.1 h
      obtain ⟨hlist, hnodup⟩ := registerMembers_ok hmembers
      obtain ⟨hall, hlist', hnodup'⟩ := ih hrest
      refine ⟨List.forall_mem_cons.2 ⟨by simpa using hreserved, hall⟩, ?_,
        fun hfound => hnodup' (hnodup hfound)⟩
      rw [hlist', hlist, List.flatMap_cons, List.append_assoc]

/-- Where nothing is wrong, everything that is declared is registered. -/
structure Catalog.Registers (c : Catalog) (namespaces : List NamespaceDecl) : Prop where
  entries : c.declarations.toList.map Declaration.entry = globals namespaces
  names : (c.declarations.toList.map Declaration.fullName).Nodup
  unreserved : ∀ d ∈ c.declarations, d.fullName.isSystem = false

/-- Every declaration has the scope of its namespace. -/
theorem toList_declarations {namespaces : List NamespaceDecl}
    (h : Harmless (Catalog.ofNamespaces namespaces).2) :
    (Catalog.ofNamespaces namespaces).1.declarations.toList = namespaces.flatMap fun ns =>
      ns.members.map (Declaration.mk (Catalog.scopeIn namespaces ns)) := by
  obtain ⟨-, hlist, -⟩ := registerNamespaces_ok (List.forall_mem_append.1 h).1
  rw [Catalog.declarations_ofNamespaces]
  exact hlist

theorem registers_ofNamespaces {namespaces : List NamespaceDecl}
    (h : Harmless (Catalog.ofNamespaces namespaces).2) :
    (Catalog.ofNamespaces namespaces).1.Registers namespaces := by
  obtain ⟨hreserved, -, hnodup⟩ := registerNamespaces_ok (List.forall_mem_append.1 h).1
  have hlist := toList_declarations h
  refine ⟨?_, hnodup List.nodup_nil, fun d hd => ?_⟩
  · rw [hlist, globals]
    simp [List.map_flatMap, Function.comp_def, Declaration.entry, Declaration.fullName,
      Declaration.name, Catalog.scopeIn]
  · rw [← Array.mem_toList_iff, hlist] at hd
    simp only [List.mem_flatMap, List.mem_map] at hd
    obtain ⟨n, hn, m, -, rfl⟩ := hd
    exact hreserved n hn

/-! ## A compilation that comes to its end -/

namespace Builder

/-- The compilation of some namespaces ends without an error. -/
structure Completes (b : Builder) (namespaces : List NamespaceDecl) (limits : Limits) : Prop where
  run : (buildAll (Catalog.ofNamespaces namespaces).1 limits).run (start namespaces) = .ok ((), b)
  clean : b.Clean

namespace Completes

variable {b : Builder} {namespaces : List NamespaceDecl} {limits : Limits}

theorem inv (h : b.Completes namespaces limits) : b.Inv (Catalog.ofNamespaces namespaces).1 :=
  (buildAll_ok (start_inv _ _) h.run).1

theorem isFinished (h : b.Completes namespaces limits) {id : TypeId} (hid : b.schema.Has id) :
    b.isFinished id :=
  (buildAll_ok (start_inv _ _) h.run).2 id hid

theorem steps (h : b.Completes namespaces limits) :
    Extent.all.Steps (Catalog.ofNamespaces namespaces).1 limits (start namespaces) b :=
  steps_buildAll (start_inv _ _) (start_placed _) h.run

theorem placed (h : b.Completes namespaces limits) : b.Placed := h.steps.placed (start_placed _)

/-- Every declaration has its symbol. -/
theorem exists_symbol (h : b.Completes namespaces limits) {o : DeclarationId}
    (ho : ((Catalog.ofNamespaces namespaces).1.get? o).isSome) : ∃ s, b.symbol? o = some s := by
  have hidle : (start namespaces).Idle := ⟨rfl, rfl⟩
  have hbuild : (start namespaces).Reports (Catalog.ofNamespaces namespaces).1
      (buildAll (Catalog.ofNamespaces namespaces).1 limits) _ := Reports.buildAll hidle
  obtain ⟨s, hs⟩ := (hbuild.apply (Orderly.start _ _) h.run).2.2 o ho
  exact Option.isSome_iff_exists.1 (List.lookup_isSome_iff.2 ⟨_, hs, beq_self_eq_true o⟩)

theorem harmless (h : b.Completes namespaces limits) :
    Harmless (Catalog.ofNamespaces namespaces).2 := by
  intro d hd
  have hstart := h.steps.lasts.clean h.clean
  rw [Clean, Ledger.hasErrors_eq, toList_start, List.any_eq_false] at hstart
  simpa using hstart d hd

theorem registers (h : b.Completes namespaces limits) :
    (Catalog.ofNamespaces namespaces).1.Registers namespaces :=
  registers_ofNamespaces h.harmless

/-- What a namespace declares is in the catalog, with the scope of the namespace. -/
theorem exists_declaration (h : b.Completes namespaces limits) {ns : NamespaceDecl}
    (hns : ns ∈ namespaces) {m : MemberDecl} (hm : m ∈ ns.members) :
    ∃ o, (Catalog.ofNamespaces namespaces).1.get? o =
      some ⟨Catalog.scopeIn namespaces ns, m⟩ := by
  have hmem : ⟨Catalog.scopeIn namespaces ns, m⟩ ∈
      (Catalog.ofNamespaces namespaces).1.declarations.toList := by
    rw [toList_declarations h.harmless]
    exact List.mem_flatMap.2 ⟨ns, hns, List.mem_map_of_mem hm⟩
  obtain ⟨i, hi⟩ := Array.mem_iff_getElem?.1 (Array.mem_toList_iff.1 hmem)
  exact ⟨⟨i⟩, hi⟩

end Completes

end Builder

/-- An accepted schema is what a compilation made that came to its end. -/
theorem Accepts.exists_builder {namespaces : List NamespaceDecl} {limits : Limits} {s : Schema}
    (h : Accepts namespaces limits s) : ∃ b : Builder, b.Completes namespaces limits ∧
      s = b.published (Catalog.ofNamespaces namespaces).1 := by
  obtain ⟨r, h, hs⟩ := h
  unfold compile at h
  dsimp only at h
  split at h
  · rename_i b hrun
    cases h
    dsimp only at hs
    split at hs
    · rename_i hclean
      exact ⟨b, ⟨hrun, by simpa [Builder.Clean] using hclean⟩, (Option.some.inj hs).symm⟩
    · cases hs
  · cases h
    cases hs
  · cases h
    cases hs
  · cases h

/-- A compilation that came to its end has a schema, and lists what was recorded. -/
theorem Builder.Completes.compile_eq {namespaces : List NamespaceDecl} {limits : Limits}
    {b : Builder} (h : b.Completes namespaces limits) : compile namespaces limits =
      .ok ⟨b.ledger.entries.toList, some (b.published (Catalog.ofNamespaces namespaces).1), true⟩ := by
  have hclean : (!b.ledger.hasErrors) = true := by simpa [Builder.Clean] using h.clean
  have hrun := h.run
  unfold Builder.start at hrun
  unfold compile
  dsimp only
  rw [hrun]
  simp only [hclean, if_true]

/-- What a compilation made that came to its end is an accepted schema. -/
theorem Builder.Completes.accepts {namespaces : List NamespaceDecl} {limits : Limits}
    {b : Builder} (h : b.Completes namespaces limits) :
    Accepts namespaces limits (b.published (Catalog.ofNamespaces namespaces).1) :=
  ⟨_, h.compile_eq, rfl⟩

/-- Namespaces are accepted as one schema. -/
theorem Accepts.unique {namespaces : List NamespaceDecl} {limits : Limits} {s s' : Schema}
    (h : Accepts namespaces limits s) (h' : Accepts namespaces limits s') : s = s' := by
  obtain ⟨r, hr, hs⟩ := h
  obtain ⟨r', hr', hs'⟩ := h'
  obtain rfl := Except.ok.inj (hr.symm.trans hr')
  exact Option.some.inj (hs.symm.trans hs')

end Schemata
