import Schemata.Proofs.Publication
import Schemata.Validation.Matching

/-!
# Substitution

A schema tells in several ways which elements may stand in for which: by the link of each element
to the one that it substitutes, by the table of substitutions, by a search down that table, and by
a search for a name. They agree in an accepted schema (`substitution_of_accepts`), and what is
checked of one substitution holds along every chain of them.

The search down the table keeps a list of what it has seen. Everything seen has its substitutors
seen as well or is still to be looked at (`Schema.Searched`), and each round looks at one element,
so the search ends with everything that leads to where it began.
-/

namespace Schemata

open Relation

/-! ## Searching -/

namespace Schema

variable {s : Schema} {head : ElementId}

/-- The table of substitutions says what the links of elements say. -/
structure Linked (s : Schema) : Prop where
  table : ∀ h c, (h, c) ∈ s.substitutions ↔ s.substituted? c = some h
  nodup : s.substitutions.Nodup

namespace Linked

theorem mem_substitutors (hs : s.Linked) {c h : ElementId} :
    c ∈ s.substitutors h ↔ s.substituted? c = some h := by
  rw [← hs.table, substitutors]
  simp

theorem nodup_substitutors (hs : s.Linked) (h : ElementId) : (s.substitutors h).Nodup := by
  refine (hs.nodup.filter _).map_on fun p hp q hq hpq => ?_
  have hp1 := (List.mem_filter.1 hp).2
  have hq1 := (List.mem_filter.1 hq).2
  have hfst : p.1 = q.1 := by rw [beq_iff_eq.1 hp1, beq_iff_eq.1 hq1]
  exact Prod.ext hfst hpq

end Linked

/-- What a search has seen, of which some is still to be looked at. -/
structure Searched (s : Schema) (head : ElementId) (seen pending : List ElementId) : Prop where
  nodup : seen.Nodup
  issued : ∀ x ∈ seen, x = head ∨ x.index < s.elements.size
  leads : ∀ x ∈ seen, ReflTransGen (fun x y => s.substituted? x = some y) x head
  within : pending ⊆ seen
  closed : ∀ x ∈ seen, x ∈ pending ∨ ∀ c ∈ s.substitutors x, c ∈ seen

namespace Searched

theorem start (s : Schema) (head : ElementId) : s.Searched head [head] [head] where
  nodup := List.nodup_singleton _
  issued := by simp
  leads := by simp [ReflTransGen.refl]
  within := by simp
  closed := by simp

/-- A search looks at one element. -/
theorem next (hs : s.Linked) {seen pending found : List ElementId} {current : ElementId}
    (h : s.Searched head seen (current :: pending))
    (hfound : found = (s.substitutors current).filter fun id => !seen.contains id) :
    s.Searched head (found ++ seen) (found.reverse ++ pending) := by
  have hmem : ∀ x, x ∈ found ↔ s.substituted? x = some current ∧ x ∉ seen := by
    intro x
    rw [hfound, List.mem_filter, hs.mem_substitutors]
    simp
  refine ⟨?_, fun x hx => ?_, fun x hx => ?_, fun x hx => ?_, fun x hx => ?_⟩
  · refine List.Nodup.append ?_ h.nodup fun x hx hseen => ((hmem x).1 hx).2 hseen
    rw [hfound]
    exact (hs.nodup_substitutors current).filter _
  · rcases List.mem_append.1 hx with hx | hx
    · obtain ⟨e, he, -⟩ := mem_element_of_substituted ((hmem x).1 hx).1
      exact Or.inr (index_lt_of_element he)
    · exact h.issued x hx
  · rcases List.mem_append.1 hx with hx | hx
    · exact .head ((hmem x).1 hx).1 (h.leads current (h.within List.mem_cons_self))
    · exact h.leads x hx
  · rcases List.mem_append.1 hx with hx | hx
    · exact List.mem_append_left _ (List.mem_reverse.1 hx)
    · exact List.mem_append_right _ (h.within (List.mem_cons_of_mem _ hx))
  · rcases List.mem_append.1 hx with hx | hx
    · exact Or.inl (List.mem_append_left _ (List.mem_reverse.2 hx))
    · rcases h.closed x hx with hx | hclosed
      · rcases List.mem_cons.1 hx with rfl | hx
        · refine Or.inr fun c hc => List.mem_append.2 ?_
          by_cases hseen : c ∈ seen
          · exact Or.inr hseen
          · exact Or.inl ((hmem c).2 ⟨hs.mem_substitutors.1 hc, hseen⟩)
        · exact Or.inl (List.mem_append_right _ hx)
      · exact Or.inr fun c hc => List.mem_append_right _ (hclosed c hc)

/-- Only so many elements can be seen. -/
theorem length_le {seen pending : List ElementId} (h : s.Searched head seen pending) :
    seen.length ≤ s.elements.size + 1 := by
  have hmap : (seen.map ElementId.index).Nodup :=
    h.nodup.map fun x y hxy => congrArg ElementId.mk hxy
  have hsub : seen.map ElementId.index ⊆ head.index :: List.range s.elements.size := by
    intro i hi
    obtain ⟨x, hx, rfl⟩ := List.mem_map.1 hi
    rcases h.issued x hx with rfl | hlt
    · exact List.mem_cons_self
    · exact List.mem_cons_of_mem _ (List.mem_range.2 hlt)
  simpa using (List.subperm_of_subset hmap hsub).length_le

/-- With enough rounds, everything is looked at. What a round finds takes as many rounds as it
leaves fewer elements to be found. -/
theorem finish (hs : s.Linked) {fuel : Nat} {seen pending : List ElementId}
    (h : s.Searched head seen pending)
    (hfuel : pending.length + (s.elements.size + 1 - seen.length) ≤ fuel) :
    ∃ all, s.Searched head all [] ∧ all.Perm (s.reachSubstitutors fuel seen pending ++ seen) := by
  induction fuel generalizing seen pending with
  | zero =>
    have hnil : pending = [] := List.length_eq_zero_iff.1 (by omega)
    subst hnil
    exact ⟨seen, h, List.Perm.refl _⟩
  | succ fuel ih =>
    cases pending with
    | nil => exact ⟨seen, h, List.Perm.refl _⟩
    | cons current pending =>
      let found := (s.substitutors current).filter fun id => !seen.contains id
      have hnext : s.Searched head (found ++ seen) (found.reverse ++ pending) := h.next hs rfl
      have hlength := hnext.length_le
      rw [List.length_append] at hlength
      obtain ⟨all, hall, hperm⟩ := ih hnext (by
        simp only [List.length_append, List.length_reverse, List.length_cons] at hfuel ⊢
        omega)
      refine ⟨all, hall, hperm.trans ?_⟩
      rw [reachSubstitutors, List.append_assoc, ← List.append_assoc]
      exact List.perm_append_comm.append_right seen |>.trans (by rw [List.append_assoc])

/-- Where all that was seen was looked at, everything that leads to the start was seen. -/
theorem mem_of_leads (hs : s.Linked) {seen : List ElementId} (h : s.Searched head seen [])
    (hhead : head ∈ seen) {c : ElementId}
    (hc : ReflTransGen (fun x y => s.substituted? x = some y) c head) : c ∈ seen := by
  induction hc using ReflTransGen.head_induction_on with
  | refl => exact hhead
  | @head x y hstep hrest ih =>
    have hclosed := (h.closed y ih).resolve_left nofun
    exact hclosed x (hs.mem_substitutors.2 hstep)

end Searched

/-- A search finds every element that leads to its start, once. -/
theorem exists_searched (hs : s.Linked) (head : ElementId) :
    ∃ all, s.Searched head all [] ∧ all.Perm (s.allSubstitutors head ++ [head]) := by
  refine (Searched.start s head).finish hs ?_
  simp only [List.length_singleton]
  omega

theorem nodup_allSubstitutors (hs : s.Linked) (head : ElementId) :
    (s.allSubstitutors head ++ [head]).Nodup := by
  obtain ⟨all, hall, hperm⟩ := exists_searched hs head
  exact hperm.nodup_iff.1 hall.nodup

theorem mem_allSubstitutors (hs : s.Linked) (ho : s.Ordered) {c head : ElementId} :
    c ∈ s.allSubstitutors head ↔ c ≠ head ∧ s.substitutes c head := by
  obtain ⟨all, hall, hperm⟩ := exists_searched hs head
  have hdisjoint := (List.nodup_append.1 (nodup_allSubstitutors hs head)).2.2
  rw [substitutes_iff ho]
  constructor
  · intro hc
    have hmem : c ∈ all := hperm.mem_iff.2 (List.mem_append_left _ hc)
    exact ⟨hdisjoint c hc head (List.mem_singleton_self head), hall.leads c hmem⟩
  · rintro ⟨hne, hchain⟩
    have hmem := hperm.mem_iff.1 (hall.mem_of_leads hs (hperm.mem_iff.2 (by simp)) hchain)
    rw [List.mem_append, List.mem_singleton] at hmem
    exact hmem.resolve_right hne

/-- The elements among which a name is looked for are those that may stand in for the head. -/
theorem mem_candidates {c : ElementId}
    (h : c ∈ s.allSubstitutors head ↔ c ≠ head ∧ s.substitutes c head) :
    c ∈ head :: s.allSubstitutors head ↔ s.substitutes c head := by
  rw [List.mem_cons, h]
  by_cases hc : c = head
  · simp [hc, substitutes_refl]
  · simp [hc]

/-- Where full names are distinct, a name with a namespace stands for the element of that name. -/
theorem matchGlobal_eq_some_iff (hs : s.Linked) (ho : s.Ordered)
    (hnames : ∀ n c e, s.element? c = some e → (s.lookupElement n = some c ↔ e.fullName = n))
    {n : FullName} (hn : n.uri ≠ "") {e : Element} : s.matchGlobal n head = some e ↔
      ∃ c, s.lookupElement n = some c ∧ s.element? c = some e ∧ s.substitutes c head := by
  have hmatches : ∀ m : FullName, n.matches m ↔ n = m := by
    intro m
    simp only [FullName.matches, Bool.and_eq_true, Bool.or_eq_true, beq_iff_eq,
      String.isEmpty_iff, hn, false_or, FullName.ext_iff]
    exact and_comm
  have hcandidates : ∀ c, c ∈ head :: s.allSubstitutors head ↔ s.substitutes c head := fun c =>
    mem_candidates (mem_allSubstitutors hs ho)
  have hfound : ∀ x, s.matchGlobal n head = some x →
      ∃ c, s.lookupElement n = some c ∧ s.element? c = some x ∧ s.substitutes c head := by
    intro x hx
    obtain ⟨c, hc, hxc⟩ := List.mem_filterMap.1 (List.mem_of_find?_eq_some hx)
    have hname := List.find?_some (p := fun e : Element => n.matches e.fullName) hx
    exact ⟨c, (hnames n c x hxc).2 ((hmatches _).1 hname).symm, hxc, (hcandidates c).1 hc⟩
  refine ⟨hfound e, ?_⟩
  rintro ⟨c, hc, he, hsub⟩
  have hmem : e ∈ (head :: s.allSubstitutors head).filterMap s.element? :=
    List.mem_filterMap.2 ⟨c, (hcandidates c).2 hsub, he⟩
  have hsome : (s.matchGlobal n head).isSome :=
    List.find?_isSome.2 ⟨e, hmem, (hmatches _).2 ((hnames n c e he).1 hc).symm⟩
  -- whatever is found has the same name, so it is the same element
  obtain ⟨x, hx⟩ := Option.isSome_iff_exists.1 hsome
  obtain ⟨c', hc', hxc, -⟩ := hfound x hx
  obtain rfl := Option.some.inj (hc.symm.trans hc')
  rw [hx, ← he, ← hxc]

end Schema

namespace Builder

variable {c : Catalog} {limits : Limits} {b b' : Builder}

/-- Elements are linked and noted alike, and none substitutes a sealed one unless an error is
recorded. -/
structure LinkedElements (b : Builder) : Prop where
  linked : b.schema.Linked
  unsealed : b.Clean → ∀ id e up h, b.schema.element? id = some e → e.substituted = some up →
    b.schema.element? up = some h → h.isSealed = false

theorem LinkedElements.of_eq (h : b.LinkedElements) (hl : b.Lasts b')
    (elements : b'.schema.elements = b.schema.elements)
    (substitutions : b'.schema.substitutions = b.schema.substitutions) : b'.LinkedElements := by
  have helement : ∀ x, b'.schema.element? x = b.schema.element? x := fun x => by
    rw [Schema.element?, elements, Schema.element?]
  refine ⟨⟨fun h' x => ?_, substitutions ▸ h.linked.nodup⟩, fun hc id e up f he hup hf => ?_⟩
  · rw [substitutions, h.linked.table]
    simp only [Schema.substituted?, helement]
  · exact h.unsealed (hl.clean hc) id e up f (helement id ▸ he) hup (helement up ▸ hf)

theorem element?_addElement {o : DeclarationId} {e : Element} (x : ElementId) :
    (b.addElement o e).2.schema.element? x =
      if x = ⟨b.schema.elements.size⟩ then some e else b.schema.element? x := by
  have hindex : x = ⟨b.schema.elements.size⟩ ↔ x.index = b.schema.elements.size :=
    ⟨congrArg ElementId.index, congrArg ElementId.mk⟩
  rw [Schema.element?, addElement, Array.getElem?_push]
  exact if_congr hindex.symm rfl rfl

/-- A new element is noted under its head. -/
theorem linked_addElement (hb : b.schema.Linked) (o : DeclarationId) (e : Element) :
    (b.addElement o e).2.schema.Linked := by
  let id : ElementId := ⟨b.schema.elements.size⟩
  have hnone : b.schema.substituted? id = none := by
    rw [Schema.substituted?, Schema.element?, Array.getElem?_eq_none le_rfl, Option.bind_none]
  have hnew : ∀ h, (h, id) ∉ b.schema.substitutions := by
    intro h hmem
    cases hnone.symm.trans ((hb.table h id).1 hmem)
  have hsubstitutions : (b.addElement o e).2.schema.substitutions =
      b.schema.substitutions ++ e.substituted.toList.map fun h => (h, id) := by
    unfold addElement Schema.addSubstitution
    cases e.substituted with
    | none => simp
    | some h =>
      simpa [id] using hnew h
  refine ⟨fun h x => ?_, ?_⟩
  · have hlink : (b.addElement o e).2.schema.substituted? x =
        if x = id then e.substituted else b.schema.substituted? x := by
      rw [Schema.substituted?, element?_addElement]
      split <;> rfl
    rw [hsubstitutions, List.mem_append, hb.table, hlink]
    by_cases hx : x = id
    · subst hx
      simp [hnone]
    · have hne : ¬id = x := fun h => hx h.symm
      simp [hx, hne]
  · rw [hsubstitutions]
    refine hb.nodup.append ?_ ?_
    · cases e.substituted <;> simp
    · cases e.substituted with
      | none => simp
      | some h => simpa using hnew h

theorem isSealed_of_substitutionFaults {s : Schema} {e head : Element}
    (h : substitutionFaults s e head = []) : head.isSealed = false := by
  unfold substitutionFaults at h
  cases hs : head.isSealed with
  | false => rfl
  | true => simp [hs] at h

theorem Step.linkedElements (h : b.Step c limits b') (hp : b.Placed) (hb : b.LinkedElements) :
    b'.LinkedElements := by
  have hl := h.lasts
  cases h with
  | type step => cases step <;> exact hb.of_eq hl rfl rfl
  | openAttribute o => exact hb.of_eq hl rfl rfl
  | addAttribute => exact hb.of_eq hl rfl rfl
  | finish => exact hb.of_eq hl rfl rfl
  | @addElement o d e t head l declared new above type clean allowed =>
    refine ⟨linked_addElement hb.linked o _, fun hc id f up g hf hup hg => ?_⟩
    have hf : (b.addElement o (d.element e t head)).2.schema.element? id = some f := hf
    have hg : (b.addElement o (d.element e t head)).2.schema.element? up = some g := hg
    -- a head is older than the elements that substitute it
    have hold : ∀ x : ElementId, x.index < b.schema.elements.size →
        (b.addElement o (d.element e t head)).2.schema.element? x = b.schema.element? x := by
      intro x hx
      rw [element?_addElement, if_neg]
      rintro rfl
      exact absurd hx (lt_irrefl _)
    rw [element?_addElement] at hf
    split at hf
    · obtain rfl := Option.some.inj hf
      have hup : head = some up := hup
      rw [hold up (above.head hp hup)] at hg
      exact isSealed_of_substitutionFaults (allowed hc g (by rw [hup]; exact hg))
    · have hplaced := (hp.elements id f hf).ids (.element up) (by simp [Element.ids, hup])
      rw [hold up hplaced] at hg
      exact hb.unsealed (hl.clean hc) id f up g hf hup hg

theorem start_linkedElements (ledger : Ledger) : LinkedElements { ledger } where
  linked := ⟨by simp [Schema.builtin, Schema.substituted?, Schema.element?], List.nodup_nil⟩
  unsealed _ id e up h he := by simp [Schema.builtin, Schema.element?] at he

theorem Extent.Steps.linkedElements {k : Extent} (h : k.Steps c limits b b') (hp : b.Placed)
    (hb : b.LinkedElements) : b'.LinkedElements := by
  induction h with
  | refl => exact hb
  | tail hs step ih =>
    exact (Extent.Step.of_any step).linkedElements (Extent.Steps.placed hs hp) ih

namespace Completes

variable {namespaces : List NamespaceDecl}

theorem linkedElements (h : b.Completes namespaces limits) : b.LinkedElements :=
  h.steps.linkedElements (start_placed _) (start_linkedElements _)

/-- An element is found by its name. -/
theorem lookupElement_eq_some_iff (h : b.Completes namespaces limits) {n : FullName}
    {id : ElementId} {e : Element} (he : b.schema.element? id = some e) :
    (b.published (Catalog.ofNamespaces namespaces).1).lookupElement n = some id ↔
      e.fullName = n := by
  have hissued : b.schema.Issues (.element id) := Schema.index_lt_of_element he
  obtain ⟨m, hm, hunique⟩ := h.existsUnique_of_issues hissued
  have hlookup : ∀ n, (b.published (Catalog.ofNamespaces namespaces).1).lookupElement n = some id ↔
      (b.published (Catalog.ofNamespaces namespaces).1).lookup n = some (.element id) := by
    intro n
    rw [Schema.lookupElement, Option.bind_eq_some_iff]
    constructor
    · rintro ⟨i, hi, hid⟩
      cases i <;> cases hid
      exact hi
    · exact fun hi => ⟨_, hi, rfl⟩
  have hname : e.fullName = m := by
    rcases h.lookup_eq_some_iff.1 hm with ⟨k, -, hk⟩ | ⟨o, d, hd, ho, rfl⟩
    · cases hk
    · obtain ⟨d', hd', hdeclares⟩ := h.numbered.declares _ _ (mem_of_symbol? ho)
      obtain rfl := Option.some.inj (hd.symm.trans hd')
      cases hmember : d.member <;> rw [hmember] at hdeclares <;> try exact hdeclares.elim
      obtain ⟨e', he', hn⟩ := hdeclares
      rwa [Option.some.inj (he.symm.trans he')]
  rw [hlookup]
  exact ⟨fun hn => hname.trans (hunique n hn).symm, fun hn => hn ▸ hname ▸ hm⟩

end Completes

end Builder

/-! ## Accepted schemas -/

/-- A schema tells alike in every way which elements may stand in for which, and no element stands
in for one that it may not stand in for. -/
structure Schema.Substitutes (s : Schema) : Prop where
  direct : ∀ c h, c ∈ s.substitutors h ↔ s.substituted? c = some h
  chain : ∀ c h, s.substitutes c h ↔ ReflTransGen (fun x y => s.substituted? x = some y) c h
  nodup : ∀ h, (s.allSubstitutors h).Nodup
  search : ∀ c h, c ∈ s.allSubstitutors h ↔ c ≠ h ∧ s.substitutes c h
  /-- A name with a namespace stands for the element of that name or for none. -/
  named : ∀ n h e, n.uri ≠ "" → (s.matchGlobal n h = some e ↔
    ∃ c, s.lookupElement n = some c ∧ s.element? c = some e ∧ s.substitutes c h)
  allowed : ∀ c h, s.substitutes c h → ∀ e f, s.element? c = some e → s.element? h = some f →
    s.derives e.type f.type ∧ (e.isNullable → f.isNullable)
  /-- Nothing above an element is sealed. -/
  unsealed : ∀ c h, s.substitutes c h → ∀ x g, s.substitutes c x → s.substitutes x h → x ≠ c →
    s.element? x = some g → g.isSealed = false

namespace Builder

variable {b : Builder} {namespaces : List NamespaceDecl} {limits : Limits}

theorem linked_published (h : b.schema.Linked) (c : Catalog) : (b.published c).Linked := by
  rw [published_eq_withNames]
  exact ⟨h.table, h.nodup⟩

theorem ordered_published (h : b.schema.Ordered) (c : Catalog) : (b.published c).Ordered := by
  rw [published_eq_withNames]
  exact ⟨h.base, h.substituted⟩

theorem element?_published (b : Builder) (c : Catalog) (id : ElementId) :
    (b.published c).element? id = b.schema.element? id := by
  rw [published_eq_withNames]
  rfl

/-- Nothing that is substituted is sealed. -/
theorem Completes.isSealed_eq_false (h : b.Completes namespaces limits) {c x : ElementId}
    (hchain : ReflTransGen (fun x y => b.schema.substituted? x = some y) c x) (hne : x ≠ c)
    {g : Element} (hg : b.schema.element? x = some g) : g.isSealed = false := by
  rcases hchain.cases_tail with heq | ⟨y, -, hstep⟩
  · exact absurd heq hne
  · obtain ⟨e, he, hup⟩ := Schema.mem_element_of_substituted hstep
    exact h.linkedElements.unsealed h.clean y e x g he hup hg

end Builder

/-- Every way to tell which elements may stand in for which tells the same in an accepted schema,
and what is checked of one substitution holds along any number of them. -/
theorem substitution_of_accepts {namespaces : List NamespaceDecl} {limits : Limits} {s : Schema}
    (h : Accepts namespaces limits s) : s.Substitutes := by
  obtain ⟨b, hb, rfl⟩ := h.exists_builder
  have hlinked := Builder.linked_published hb.linkedElements.linked
    (Catalog.ofNamespaces namespaces).1
  have ho := Builder.ordered_published hb.inv.ordered (Catalog.ofNamespaces namespaces).1
  refine ⟨fun c h => hlinked.mem_substitutors, fun c h => Schema.substitutes_iff ho,
    fun h => (List.nodup_append.1 (Schema.nodup_allSubstitutors hlinked h)).1,
    fun c h => Schema.mem_allSubstitutors hlinked ho,
    fun n h e hn => Schema.matchGlobal_eq_some_iff hlinked ho (fun m c f hf => ?_) hn,
    fun c h hsub e f he hf => ?_, fun c h _ x g hsub _ hne hg => ?_⟩
  · rw [Builder.element?_published] at hf
    exact hb.lookupElement_eq_some_iff hf
  · rw [Builder.element?_published] at he hf
    rw [b.published_eq_withNames] at hsub ⊢
    exact (hb.inv.strict hb.clean).of_substitutes hb.inv hsub he hf
  · rw [Builder.element?_published] at hg
    rw [b.published_eq_withNames] at hsub
    exact hb.isSealed_eq_false ((Schema.substitutes_iff hb.inv.ordered).1 hsub) hne hg

/-- Elements for shapes, declared from the most special to the most general one. The most special
one is sealed. -/
def shapes : List NamespaceDecl :=
  let text (name : String) : Ident := ⟨name, none⟩
  let extended (name base : String) : MemberDecl :=
    .type { name := text name, body := .extension (.ofText base) none none }
  let element (name type : String) (head : Option String) (isSealed : Bool) : MemberDecl :=
    .element { name := text name, type := .ofText type, isSealed,
               substitutes := head.map NameRef.ofText }
  [{ uri := "urn:shapes"
     members := [
      element "square" "Square" (some "polygon") true,
      element "polygon" "Polygon" (some "shape") false,
      element "circle" "Shape" (some "shape") false,
      element "shape" "Shape" none false,
      extended "Square" "Polygon", extended "Polygon" "Shape",
      .type { name := text "Shape", body := .complex none none }] }]

/-- The name of the square stands for it where a shape is declared. -/
theorem shapes_substitute : Accepts shapes {} (schemaOf shapes {}) ∧
    (schemaOf shapes {}).Substitutes ∧
    (schemaOf shapes {}).allSubstitutors ⟨0⟩ = [⟨1⟩, ⟨3⟩, ⟨2⟩] ∧
    ((schemaOf shapes {}).matchGlobal ⟨"urn:shapes", "square"⟩ ⟨0⟩).isSome := by
  have hs : Accepts shapes {} (schemaOf shapes {}) := accepts_schemaOf (by decide +kernel)
  have hsubstitutes := substitution_of_accepts hs
  have hlookup : (schemaOf shapes {}).lookupElement ⟨"urn:shapes", "square"⟩ = some ⟨2⟩ := by
    decide +kernel
  have helement : ((schemaOf shapes {}).element? ⟨2⟩).isSome := by decide +kernel
  obtain ⟨e, he⟩ := Option.isSome_iff_exists.1 helement
  refine ⟨hs, hsubstitutes, by decide +kernel, ?_⟩
  rw [(hsubstitutes.named _ ⟨0⟩ e (by decide)).2 ⟨⟨2⟩, hlookup, he, by decide +kernel⟩]
  rfl

end Schemata
