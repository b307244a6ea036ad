import Schemata.Proofs.ContentSequences

/-!
# Numbers of declarations

Symbols are made when they are first needed, from many places. No step makes one for a declaration
that has one already, and every number that is given out goes to a declaration
(`Builder.Numbered`): it is of the sort that is declared there, and has its full name.
-/

namespace Schemata

namespace Schema

/-- A symbol is of the sort that a member declares, and has a full name. -/
def Declares (s : Schema) (n : FullName) : MemberDecl → SymbolId → Prop
  | .type _, .type id => s.Has id ∧ (s.typeDef id).fullName = n
  | .attr _, .attr id => ∃ a, s.attribute? id = some a ∧ a.fullName = n
  | .element _, .element id => ∃ e, s.element? id = some e ∧ e.fullName = n
  | _, _ => False

end Schema

namespace Builder

variable {c : Catalog} {limits : Limits} {b b' : Builder}

theorem Lasts.declares (hl : b.Lasts b') {n : FullName} {m : MemberDecl} {id : SymbolId}
    (h : b.schema.Declares n m id) : b'.schema.Declares n m id := by
  cases m <;> cases id <;> try exact h.elim
  · obtain ⟨hid, hn⟩ := h
    obtain ⟨x, hx⟩ := hl.header _ hid
    exact ⟨hl.schema.has hid, by rw [hx]; exact hn⟩
  · obtain ⟨a, ha, hn⟩ := h
    exact ⟨a, hl.schema.attr _ a ha, hn⟩
  · obtain ⟨e, he, hn⟩ := h
    exact ⟨e, hl.schema.element _ e he, hn⟩

/-- Every number but those of the built-in types was given to one declaration, and every declaration
has at most one. -/
structure Numbered (c : Catalog) (b : Builder) : Prop where
  keys : (b.symbols.map Prod.fst).Nodup
  values : (b.symbols.map Prod.snd).Nodup
  declares : ∀ o s, (o, s) ∈ b.symbols →
    ∃ d, c.get? o = some d ∧ b.schema.Declares d.fullName d.member s
  issued : ∀ s, b.schema.Issues s → (∃ k : Kind, s = .type k.typeId) ∨ s ∈ b.symbols.map Prod.snd
  declared : ∀ t, .type t ∈ b.symbols.map Prod.snd → Kind.all.length ≤ t.index
  types : b.schema.types.size = Kind.all.length + b.symbols.countP (·.2.asType?.isSome)
  attributes : b.schema.attributes.size = b.symbols.countP (·.2.asAttribute?.isSome)
  elements : b.schema.elements.size = b.symbols.countP (·.2.asElement?.isSome)
  namespaces : b.schema.namespaces = [.system]

namespace Numbered

theorem eq_of_symbol (hn : b.Numbered c) {o : DeclarationId} {s : SymbolId}
    (h : (o, s) ∈ b.symbols) : b.symbol? o = some s := by
  have hsome : (b.symbol? o).isSome :=
    List.lookup_isSome_iff.2 ⟨_, h, beq_self_eq_true o⟩
  obtain ⟨s', hs'⟩ := Option.isSome_iff_exists.1 hsome
  have hinj := List.inj_on_of_nodup_map hn.keys h (mem_of_symbol? hs') rfl
  rw [hs', (Prod.mk.inj hinj).2]

/-- A symbol belongs to one declaration. -/
theorem inj (hn : b.Numbered c) {o p : DeclarationId} {s : SymbolId} (ho : b.symbol? o = some s)
    (hp : b.symbol? p = some s) : o = p :=
  (Prod.mk.inj
    (List.inj_on_of_nodup_map hn.values (mem_of_symbol? ho) (mem_of_symbol? hp) rfl)).1

theorem of_symbols_eq (hn : b.Numbered c) (hl : b.Lasts b') (hsymbols : b'.symbols = b.symbols)
    (hissues : ∀ s, b'.schema.Issues s → b.schema.Issues s)
    (types : b'.schema.types.size = b.schema.types.size)
    (attributes : b'.schema.attributes.size = b.schema.attributes.size)
    (elements : b'.schema.elements.size = b.schema.elements.size)
    (namespaces : b'.schema.namespaces = b.schema.namespaces) : b'.Numbered c where
  keys := hsymbols ▸ hn.keys
  values := hsymbols ▸ hn.values
  declares o s h := by
    obtain ⟨d, hd, hs⟩ := hn.declares o s (hsymbols ▸ h)
    exact ⟨d, hd, hl.declares hs⟩
  issued s h := hsymbols ▸ hn.issued s (hissues s h)
  declared t h := hn.declared t (hsymbols ▸ h)
  types := by rw [types, hsymbols, hn.types]
  attributes := by rw [attributes, hsymbols, hn.attributes]
  elements := by rw [elements, hsymbols, hn.elements]
  namespaces := namespaces.trans hn.namespaces

/-- A step that gives a new number to a declaration that has none. -/
theorem cons (hn : b.Numbered c) (hp : b.Placed) (hl : b.Lasts b') {o : DeclarationId}
    {s : SymbolId} {d : Declaration} (hsymbols : b'.symbols = (o, s) :: b.symbols)
    (hnew : b.symbol? o = none) (hd : c.get? o = some d)
    (hdeclares : b'.schema.Declares d.fullName d.member s) (hfresh : ¬b.schema.Issues s)
    (hissues : ∀ i, b'.schema.Issues i → b.schema.Issues i ∨ i = s)
    (types : b'.schema.types.size = b.schema.types.size + if s.asType?.isSome then 1 else 0)
    (attributes : b'.schema.attributes.size =
      b.schema.attributes.size + if s.asAttribute?.isSome then 1 else 0)
    (elements : b'.schema.elements.size =
      b.schema.elements.size + if s.asElement?.isSome then 1 else 0)
    (namespaces : b'.schema.namespaces = b.schema.namespaces) : b'.Numbered c where
  keys := by
    rw [hsymbols, List.map_cons, List.nodup_cons]
    refine ⟨fun hmem => ?_, hn.keys⟩
    obtain ⟨p, hp, rfl⟩ := List.mem_map.1 hmem
    cases hnew.symm.trans (hn.eq_of_symbol hp)
  values := by
    rw [hsymbols, List.map_cons, List.nodup_cons]
    refine ⟨fun hmem => ?_, hn.values⟩
    obtain ⟨p, hold, heq⟩ := List.mem_map.1 hmem
    have hissued := hp.symbols p.1 p.2 hold
    rw [heq] at hissued
    exact hfresh hissued
  declares p t h := by
    rw [hsymbols, List.mem_cons] at h
    rcases h with h | h
    · cases h
      exact ⟨d, hd, hdeclares⟩
    · obtain ⟨e, he, ht⟩ := hn.declares p t h
      exact ⟨e, he, hl.declares ht⟩
  issued i h := by
    rw [hsymbols, List.map_cons, List.mem_cons]
    rcases hissues i h with hi | rfl
    · exact (hn.issued i hi).imp_right Or.inr
    · exact Or.inr (Or.inl rfl)
  declared t h := by
    rw [hsymbols, List.map_cons, List.mem_cons] at h
    rcases h with rfl | h
    · have hlt : b.schema.types.size ≤ t.index := not_lt.1 hfresh
      have hsize := hn.types
      omega
    · exact hn.declared t h
  types := by
    rw [types, hsymbols, List.countP_cons, hn.types, Nat.add_assoc]
  attributes := by rw [attributes, hsymbols, List.countP_cons, hn.attributes]
  elements := by rw [elements, hsymbols, List.countP_cons, hn.elements]
  namespaces := namespaces.trans hn.namespaces

end Numbered

theorem issues_addType {o : DeclarationId} {t : TypeDef} {i : SymbolId}
    (h : (b.addType o t).2.schema.Issues i) :
    b.schema.Issues i ∨ i = .type ⟨b.schema.types.size⟩ := by
  cases i with
  | type id =>
    have hid : id.index < b.schema.types.size + 1 := by
      simpa [Schema.Issues, Schema.Has, addType] using h
    rcases Nat.lt_succ_iff_lt_or_eq.1 hid with hlt | heq
    · exact Or.inl hlt
    · exact Or.inr (congrArg (SymbolId.type ∘ TypeId.mk) heq)
  | attr id => exact Or.inl h
  | element id => exact Or.inl h

theorem issues_addAttribute {o : DeclarationId} {a : Attribute} {i : SymbolId}
    (h : (b.addAttribute o a).2.schema.Issues i) :
    b.schema.Issues i ∨ i = .attr ⟨b.schema.attributes.size⟩ := by
  cases i with
  | attr id =>
    have hid : id.index < b.schema.attributes.size + 1 := by
      simpa [Schema.Issues, addAttribute] using h
    rcases Nat.lt_succ_iff_lt_or_eq.1 hid with hlt | heq
    · exact Or.inl hlt
    · exact Or.inr (congrArg (SymbolId.attr ∘ AttributeId.mk) heq)
  | type id => exact Or.inl h
  | element id => exact Or.inl h

theorem issues_addElement {o : DeclarationId} {e : Element} {i : SymbolId}
    (h : (b.addElement o e).2.schema.Issues i) :
    b.schema.Issues i ∨ i = .element ⟨b.schema.elements.size⟩ := by
  cases i with
  | element id =>
    have hid : id.index < b.schema.elements.size + 1 := by
      simpa [Schema.Issues, addElement] using h
    rcases Nat.lt_succ_iff_lt_or_eq.1 hid with hlt | heq
    · exact Or.inl hlt
    · exact Or.inr (congrArg (SymbolId.element ∘ ElementId.mk) heq)
  | type id => exact Or.inl h
  | attr id => exact Or.inl h

theorem issues_finish {id : TypeId} {x : Content} {i : SymbolId} :
    (b.finish id x).schema.Issues i ↔ b.schema.Issues i := by
  cases i <;> simp [Schema.Issues, Schema.Has, finish]

/-- A global attribute has the name under which it is declared. -/
theorem fullName_of_run {d : Declaration} {a : GlobalAttributeDecl} {made : Attribute}
    (h : (makeGlobalAttribute c limits d a).run b = .ok (made, b')) :
    made.fullName = d.fullName := by
  unfold makeGlobalAttribute at h
  obtain ⟨⟨t, b₁⟩, -, h⟩ := bind_eq_ok h
  obtain ⟨⟨v, b₂⟩, -, h⟩ := bind_eq_ok h
  cases h
  rfl

theorem member_of_asType? {d : Declaration} {t : TypeDecl} (h : d.asType? = some t) :
    d.member = .type t := by
  unfold Declaration.asType? at h
  cases hm : d.member <;> simp_all

theorem member_of_asAttribute? {d : Declaration} {a : GlobalAttributeDecl}
    (h : d.asAttribute? = some a) : d.member = .attr a := by
  unfold Declaration.asAttribute? at h
  cases hm : d.member <;> simp_all

theorem member_of_asElement? {d : Declaration} {e : GlobalElementDecl}
    (h : d.asElement? = some e) : d.member = .element e := by
  unfold Declaration.asElement? at h
  cases hm : d.member <;> simp_all

theorem TypeStep.numbered (h : b.TypeStep c limits b') (hp : b.Placed) (hn : b.Numbered c) :
    b'.Numbered c := by
  have hl := h.lasts
  cases h with
  | record clean => exact hn.of_symbols_eq hl rfl (fun _ h => h) rfl rfl rfl rfl
  | openType id => exact hn.of_symbols_eq hl rfl (fun _ h => h) rfl rfl rfl rfl
  | @addType o d t up l declared new =>
    obtain ⟨hd, ht⟩ := Catalog.getAs?_eq_some_iff.1 declared
    refine hn.cons hp hl rfl new hd ?_ (lt_irrefl b.schema.types.size) (fun i => issues_addType (o := o)) ?_
      rfl rfl rfl
    · rw [member_of_asType? ht]
      exact ⟨by simp [Schema.Has, Builder.addType], by
        simp [Schema.typeDef, Builder.addType, Declaration.typeDef]⟩
    · simp [Builder.addType, SymbolId.asType?]
  | finish =>
    exact hn.of_symbols_eq hl rfl (fun _ => issues_finish.1) (by simp [Builder.finish]) rfl rfl rfl

theorem Step.numbered (h : b.Step c limits b') (hp : b.Placed) (hn : b.Numbered c) :
    b'.Numbered c := by
  have hl := h.lasts
  cases h with
  | type step => exact step.numbered hp hn
  | openAttribute o => exact hn.of_symbols_eq hl rfl (fun _ h => h) rfl rfl rfl rfl
  | @addAttribute o d a made b₀ declared new inv placed run =>
    obtain ⟨hd, ha⟩ := Catalog.getAs?_eq_some_iff.1 declared
    refine hn.cons hp hl rfl new hd ?_ (lt_irrefl b.schema.attributes.size)
      (fun i => issues_addAttribute) rfl ?_ rfl rfl
    · rw [member_of_asAttribute? ha]
      exact ⟨made, by simp [Schema.attribute?, Builder.addAttribute], fullName_of_run run⟩
    · simp [Builder.addAttribute, SymbolId.asAttribute?]
  | @addElement o d e t head l declared new =>
    obtain ⟨hd, he⟩ := Catalog.getAs?_eq_some_iff.1 declared
    refine hn.cons hp hl rfl new hd ?_ (lt_irrefl b.schema.elements.size)
      (fun i => issues_addElement (o := o)) rfl rfl ?_ rfl
    · rw [member_of_asElement? he]
      exact ⟨d.element e t head, by simp [Schema.element?, Builder.addElement], rfl⟩
    · simp [Builder.addElement, SymbolId.asElement?]
  | finish =>
    exact hn.of_symbols_eq hl rfl (fun _ => issues_finish.1) (by simp [Builder.finish]) rfl rfl rfl

theorem start_numbered (c : Catalog) (ledger : Ledger) : Numbered c { ledger } where
  keys := List.nodup_nil
  values := List.nodup_nil
  declares := nofun
  issued s h := by
    cases s with
    | type id =>
      obtain ⟨k, hk⟩ := Kind.exists_rank h
      exact Or.inl ⟨k, congrArg SymbolId.type (congrArg TypeId.mk hk.symm)⟩
    | attr id => exact (Nat.not_lt_zero _ h).elim
    | element id => exact (Nat.not_lt_zero _ h).elim
  declared := nofun
  types := rfl
  attributes := rfl
  elements := rfl
  namespaces := rfl

theorem Extent.Steps.numbered {k : Extent} (h : k.Steps c limits b b') (hp : b.Placed)
    (hn : b.Numbered c) : b'.Numbered c := by
  induction h with
  | refl => exact hn
  | tail hs step ih => exact (Extent.Step.of_any step).numbered (Extent.Steps.placed hs hp) ih

end Builder

end Schemata
