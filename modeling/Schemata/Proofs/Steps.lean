import Schemata.Proofs.Invariant

/-!
# Single steps of a compilation

The steps that change a builder record a fault, add a symbol, or give a type its content. Each of
them keeps the invariant, under conditions on what it adds; `Inv.next` is what they share.
-/

namespace Schemata

/-! ## Ledgers -/

namespace Ledger

theorem hasErrors_eq (l : Ledger) : l.hasErrors = l.entries.toList.any (·.isError) := by
  simp [hasErrors, hasErrorsSince, since]

theorem hasErrors_extend (l : Ledger) (ds : List Diagnostic) :
    (l.extend ds).hasErrors = (l.hasErrors || ds.any (·.isError)) := by
  rw [hasErrors_eq, hasErrors_eq, toList_extend, List.any_append]

end Ledger

namespace Builder

variable {c : Catalog} {b b' : Builder}

/-! ## What all steps share -/

theorem Declares.mono (hb : b.Inv c) (hg : b.Grows c b') {id : TypeId} {o : DeclarationId}
    (h : b.Declares c id o) : b'.Declares c id o := by
  obtain ⟨d, t, up, hd, ht, hup, hlt, hh, hroot⟩ := h
  have hid := Schema.has_of_base hup
  refine ⟨d, t, up, hd, ht, hg.schema.base_eq_some hup, hlt, ?_, hroot⟩
  rw [hg.schema.kind id hid, hg.schema.derivation id hid, ← hh]
  have hk := hg.schema.kind up (hb.has_base hup)
  unfold TypeDecl.header
  rw [hk]

/-- The symbol that a substitution leads to is there already. -/
theorem Inv.exists_head (hb : b.Inv c) {id up : ElementId}
    (h : b.schema.substituted? id = some up) : ∃ e, b.schema.element? up = some e := by
  obtain ⟨e, he, -⟩ := Schema.mem_element_of_substituted h
  have := Nat.lt_trans (hb.heads id up h) (Schema.index_lt_of_element he)
  exact ⟨b.schema.elements[up.index], Array.getElem?_eq_getElem this⟩

/-- What one substitution keeps is kept by any number of them. -/
theorem Strict.of_substitutes (hb : b.Inv c) (hs : b.Strict) {id head : ElementId}
    (h : b.schema.substitutes id head) {e f : Element} (he : b.schema.element? id = some e)
    (hf : b.schema.element? head = some f) :
    b.schema.derives e.type f.type ∧ (e.isNullable → f.isNullable) := by
  have ho := hb.ordered
  induction (Schema.substitutes_iff ho).1 h using Relation.ReflTransGen.head_induction_on
    generalizing e with
  | refl =>
    obtain rfl := Option.some.inj (he.symm.trans hf)
    exact ⟨Schema.derives_refl _ _, fun h => h⟩
  | head hstep hrest ih =>
    obtain ⟨g, hg⟩ := hb.exists_head hstep
    obtain ⟨e', he', hup⟩ := Schema.mem_element_of_substituted hstep
    obtain rfl := Option.some.inj (he.symm.trans he')
    obtain ⟨hd, hn⟩ := hs.substitution _ e _ g he hup hg
    obtain ⟨hd', hn'⟩ := ih ((Schema.substitutes_iff ho).2 hrest) hg
    exact ⟨Schema.derives_trans ho hd hd', hn' ∘ hn⟩

/-- The invariant lasts if it holds of what a step adds. -/
theorem Inv.next (hb : b.Inv c) (hg : b.Grows c b')
    (builtin : ∀ k : Kind, b'.schema.types[k.rank]? = b.schema.types[k.rank]?)
    (size : b'.schema.types.size = Kind.all.length + b'.origins.size)
    (declared : ∀ id o, b'.origin? id = some o → b.origin? id = some o ∨ b'.Declares c id o)
    (typeSymbols : ∀ o t, (o, SymbolId.type t) ∈ b'.symbols →
      (o, SymbolId.type t) ∈ b.symbols ∨ b'.schema.Has t)
    (elementSymbols : ∀ o e, (o, SymbolId.element e) ∈ b'.symbols →
      (o, SymbolId.element e) ∈ b.symbols ∨ e.index < b'.schema.elements.size)
    (heads : ∀ id up, b'.schema.substituted? id = some up →
      b.schema.substituted? id = some up ∨ up.index < id.index)
    (attributes : ∀ id a, b'.schema.attribute? id = some a →
      b.schema.attribute? id = some a ∨ b'.DefaultFits 0 a)
    (contents : ∀ id, b'.schema.typeDef id = b.schema.typeDef id ∨
      (b'.schema.typeDef id).kind.isSimple = (b'.schema.typeDef id).asSimple?.isSome)
    (finished : ∀ id ∈ b'.finished, id ∈ b.finished ∨ b'.TypeSound id)
    (types : b'.Clean → ∀ id ∈ b'.finished, id ∈ b.finished ∨ b'.TypeStrict id)
    (substitution : b'.Clean → ∀ id e up h, b'.schema.element? id = some e →
      e.substituted = some up → b'.schema.element? up = some h → b.schema.element? id = some e ∨
      b'.schema.derives e.type h.type ∧ (e.isNullable → h.isNullable)) :
    b'.Inv c where
  builtin k := (builtin k).trans (hb.builtin k)
  size := size
  declared id o h := (declared id o h).elim (fun h => (hb.declared id o h).mono hb hg) fun h => h
  typeSymbols o t h :=
    (typeSymbols o t h).elim (fun h => hg.schema.has (hb.typeSymbols o t h)) fun h => h
  elementSymbols o e h := (elementSymbols o e h).elim
    (fun h => Nat.lt_of_lt_of_le (hb.elementSymbols o e h) hg.schema.elements_size) fun h => h
  heads id up h := (heads id up h).elim (hb.heads id up) fun h => h
  attributes id a h := (attributes id a h).elim
    (fun h => (hb.attributes id a h).mono hb hg) fun h => h
  contents id := (contents id).elim (fun h => by rw [h]; exact hb.contents id) fun h => h
  finished id h := (finished id h).elim
    (fun h => (hb.finished id h).mono hb hg (isFinished_of_mem h)) fun h => h
  strict hc := by
    have hs := hb.strict (hg.clean hc)
    constructor
    · intro id hid
      rcases types hc id hid with h | h
      · exact (hs.types id h).mono hb hg h
      · exact h
    · intro id e up h he hup hh
      rcases substitution hc id e up h he hup hh with he' | h
      · obtain ⟨h', hh'⟩ := hb.exists_head (Option.bind_eq_some_iff.2 ⟨e, he', hup⟩)
        obtain rfl := Option.some.inj (hh.symm.trans (hg.schema.element up h' hh'))
        obtain ⟨hd, hn⟩ := hs.substitution id e up h he' hup hh'
        exact ⟨hg.schema.derives hd, hn⟩
      · exact h

/-! ## Recording -/

theorem withLedger_grows {l : Ledger} (hl : l.hasErrors = false → b.Clean) :
    b.GrowsCalmly c { b with ledger := l } where
  schema := .refl _
  content _ _ _ := rfl
  origin _ _ h := h
  finished _ h := h
  known _ _ h := h
  settled _ := rfl
  clean := hl
  simple _ h h' := absurd h h'

theorem withLedger_inv (hb : b.Inv c) {l : Ledger} (hl : l.hasErrors = false → b.Clean) :
    Inv c { b with ledger := l } :=
  hb.next (withLedger_grows hl).toGrows (fun _ => rfl) hb.size (fun _ _ h => Or.inl h)
    (fun _ _ h => Or.inl h) (fun _ _ h => Or.inl h) (fun _ _ h => Or.inl h)
    (fun _ _ h => Or.inl h) (fun _ => Or.inl rfl) (fun _ h => Or.inl h)
    (fun _ _ h => Or.inl h) (fun _ _ _ _ _ h _ _ => Or.inl h)

/-! ## What is in the making -/

theorem withOpen_grows (attributes : List DeclarationId) (types : List TypeId) :
    b.GrowsCalmly c { b with openAttributes := attributes, openTypes := types } where
  schema := .refl _
  content _ _ _ := rfl
  origin _ _ h := h
  finished _ h := h
  known _ _ h := h
  settled _ := rfl
  clean h := h
  simple _ h h' := absurd h h'

/-- What is in the making is of no concern to the invariant. -/
theorem withOpen_inv (hb : b.Inv c) (attributes : List DeclarationId) (types : List TypeId) :
    Inv c { b with openAttributes := attributes, openTypes := types } :=
  hb.next (withOpen_grows attributes types).toGrows (fun _ => rfl) hb.size (fun _ _ h => Or.inl h)
    (fun _ _ h => Or.inl h) (fun _ _ h => Or.inl h) (fun _ _ h => Or.inl h)
    (fun _ _ h => Or.inl h) (fun _ => Or.inl rfl) (fun _ h => Or.inl h)
    (fun _ _ h => Or.inl h) (fun _ _ _ _ _ h _ _ => Or.inl h)

/-! ## Adding a type -/

theorem typeDef_addType (o : DeclarationId) (t : TypeDef) (id : TypeId) :
    (b.addType o t).2.schema.typeDef id =
      if id.index = b.schema.types.size then t else b.schema.typeDef id := by
  unfold Schema.typeDef addType
  simp only [Array.getElem?_push]
  split <;> rfl

theorem typeDef_addType_of_has {o : DeclarationId} {t : TypeDef} {id : TypeId}
    (h : b.schema.Has id) : (b.addType o t).2.schema.typeDef id = b.schema.typeDef id := by
  rw [typeDef_addType, if_neg (Nat.ne_of_lt h)]

theorem origin_addType (hs : b.schema.types.size = Kind.all.length + b.origins.size)
    (o : DeclarationId) (t : TypeDef) (id : TypeId) :
    (b.addType o t).2.origin? id =
      if id.index = b.schema.types.size then some o else b.origin? id := by
  simp only [origin?, addType, Array.getElem?_push]
  by_cases hid : id.index = b.schema.types.size
  · rw [if_neg (by omega), if_pos (by omega), if_pos hid]
  · rw [if_neg hid]
    split
    · rfl
    · rw [if_neg (by omega)]

theorem addType_extends (b : Builder) (o : DeclarationId) (t : TypeDef) :
    b.schema.Extends (b.addType o t).2.schema where
  types_size := by simp [addType]
  elements_size := le_rfl
  base id h := by rw [typeDef_addType_of_has h]
  kind id h := by rw [typeDef_addType_of_has h]
  derivation id h := by rw [typeDef_addType_of_has h]
  attr _ _ h := h
  element _ _ h := h

theorem addType_grows (hb : b.Inv c) {o : DeclarationId} (t : TypeDef) (ho : c.DeclaresType o)
    (hk : ¬b.TypeKnown o) : b.GrowsCalmly c (b.addType o t).2 where
  schema := addType_extends b o t
  content id h _ := by rw [typeDef_addType_of_has h]
  origin id p h := by
    rw [origin_addType hb.size, if_neg]
    · exact h
    · intro hid
      have hs := hb.size
      rw [origin?, if_neg (by omega), Array.getElem?_eq_none (by omega)] at h
      cases h
  finished _ h := h
  known p _ h := by
    unfold TypeKnown symbol? addType at *
    rw [List.lookup_cons]
    split
    · rfl
    · exact h
  settled h := absurd (h o ho) hk
  clean h := h
  simple _ h h' := absurd h h'

theorem addType_inv (hb : b.Inv c) {o : DeclarationId} {t : TypeDef} {d : Declaration}
    {decl : TypeDecl} {up : TypeId} (hd : c.get? o = some d) (ht : d.asType? = some decl)
    (hk : ¬b.TypeKnown o) (hup : t.base = some up) (hhas : b.schema.Has up)
    (hh : decl.header (b.schema.typeDef up) = (t.kind, t.derivation))
    (hroot : ∀ root, typeLink c o = .ok (.root root) → up = root)
    (hc : t.content = t.kind.emptyContent) : Inv c (b.addType o t).2 := by
  have ho : c.DeclaresType o := by simp [Catalog.DeclaresType, hd, ht]
  have hg := addType_grows hb t ho hk
  have hnew : ∀ id : TypeId, id.index = b.schema.types.size →
      (b.addType o t).2.schema.typeDef id = t := fun id h => by rw [typeDef_addType, if_pos h]
  refine hb.next hg.toGrows (fun k => ?_) ?_ (fun id p h => ?_) (fun p u h => ?_)
    (fun p e h => ?_) (fun _ _ h => Or.inl h) (fun _ _ h => Or.inl h) (fun id => ?_)
    (fun _ h => Or.inl h) (fun _ _ h => Or.inl h) (fun _ _ _ _ _ h _ _ => Or.inl h)
  · have := (Array.getElem?_eq_some_iff.1 (hb.builtin k)).1
    simp only [addType, Array.getElem?_push, if_neg (Nat.ne_of_lt this)]
  · simp only [addType, Array.size_push, hb.size]
    omega
  · rw [origin_addType hb.size] at h
    split at h
    · rename_i hid
      obtain rfl := Option.some.inj h
      refine Or.inr ⟨d, decl, up, hd, ht, ?_, ?_, ?_, hroot⟩
      · rw [hnew id hid, hup]
      · rw [hid]
        exact hhas
      · rw [hnew id hid, typeDef_addType_of_has hhas, hh]
    · exact Or.inl h
  · rcases List.mem_cons.1 h with h | h
    · cases h
      exact Or.inr (by simp [Schema.Has, addType])
    · exact Or.inl h
  · exact Or.inl (List.mem_of_ne_of_mem (by simp) h)
  · rw [typeDef_addType]
    split
    · right
      rw [TypeDef.asSimple?, hc, Kind.emptyContent, Kind.isSimple]
      cases t.kind.isComplex <;> rfl
    · exact Or.inl rfl

/-! ## Adding an attribute or an element -/

theorem typeKnown_cons {o p : DeclarationId} {s : SymbolId} {rest : List (DeclarationId × SymbolId)}
    (hp : c.DeclaresType p) (ho : ¬c.DeclaresType o)
    (h : ((rest.lookup p).bind (·.asType?)).isSome) :
    ((((o, s) :: rest).lookup p).bind (·.asType?)).isSome := by
  rw [List.lookup_cons]
  split
  · rename_i heq
    obtain rfl : p = o := by simpa using heq
    exact absurd hp ho
  · exact h

theorem addAttribute_extends (b : Builder) (o : DeclarationId) (a : Attribute) :
    b.schema.Extends (b.addAttribute o a).2.schema :=
  { Schema.Extends.refl b.schema with
    attr := fun id x h => by
      have := (Array.getElem?_eq_some_iff.1 h).1
      simp only [Schema.attribute?, addAttribute, Array.getElem?_push, if_neg (Nat.ne_of_lt this)]
      exact h }

theorem addAttribute_grows {o : DeclarationId} (a : Attribute) (ho : ¬c.DeclaresType o) :
    b.GrowsCalmly c (b.addAttribute o a).2 where
  schema := addAttribute_extends b o a
  content _ _ _ := rfl
  origin _ _ h := h
  finished _ h := h
  known _ hp h := typeKnown_cons hp ho h
  settled _ := rfl
  clean h := h
  simple _ h h' := absurd h h'

theorem addAttribute_inv (hb : b.Inv c) {o : DeclarationId} {a : Attribute}
    (ho : ¬c.DeclaresType o) (ha : b.DefaultFits 0 a) : Inv c (b.addAttribute o a).2 := by
  have hg := addAttribute_grows (b := b) a ho
  refine hb.next hg.toGrows (fun _ => rfl) hb.size (fun _ _ h => Or.inl h) (fun p t h => ?_)
    (fun p e h => ?_) (fun _ _ h => Or.inl h) (fun id x h => ?_) (fun _ => Or.inl rfl)
    (fun _ h => Or.inl h) (fun _ _ h => Or.inl h) (fun _ _ _ _ _ h _ _ => Or.inl h)
  · exact Or.inl (List.mem_of_ne_of_mem (by simp) h)
  · exact Or.inl (List.mem_of_ne_of_mem (by simp) h)
  · simp only [Schema.attribute?, addAttribute, Array.getElem?_push] at h
    split at h
    · obtain rfl := Option.some.inj h
      exact Or.inr (ha.mono hb hg.toGrows)
    · exact Or.inl h

theorem addElement_extends (b : Builder) (o : DeclarationId) (e : Element) :
    b.schema.Extends (b.addElement o e).2.schema :=
  { Schema.Extends.refl b.schema with
    elements_size := by simp [addElement]
    element := fun id x h => by
      have := (Array.getElem?_eq_some_iff.1 h).1
      simp only [Schema.element?, addElement, Array.getElem?_push, if_neg (Nat.ne_of_lt this)]
      exact h }

theorem addElement_grows {o : DeclarationId} (e : Element) (ho : ¬c.DeclaresType o) :
    b.GrowsCalmly c (b.addElement o e).2 where
  schema := addElement_extends b o e
  content _ _ _ := rfl
  origin _ _ h := h
  finished _ h := h
  known _ hp h := typeKnown_cons hp ho h
  settled _ := rfl
  clean h := h
  simple _ h h' := absurd h h'

/-- An element may be added that may stand in for the one it substitutes, unless errors have been
recorded. -/
theorem addElement_inv (hb : b.Inv c) {o : DeclarationId} {e : Element} (ho : ¬c.DeclaresType o)
    (hup : ∀ up, e.substituted = some up → up.index < b.schema.elements.size)
    (hs : b.Clean → ∀ up h, e.substituted = some up → b.schema.element? up = some h →
      b.schema.derives e.type h.type ∧ (e.isNullable → h.isNullable)) :
    Inv c (b.addElement o e).2 := by
  have hg := addElement_grows (b := b) e ho
  have hnew : ∀ (id : ElementId) (x : Element), (b.addElement o e).2.schema.element? id = some x →
      id.index = b.schema.elements.size ∧ x = e ∨ b.schema.element? id = some x := by
    intro id x h
    simp only [Schema.element?, addElement, Array.getElem?_push] at h
    split at h
    · exact Or.inl ⟨‹_›, (Option.some.inj h).symm⟩
    · exact Or.inr h
  refine hb.next hg.toGrows (fun _ => rfl) hb.size (fun _ _ h => Or.inl h) (fun p t h => ?_)
    (fun p i h => ?_) (fun id up h => ?_) (fun _ _ h => Or.inl h) (fun _ => Or.inl rfl)
    (fun _ h => Or.inl h) (fun _ _ h => Or.inl h) (fun hc id x up h hx hxu hh => ?_)
  · exact Or.inl (List.mem_of_ne_of_mem (by simp) h)
  · rcases List.mem_cons.1 h with h | h
    · cases h
      exact Or.inr (by simp [addElement])
    · exact Or.inl h
  · obtain ⟨x, hx, hxu⟩ := Schema.mem_element_of_substituted h
    rcases hnew id x hx with ⟨hid, rfl⟩ | hx
    · exact Or.inr (by rw [hid]; exact hup up hxu)
    · exact Or.inl (Option.bind_eq_some_iff.2 ⟨x, hx, hxu⟩)
  · rcases hnew id x hx with ⟨-, rfl⟩ | hx
    · right
      rcases hnew up h hh with ⟨hu, -⟩ | hh
      · have := hup up hxu
        omega
      · obtain ⟨hd, hn⟩ := hs hc up h hxu hh
        exact ⟨hg.schema.derives hd, hn⟩
    · exact Or.inl hx

/-! ## Giving a type its content -/

section Finish

variable {id : TypeId} {o : DeclarationId}

theorem typeDef_finish_self (hid : b.schema.Has id) (x : Content) :
    (b.finish id x).schema.typeDef id = { b.schema.typeDef id with content := x } := by
  simp only [Schema.typeDef, finish, Array.getElem?_modify, ↓reduceIte,
    Array.getElem?_eq_getElem hid, Option.map_some, Option.getD_some]

theorem typeDef_finish_of_ne {other : TypeId} (h : other ≠ id) (x : Content) :
    (b.finish id x).schema.typeDef other = b.schema.typeDef other := by
  have hne : ¬id.index = other.index := fun hi => h (TypeId.mk.injEq .. ▸ hi.symm)
  simp only [Schema.typeDef, finish, Array.getElem?_modify, if_neg hne]

theorem typeDef_finish (b : Builder) (id : TypeId) (x : Content) (other : TypeId) :
    ∃ y, (b.finish id x).schema.typeDef other = { b.schema.typeDef other with content := y } := by
  by_cases h : other = id
  · by_cases hid : b.schema.Has id
    · exact ⟨x, by rw [h, typeDef_finish_self hid]⟩
    · refine ⟨(b.schema.typeDef other).content, ?_⟩
      have hnone : b.schema.types[id.index]? = none := Array.getElem?_eq_none (by
        rw [Schema.Has] at hid
        omega)
      simp only [h, Schema.typeDef, finish, Array.getElem?_modify, ↓reduceIte, hnone,
        Option.map_none]
  · exact ⟨(b.schema.typeDef other).content, by rw [typeDef_finish_of_ne h]⟩

theorem finish_extends (b : Builder) (id : TypeId) (x : Content) :
    b.schema.Extends (b.finish id x).schema :=
  { Schema.Extends.refl b.schema with
    types_size := by simp [finish]
    base := fun other _ => by
      obtain ⟨y, hy⟩ := typeDef_finish b id x other
      rw [hy]
    kind := fun other _ => by
      obtain ⟨y, hy⟩ := typeDef_finish b id x other
      rw [hy]
    derivation := fun other _ => by
      obtain ⟨y, hy⟩ := typeDef_finish b id x other
      rw [hy] }

theorem finish_grows (hid : b.schema.Has id) (hf : ¬b.isFinished id) (x : Content) :
    b.Grows c (b.finish id x) where
  schema := finish_extends b id x
  content other _ h := by
    rw [typeDef_finish_of_ne]
    rintro rfl
    exact hf h
  origin _ _ h := h
  finished _ h := List.mem_cons_of_mem _ h
  known _ _ h := h
  settled _ := by simp [finish]
  clean h := h

theorem finish_inv (hb : b.Inv c) (hid : b.schema.Has id) (hf : ¬b.isFinished id) {x : Content}
    (hk : (b.schema.typeDef id).kind.isSimple =
      ((b.finish id x).schema.typeDef id).asSimple?.isSome)
    (hsound : (b.finish id x).TypeSound id)
    (hstrict : b.Clean → (b.finish id x).TypeStrict id) : Inv c (b.finish id x) := by
  have hg := finish_grows (c := c) hid hf x
  have hnot : ∀ k : Kind, k.rank ≠ id.index := by
    intro k hk
    exact hf (isFinished_iff.2 (Or.inl (origin_of_builtin (hk ▸ k.rank_lt))))
  refine hb.next hg (fun k => ?_) ?_ (fun _ _ h => Or.inl h) (fun _ _ h => Or.inl h)
    (fun _ _ h => Or.inl h) (fun _ _ h => Or.inl h) (fun _ _ h => Or.inl h) (fun other => ?_)
    (fun other h => ?_) (fun hc other h => ?_) (fun _ _ _ _ _ h _ _ => Or.inl h)
  · simp only [finish, Array.getElem?_modify, if_neg (hnot k).symm]
  · simpa [finish] using hb.size
  · by_cases h : other = id
    · right
      rw [h, ← hk, hg.schema.kind id hid]
    · exact Or.inl (typeDef_finish_of_ne h x)
  · rcases List.mem_cons.1 h with rfl | h
    · exact Or.inr hsound
    · exact Or.inl h
  · rcases List.mem_cons.1 h with rfl | h
    · exact Or.inr (hstrict hc)
    · exact Or.inl h

/-- A simple type may get content that narrows that of its base. Items have to be simple, unless
errors have been recorded. -/
theorem finish_simple (hb : b.Inv c) (hid : b.schema.Has id) (hf : ¬b.isFinished id)
    (hk : (b.schema.typeDef id).kind.isSimple) {x : SimpleContent}
    (hup : ∀ up, (b.schema.typeDef id).base = some up → b.isFinished up)
    (hx : ∀ up d, (b.schema.typeDef id).base = some up →
      (b.schema.typeDef up).asSimple? = some d → x.Narrows b.schema d)
    (hi : b.Clean → ∀ item, x.item = some item → (b.schema.typeDef item).kind.isSimple) :
    b.GrowsCalmly c (b.finish id (.simple x)) ∧ Inv c (b.finish id (.simple x)) := by
  have hg := finish_grows (c := c) hid hf (.simple x)
  have hself := typeDef_finish_self hid (.simple x)
  refine ⟨⟨hg, fun other h h' => ?_⟩, finish_inv hb hid hf ?_ ⟨?_, ?_, ?_, ?_, ?_⟩ ?_⟩
  · rcases List.mem_cons.1 h with rfl | h
    · rw [hg.schema.kind _ hid, hk]
    · exact absurd h h'
  · rw [hself, hk]
    rfl
  · exact hg.schema.has hid
  · intro up hu
    rw [hself] at hu
    exact hg.isFinished hb (hb.has_base hu) (hup up hu)
  · intro y up d hy hu hd
    rw [hself] at hy hu
    obtain rfl : x = y := Option.some.inj hy
    rw [hg.asSimple?_eq (hb.has_base hu) (hup up hu)] at hd
    exact (hx up d hu hd).mono hg.schema
  · intro y hy
    rw [hself] at hy
    cases hy
  · intro y hy
    rw [hself] at hy
    cases hy
  · intro hc
    constructor
    · intro _ y up d hy
      rw [hself] at hy
      cases hy
    · intro item h
      rw [hself] at h
      exact hg.schema.isSimple (hi hc item h)

/-- A complex type may get sound content, which has to narrow that of its base if it is a
restriction, unless errors have been recorded. -/
theorem finish_complex (hb : b.Inv c) (hid : b.schema.Has id) (hf : ¬b.isFinished id)
    (hk : (b.schema.typeDef id).kind.isSimple = false) {x : ComplexContent}
    (hup : ∀ up, (b.schema.typeDef id).base = some up → b.isFinished up)
    (hx : x.Sound b.schema)
    (ha : ∀ a ∈ x.attributes.getD [], b.DefaultFits 0 a ∧ b.Comes id a)
    (hr : b.Clean → (b.schema.typeDef id).derivation = .restriction → ∀ up d,
      (b.schema.typeDef id).base = some up → (b.schema.typeDef up).asComplex? = some d →
      x.Narrows b.schema d) :
    b.Grows c (b.finish id (.complex x)) ∧ Inv c (b.finish id (.complex x)) := by
  have hg := finish_grows (c := c) hid hf (.complex x)
  have hself := typeDef_finish_self hid (.complex x)
  refine ⟨hg, finish_inv hb hid hf ?_ ⟨?_, ?_, ?_, ?_, ?_⟩ ?_⟩
  · rw [hself, hk]
    rfl
  · exact hg.schema.has hid
  · intro up hu
    rw [hself] at hu
    exact hg.isFinished hb (hb.has_base hu) (hup up hu)
  · intro y up d hy
    rw [hself] at hy
    cases hy
  · intro y hy
    rw [hself] at hy
    obtain rfl : x = y := Option.some.inj hy
    exact hx.mono hg.schema
  · intro y hy a hay
    rw [hself] at hy
    obtain rfl : x = y := Option.some.inj hy
    obtain ⟨hd, hcomes⟩ := ha a hay
    exact ⟨hd.mono hb hg, hcomes.mono hb hg fun up hu => ⟨hb.has_base hu, hup up hu⟩⟩
  · intro hc
    constructor
    · intro hd y up d hy hu hcd
      rw [hself] at hy hd hu
      obtain rfl : x = y := Option.some.inj hy
      rw [hg.asComplex?_eq (hb.has_base hu) (hup up hu)] at hcd
      exact (hr hc hd up d hu hcd).mono hg.schema
    · intro item h
      rw [hself] at h
      cases h

end Finish

end Builder

end Schemata
