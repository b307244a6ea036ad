import Schemata.Proofs.Insertions
import Schemata.Proofs.Integrity
import Schemata.Proofs.Renumbering
import Schemata.Proofs.Sequences

/-!
# Schemas that mirror others

A compilation of more declarations goes through the steps of a compilation of fewer ones, between
steps of its own. A `Shift` says where it has the declarations and the types of the other one. Its
schema has the same types under other numbers, and the same attributes and elements
(`Shift.Schemas`), so whatever is asked about them has the same answer. `Shift.Mirrors` says so of
all that is kept while a schema is made, and each change of the one builder is mirrored by a change
of the other.
-/

namespace Schemata

/-- Where the declarations and the types of one compilation are in another one. -/
structure Shift (c c' : Catalog) where
  place : DeclarationId → DeclarationId
  type : TypeId → TypeId
  /-- The declarations that only the other compilation may have symbols of. -/
  others : List DeclarationId
  /-- The types that only the other compilation may have begun to finish. -/
  extra : List TypeId
  embeds : c.Embeds c' place
  size : c.declarations.size ≤ c'.declarations.size
  place_inj : Function.Injective place
  type_inj : Function.Injective type
  builtin : ∀ k : Kind, type k.typeId = k.typeId

namespace Shift

variable {c c' : Catalog} (σ : Shift c c')

/-- Attributes and elements keep their numbers. -/
def numbers : Renumbering := ⟨σ.type, id, id⟩

/-- A schema has the types of another one under other numbers, and its attributes and elements. -/
structure Schemas (s s' : Schema) : Prop where
  has : ∀ t, s'.Has (σ.type t) ↔ s.Has t
  typeDef : ∀ t, s'.typeDef (σ.type t) = σ.numbers.on (s.typeDef t)
  next : ∀ n, σ.type ⟨s.types.size + n⟩ = ⟨s'.types.size + n⟩
  larger : s.types.size ≤ s'.types.size
  below : ∀ t up, (s.typeDef t).base = some up → up.index < t.index
  attributes : s'.attributes = s.attributes.map σ.numbers.on
  elements : s'.elements = s.elements.map σ.numbers.on

variable {σ}

@[simp]
theorem numbers_attr (i : AttributeId) : σ.numbers.attr i = i := rfl

@[simp]
theorem numbers_element (i : ElementId) : σ.numbers.element i = i := rfl

@[simp]
theorem numbers_type (t : TypeId) : σ.numbers.type t = σ.type t := rfl

@[simp]
theorem on_elements (o : Option ElementId) : σ.numbers.on o = o := by cases o <;> rfl

/-- A walk along links that lead to the same places passes the same places. -/
theorem follow_map {α β : Type} {link : α → Option α} {link' : β → Option β} {f : α → β}
    (h : ∀ a, link' (f a) = (link a).map f) (n : Nat) (a : α) :
    follow link' n (f a) = (follow link n a).map f := by
  induction n generalizing a with
  | zero => rfl
  | succ n ih =>
    rw [follow, follow, h]
    cases link a with
    | none => rfl
    | some x => exact congrArg (f a :: ·) (ih x)

namespace Schemas

variable {s s' : Schema} (h : σ.Schemas s s')

include h

/-! ## Types -/

theorem kind_eq (t : TypeId) : (s'.typeDef (σ.type t)).kind = (s.typeDef t).kind := by
  rw [h.typeDef]
  rfl

theorem fullName_eq (t : TypeId) : (s'.typeDef (σ.type t)).fullName = (s.typeDef t).fullName := by
  rw [h.typeDef]
  rfl

theorem base_eq (t : TypeId) :
    (s'.typeDef (σ.type t)).base = (s.typeDef t).base.map σ.type := by
  rw [h.typeDef]
  rfl

/-- The walk up from a type is the same, even if there are more types. -/
theorem baseChain_eq (t : TypeId) : s'.baseChain (σ.type t) = (s.baseChain t).map σ.type := by
  -- a number that was not given out has no base
  let rank (t : TypeId) : Nat := if s.Has t then t.index else 0
  have hrank : ∀ t, rank t ≤ s.types.size := by
    intro t
    unfold rank
    split
    · rename_i ht
      exact Nat.le_of_lt ht
    · exact Nat.zero_le _
  have hdown : ∀ t up, (s.typeDef t).base = some up → rank up < rank t := by
    intro t up hup
    have hlt := h.below t up hup
    unfold rank
    rw [if_pos (Schema.has_of_base hup)]
    split
    · exact hlt
    · exact Nat.zero_lt_of_lt hlt
  rw [Schema.baseChain, Schema.baseChain, follow_map h.base_eq,
    follow_congr rank hdown (hrank t) ((hrank t).trans h.larger) fun _ _ => rfl]

theorem derives_eq (t u : TypeId) : s'.derives (σ.type t) (σ.type u) = s.derives t u := by
  rw [Schema.derives, Schema.derives, h.baseChain_eq, Bool.eq_iff_iff, List.contains_iff_mem,
    List.contains_iff_mem, List.mem_map_of_injective σ.type_inj]

theorem depth_eq (t : TypeId) : s'.depth (σ.type t) = s.depth t := by
  rw [Schema.depth, Schema.depth, h.baseChain_eq, List.length_map]

theorem baseFaults_eq (t : TypeId) :
    baseFaults (s'.typeDef (σ.type t)) = baseFaults (s.typeDef t) := by
  rw [h.typeDef]
  rfl

/-! ## Attributes and elements -/

theorem attribute?_eq (i : AttributeId) :
    s'.attribute? i = (s.attribute? i).map σ.numbers.on := by
  rw [Schema.attribute?, h.attributes, Array.getElem?_map, Schema.attribute?]

theorem element?_eq (i : ElementId) : s'.element? i = (s.element? i).map σ.numbers.on := by
  rw [Schema.element?, h.elements, Array.getElem?_map, Schema.element?]

theorem attributeFaults_eq (a base : Attribute) :
    attributeFaults s' (σ.numbers.on a) (σ.numbers.on base) = attributeFaults s a base := by
  simp [attributeFaults, h.derives_eq, h.fullName_eq]

theorem substitutionFaults_eq (e head : Element) :
    substitutionFaults s' (σ.numbers.on e) (σ.numbers.on head) = substitutionFaults s e head := by
  simp only [substitutionFaults, Renumbering.type_element, numbers_type, h.derives_eq, h.fullName_eq]
  rfl

theorem substitutes_eq (i j : ElementId) : s'.substitutes i j = s.substitutes i j := by
  have hlink : s'.substituted? = s.substituted? := by
    funext i
    rw [Schema.substituted?, Schema.substituted?, h.element?_eq, Option.bind_map]
    refine congrArg (Option.bind _) (funext fun e => ?_)
    exact on_elements e.substituted
  have hsize : s'.elements.size = s.elements.size := by rw [h.elements, Array.size_map]
  rw [Schema.substitutes, Schema.substitutes, Schema.headChain, Schema.headChain, hlink, hsize]

/-! ## Values -/

theorem asSimple?_eq (t : TypeId) :
    (s'.typeDef (σ.type t)).asSimple? = σ.numbers.on (s.typeDef t).asSimple? := by
  rw [h.typeDef]
  obtain ⟨_, _, _, _, _, _, content, _⟩ := s.typeDef t
  cases content <;> rfl

theorem asComplex?_eq (t : TypeId) :
    (s'.typeDef (σ.type t)).asComplex? = σ.numbers.on (s.typeDef t).asComplex? := by
  rw [h.typeDef]
  obtain ⟨_, _, _, _, _, _, content, _⟩ := s.typeDef t
  cases content <;> rfl

theorem facets?_eq (t : TypeId) :
    (s'.typeDef (σ.type t)).facets? = (s.typeDef t).facets? := by
  rw [TypeDef.facets?, TypeDef.facets?, h.asSimple?_eq]
  cases (s.typeDef t).asSimple? <;> rfl

theorem item?_eq (t : TypeId) :
    (s'.typeDef (σ.type t)).item? = (s.typeDef t).item?.map σ.type := by
  rw [TypeDef.item?, TypeDef.item?, h.asSimple?_eq]
  cases (s.typeDef t).asSimple? <;> rfl

/-- A literal stands for the same value. -/
theorem readValue_eq (t : TypeId) (literal : String) :
    s'.readValue (σ.type t) literal = s.readValue t literal := by
  have hkind : s'.itemKind? (s'.typeDef (σ.type t)) = s.itemKind? (s.typeDef t) := by
    unfold Schema.itemKind?
    rw [h.item?_eq]
    cases (s.typeDef t).item? with
    | none => rfl
    | some item => simp [h.kind_eq]
  unfold Schema.readValue
  simp only [h.kind_eq, hkind]

omit h

mutual

theorem failures_eq (h : σ.Schemas s s') (t : TypeId) (v : SimpleValue) :
    s'.failures (σ.type t) v = s.failures t v := by
  cases v with
  | atomic x => rw [Schema.failures, Schema.failures, h.facets?_eq]
  | list items =>
    rw [Schema.failures, Schema.failures, h.facets?_eq, h.item?_eq]
    cases (s.typeDef t).item? with
    | none => rfl
    | some item => exact congrArg _ (itemFailures_eq h item items)

theorem itemFailures_eq (h : σ.Schemas s s') (t : TypeId) (vs : List SimpleValue) :
    s'.itemFailures (σ.type t) vs = s.itemFailures t vs := by
  cases vs with
  | nil => rfl
  | cons v vs =>
    rw [Schema.itemFailures, Schema.itemFailures, failures_eq h t v, itemFailures_eq h t vs]

end

end Schemas

end Shift

/-! ## Builders -/

namespace Shift

variable {c c' : Catalog}

/-- A builder has what another one has, where the shift says. -/
structure Mirrors (σ : Shift c c') (b b' : Builder) : Prop where
  schemas : σ.Schemas b.schema b'.schema
  sizes : b.schema.types.size = Kind.all.length + b.origins.size
  sizes' : b'.schema.types.size = Kind.all.length + b'.origins.size
  symbol : ∀ o, b'.symbol? (σ.place o) = (b.symbol? o).map σ.numbers.symbol
  known : ∀ o t, b.symbol? o = some (.type t) → b.schema.Has t
  origin : ∀ t, b'.origin? (σ.type t) = (b.origin? t).map σ.place
  finished : ∀ t, σ.type t ∈ b'.finished ↔ t ∈ b.finished
  openAttributes : b'.openAttributes = b.openAttributes.map σ.place
  openTypes : ∀ t, b'.openTypes.count (σ.type t) = b.openTypes.count t
  others : ∀ o, (b'.symbol? o).isSome → o ∈ σ.others ∨ ∃ p, σ.place p = o
  extra : ∀ t, t ∈ b'.finished ∨ t ∈ b'.openTypes → t ∈ σ.extra ∨ ∃ u, σ.type u = t
  ledger : b'.ledger = b.ledger
  errors : ∀ d ∈ b.ledger.entries.toList, d.isError

namespace Mirrors

variable {σ : Shift c c'} {b b' : Builder} (h : σ.Mirrors b b')

include h

theorem isFinished_eq (t : TypeId) : b'.isFinished (σ.type t) = b.isFinished t := by
  rw [Builder.isFinished, Builder.isFinished, h.origin, Option.isNone_map, Bool.eq_iff_iff,
    Bool.or_eq_true, Bool.or_eq_true, List.contains_iff_mem, List.contains_iff_mem, h.finished]

theorem contains_openTypes (t : TypeId) :
    b'.openTypes.contains (σ.type t) = b.openTypes.contains t := by
  rw [Bool.eq_iff_iff, List.contains_iff_mem, List.contains_iff_mem, ← List.count_pos_iff,
    ← List.count_pos_iff, h.openTypes]

theorem contains_openAttributes (o : DeclarationId) :
    b'.openAttributes.contains (σ.place o) = b.openAttributes.contains o := by
  rw [h.openAttributes, Bool.eq_iff_iff, List.contains_iff_mem, List.contains_iff_mem,
    List.mem_map_of_injective σ.place_inj]

/-- What is known of a declaration. -/
theorem symbolAs_eq {α : Type} {sort : String} {as? : SymbolId → Option α} {f : α → α}
    (hf : ∀ s, as? (σ.numbers.symbol s) = (as? s).map f) {o : DeclarationId} {x : Option α}
    (hx : b.symbolAs sort as? o = .ok x) : b'.symbolAs sort as? (σ.place o) = .ok (x.map f) := by
  unfold Builder.symbolAs at hx ⊢
  rw [h.symbol]
  cases hs : b.symbol? o with
  | none =>
    rw [hs] at hx
    cases hx
    rfl
  | some s =>
    simp only [hs, Option.map_some, hf] at hx ⊢
    cases ha : as? s with
    | none =>
      rw [ha] at hx
      cases hx
    | some a =>
      rw [ha] at hx
      cases hx
      rfl

theorem has_builtin (k : Kind) : b.schema.Has k.typeId := by
  have hk := k.rank_lt
  have hsize := h.sizes
  exact show k.rank < b.schema.types.size by omega

/-! ## Changes -/

theorem withLedger {l : Ledger} (hl : ∀ d ∈ l.entries.toList, d.isError) :
    σ.Mirrors { b with ledger := l } { b' with ledger := l } :=
  ⟨h.schemas, h.sizes, h.sizes', h.symbol, h.known, h.origin, h.finished, h.openAttributes,
    h.openTypes, h.others, h.extra, rfl, hl⟩

theorem openType (t : TypeId) : σ.Mirrors (b.openType t) (b'.openType (σ.type t)) := by
  refine ⟨h.schemas, h.sizes, h.sizes', h.symbol, h.known, h.origin, h.finished, h.openAttributes,
    fun u => ?_, h.others, fun u hu => ?_, h.ledger, h.errors⟩
  · simp only [Builder.openType, List.count_cons, h.openTypes, beq_iff_eq, σ.type_inj.eq_iff]
  · simp only [Builder.openType, List.mem_cons] at hu
    rcases hu with hu | rfl | hu
    · exact h.extra u (Or.inl hu)
    · exact Or.inr ⟨t, rfl⟩
    · exact h.extra u (Or.inr hu)

theorem openAttribute (o : DeclarationId) :
    σ.Mirrors (b.openAttribute o) (b'.openAttribute (σ.place o)) :=
  ⟨h.schemas, h.sizes, h.sizes', h.symbol, h.known, h.origin, h.finished,
    congrArg (σ.place o :: ·) h.openAttributes, h.openTypes, h.others, h.extra, h.ledger, h.errors⟩

/-- A symbol was given to a declaration that both compilations have. -/
theorem others_cons {b₁ : Builder} {o : DeclarationId} {s : SymbolId}
    (hsymbol : ∀ p, b₁.symbol? p = if p = σ.place o then some s else b'.symbol? p)
    (p : DeclarationId) (hp : (b₁.symbol? p).isSome) : p ∈ σ.others ∨ ∃ q, σ.place q = p := by
  rw [hsymbol] at hp
  split at hp
  · rename_i heq
    exact Or.inr ⟨o, heq.symm⟩
  · exact h.others p hp

/-- The next type gets the number that it has to get. -/
theorem type_next : σ.type ⟨b.schema.types.size⟩ = ⟨b'.schema.types.size⟩ := h.schemas.next 0

theorem index_eq_iff (t : TypeId) :
    (σ.type t).index = b'.schema.types.size ↔ t.index = b.schema.types.size := by
  constructor
  · intro heq
    have hid : σ.type t = σ.type ⟨b.schema.types.size⟩ := h.type_next ▸ congrArg TypeId.mk heq
    exact congrArg TypeId.index (σ.type_inj hid)
  · intro heq
    obtain rfl : t = ⟨b.schema.types.size⟩ := congrArg TypeId.mk heq
    rw [h.type_next]

theorem addType {o : DeclarationId} {t : TypeDef}
    (hup : ∀ up, t.base = some up → b.schema.Has up) :
    σ.Mirrors (b.addType o t).2 (b'.addType (σ.place o) (σ.numbers.on t)).2 where
  schemas := by
    refine ⟨fun u => ?_, fun u => ?_, fun n => ?_, ?_, fun u up hu => ?_, h.schemas.attributes,
      h.schemas.elements⟩
    · have hu := h.schemas.has u
      have hnext := h.index_eq_iff u
      simp only [Schema.Has, Builder.addType, Array.size_push] at hu ⊢
      omega
    · rw [Builder.typeDef_addType, Builder.typeDef_addType, h.schemas.typeDef]
      simp only [h.index_eq_iff]
      split <;> rfl
    · have hnext := h.schemas.next (1 + n)
      simpa only [Builder.addType, Array.size_push, Nat.add_assoc] using hnext
    · simpa [Builder.addType] using h.schemas.larger
    · rw [Builder.typeDef_addType] at hu
      split at hu
      · rename_i hnew
        exact hnew ▸ hup up hu
      · exact h.schemas.below u up hu
  sizes := by simp [Builder.addType, h.sizes, Nat.add_assoc]
  sizes' := by simp [Builder.addType, h.sizes', Nat.add_assoc]
  symbol p := by
    rw [Builder.symbol?_addType, Builder.symbol?_addType, h.symbol]
    simp only [σ.place_inj.eq_iff]
    split
    · exact congrArg (some ∘ SymbolId.type) h.type_next.symm
    · rfl
  known p u hp := by
    rw [Builder.symbol?_addType] at hp
    have hmono : b.schema.Has u → (b.addType o t).2.schema.Has u := fun hu =>
      Nat.lt_of_lt_of_le hu (Builder.addType_extends b o t).types_size
    split at hp
    · cases hp
      simp [Schema.Has, Builder.addType]
    · exact hmono (h.known p u hp)
  origin u := by
    rw [Builder.origin_addType h.sizes', Builder.origin_addType h.sizes, h.origin]
    simp only [h.index_eq_iff]
    split <;> rfl
  finished := h.finished
  openAttributes := h.openAttributes
  openTypes := h.openTypes
  others := h.others_cons fun p => Builder.symbol?_addType b' _ p _
  extra := h.extra
  ledger := h.ledger
  errors := h.errors

theorem addAttribute (o : DeclarationId) (a : Attribute) :
    (b'.addAttribute (σ.place o) (σ.numbers.on a)).1 = (b.addAttribute o a).1 ∧
      σ.Mirrors (b.addAttribute o a).2 (b'.addAttribute (σ.place o) (σ.numbers.on a)).2 := by
  have hsize : b'.schema.attributes.size = b.schema.attributes.size := by
    rw [h.schemas.attributes, Array.size_map]
  refine ⟨congrArg AttributeId.mk hsize, ⟨h.schemas.has, h.schemas.typeDef, h.schemas.next,
    h.schemas.larger, h.schemas.below, ?_, h.schemas.elements⟩, h.sizes, h.sizes', fun p => ?_,
    fun p u hp => ?_, h.origin, h.finished, ?_, h.openTypes,
    h.others_cons fun p => Builder.symbol?_addAttribute b' _ p _, h.extra, h.ledger, h.errors⟩
  · simp only [Builder.addAttribute, h.schemas.attributes, Array.map_push]
  · rw [Builder.symbol?_addAttribute, Builder.symbol?_addAttribute, h.symbol]
    simp only [σ.place_inj.eq_iff]
    split
    · exact congrArg (some ∘ SymbolId.attr ∘ AttributeId.mk) hsize
    · rfl
  · rw [Builder.symbol?_addAttribute] at hp
    split at hp
    · cases hp
    · exact h.known p u hp
  · simp only [Builder.addAttribute, h.openAttributes]
    exact (List.map_erase σ.place_inj _).symm

theorem addElement (o : DeclarationId) (e : Element) :
    (b'.addElement (σ.place o) (σ.numbers.on e)).1 = (b.addElement o e).1 ∧
      σ.Mirrors (b.addElement o e).2 (b'.addElement (σ.place o) (σ.numbers.on e)).2 := by
  have hsize : b'.schema.elements.size = b.schema.elements.size := by
    rw [h.schemas.elements, Array.size_map]
  refine ⟨congrArg ElementId.mk hsize, ⟨h.schemas.has, h.schemas.typeDef, h.schemas.next,
    h.schemas.larger, h.schemas.below, h.schemas.attributes, ?_⟩, h.sizes, h.sizes', fun p => ?_,
    fun p u hp => ?_, h.origin, h.finished, h.openAttributes, h.openTypes,
    h.others_cons fun p => Builder.symbol?_addElement b' _ p _, h.extra, h.ledger, h.errors⟩
  · simp only [Builder.addElement, h.schemas.elements, Array.map_push]
  · rw [Builder.symbol?_addElement, Builder.symbol?_addElement, h.symbol]
    simp only [σ.place_inj.eq_iff]
    split
    · exact congrArg (some ∘ SymbolId.element ∘ ElementId.mk) hsize
    · rfl
  · rw [Builder.symbol?_addElement] at hp
    split at hp
    · cases hp
    · exact h.known p u hp

theorem finish (t : TypeId) (x : Content) :
    σ.Mirrors (b.finish t x) (b'.finish (σ.type t) (σ.numbers.on x)) := by
  have hsize (b : Builder) (t : TypeId) (x : Content) :
      (b.finish t x).schema.types.size = b.schema.types.size := Array.size_modify
  refine ⟨⟨fun u => ?_, fun u => ?_, fun n => ?_, ?_, fun u up hu => ?_, h.schemas.attributes,
    h.schemas.elements⟩, ?_, ?_, h.symbol, fun p u hp => ?_, h.origin, fun u => ?_,
    h.openAttributes, fun u => ?_, h.others, fun u hu => ?_, h.ledger, h.errors⟩
  · rw [Schema.Has, Schema.Has, hsize, hsize]
    exact h.schemas.has u
  · by_cases hu : u = t
    · subst hu
      by_cases hhas : b.schema.Has u
      · rw [Builder.typeDef_finish_self ((h.schemas.has u).2 hhas), Builder.typeDef_finish_self hhas,
          h.schemas.typeDef]
        rfl
      · have hhas' : ¬b'.schema.Has (σ.type u) := fun hu => hhas ((h.schemas.has u).1 hu)
        rw [Builder.typeDef_finish_of_not_has hhas', Builder.typeDef_finish_of_not_has hhas,
          h.schemas.typeDef]
    · rw [Builder.typeDef_finish_of_ne (σ.type_inj.ne hu), Builder.typeDef_finish_of_ne hu,
        h.schemas.typeDef]
  · rw [hsize, hsize]
    exact h.schemas.next n
  · rw [hsize, hsize]
    exact h.schemas.larger
  · obtain ⟨y, hy⟩ := Builder.typeDef_finish b t x u
    rw [hy] at hu
    exact h.schemas.below u up hu
  · rw [hsize]
    exact h.sizes
  · rw [hsize]
    exact h.sizes'
  · rw [Schema.Has, hsize]
    exact h.known p u hp
  · simp only [Builder.finish, List.mem_cons, h.finished, σ.type_inj.eq_iff]
  · by_cases hu : u = t
    · subst hu
      simp only [Builder.finish, List.count_erase_self, h.openTypes]
    · simp only [Builder.finish, List.count_erase_of_ne (σ.type_inj.ne hu),
        List.count_erase_of_ne hu, h.openTypes]
  · simp only [Builder.finish, List.mem_cons] at hu
    rcases hu with (rfl | hu) | hu
    · exact Or.inr ⟨t, rfl⟩
    · exact h.extra u (Or.inl hu)
    · exact h.extra u (Or.inr (List.mem_of_mem_erase hu))

end Mirrors

end Shift

end Schemata
