import Mathlib.Data.List.Basic
import Mathlib.Data.Nat.Basic
import Mathlib.Logic.Relation
import Schemata.Schema.Derivation

/-!
# Derivation in a growing schema

`derives` and `substitutes` walk a link for a bounded number of steps. Where links lead to smaller
numbers only (`Schema.Ordered`), the bound is no restriction: the walks decide whether one symbol is
reached from another one, so both relations are transitive.

While a schema is made, symbols are added and types get their content, and nothing else changes
(`Schema.Extends`). Whatever derives or substitutes keeps doing so.
-/

namespace Schemata

open Relation

/-! ## Walks -/

section Follow

variable {α : Type} {link link' : α → Option α}

theorem mem_follow_self (link : α → Option α) (n : Nat) (a : α) : a ∈ follow link n a := by
  cases n <;> simp [follow]

/-- A walk along more links, or for more steps, reaches at least as much. -/
theorem mem_follow_mono {n n' : Nat} (hn : n ≤ n')
    (hl : ∀ x y, link x = some y → link' x = some y) {a b : α} (h : b ∈ follow link n a) :
    b ∈ follow link' n' a := by
  induction n generalizing n' a with
  | zero =>
    rw [follow, List.mem_singleton] at h
    exact h ▸ mem_follow_self link' n' a
  | succ n ih =>
    obtain ⟨m, rfl⟩ : ∃ m, n' = m + 1 := ⟨n' - 1, by omega⟩
    rw [follow, List.mem_cons] at h ⊢
    rcases h with rfl | h
    · exact Or.inl rfl
    · right
      cases hx : link a with
      | none => simp [hx] at h
      | some x =>
        rw [hx, Option.elim_some] at h
        rw [hl a x hx, Option.elim_some]
        exact ih (by omega) h

theorem reflTransGen_of_mem_follow {n : Nat} {a b : α} (h : b ∈ follow link n a) :
    ReflTransGen (fun x y => link x = some y) a b := by
  induction n generalizing a with
  | zero =>
    rw [follow, List.mem_singleton] at h
    exact h ▸ .refl
  | succ n ih =>
    rw [follow, List.mem_cons] at h
    rcases h with rfl | h
    · exact .refl
    · cases hx : link a with
      | none => simp [hx] at h
      | some x =>
        rw [hx, Option.elim_some] at h
        exact .head hx (ih h)

/-- A walk reaches everything if the links go down in a rank and there are enough steps for the rank
of the start. -/
theorem mem_follow_of_reflTransGen (rank : α → Nat) (hr : ∀ x y, link x = some y → rank y < rank x)
    {n : Nat} {a b : α} (hn : rank a ≤ n)
    (h : ReflTransGen (fun x y => link x = some y) a b) : b ∈ follow link n a := by
  induction n generalizing a with
  | zero =>
    rcases h.cases_head with rfl | ⟨x, hx, -⟩
    · exact mem_follow_self link 0 a
    · have := hr a x hx
      omega
  | succ n ih =>
    rcases h.cases_head with rfl | ⟨x, hx, h⟩
    · exact mem_follow_self link (n + 1) a
    · have := hr a x hx
      rw [follow, List.mem_cons, hx, Option.elim_some]
      exact Or.inr (ih (by omega) h)

end Follow

namespace Schema

/-! ## Order -/

/-- The schema gave out the number. -/
def Has (s : Schema) (id : TypeId) : Prop := id.index < s.types.size

instance (s : Schema) (id : TypeId) : Decidable (s.Has id) :=
  inferInstanceAs (Decidable (_ < _))

/-- Every symbol comes after the one that it is based on. -/
structure Ordered (s : Schema) : Prop where
  base : ∀ id up, (s.typeDef id).base = some up → up.index < id.index
  substituted : ∀ id up, s.substituted? id = some up → up.index < id.index

variable {s s' s'' : Schema}

theorem typeDef_of_not_has {id : TypeId} (h : ¬s.Has id) :
    s.typeDef id = Kind.complexType.builtin := by
  rw [typeDef, Array.getElem?_eq_none (not_lt.1 h)]
  rfl

theorem has_of_base {id up : TypeId} (h : (s.typeDef id).base = some up) : s.Has id := by
  by_contra hn
  rw [typeDef_of_not_has hn] at h
  cases h

/-- A number that the schema lacks does not stand for a simple type. -/
theorem has_of_isSimple {id : TypeId} (h : (s.typeDef id).kind.isSimple) : s.Has id := by
  by_contra hn
  rw [typeDef_of_not_has hn] at h
  cases h

theorem mem_element_of_substituted {id up : ElementId} (h : s.substituted? id = some up) :
    ∃ e, s.element? id = some e ∧ e.substituted = some up :=
  Option.bind_eq_some_iff.1 h

theorem index_lt_of_element {id : ElementId} {e : Element} (h : s.element? id = some e) :
    id.index < s.elements.size :=
  (Array.getElem?_eq_some_iff.1 h).1

/-- What is above a type. -/
theorem derives_iff (ho : s.Ordered) {t up : TypeId} :
    s.derives t up ↔ ReflTransGen (fun x y => (s.typeDef x).base = some y) t up := by
  rw [derives, List.contains_iff_mem, baseChain]
  refine ⟨reflTransGen_of_mem_follow, fun h => ?_⟩
  rcases h.cases_head with rfl | ⟨x, hx, -⟩
  · exact mem_follow_self _ _ _
  · exact mem_follow_of_reflTransGen TypeId.index ho.base (Nat.le_of_lt (has_of_base hx)) h

theorem derives_trans (ho : s.Ordered) {t u v : TypeId} (htu : s.derives t u)
    (huv : s.derives u v) : s.derives t v :=
  (derives_iff ho).2 (((derives_iff ho).1 htu).trans ((derives_iff ho).1 huv))

theorem derives_of_base {t up : TypeId} (h : (s.typeDef t).base = some up) :
    s.derives t up := by
  have := has_of_base h
  obtain ⟨n, hn⟩ : ∃ n, s.types.size = n + 1 := ⟨s.types.size - 1, by unfold Has at this; omega⟩
  rw [derives, List.contains_iff_mem, baseChain, hn, follow, h]
  exact List.mem_cons_of_mem _ (mem_follow_self _ _ _)

/-- What an element may stand in for. -/
theorem substitutes_iff (ho : s.Ordered) {e head : ElementId} :
    s.substitutes e head ↔ ReflTransGen (fun x y => s.substituted? x = some y) e head := by
  rw [substitutes, List.contains_iff_mem, headChain]
  refine ⟨reflTransGen_of_mem_follow, fun h => ?_⟩
  rcases h.cases_head with rfl | ⟨x, hx, -⟩
  · exact mem_follow_self _ _ _
  · obtain ⟨e, he, -⟩ := mem_element_of_substituted hx
    exact mem_follow_of_reflTransGen ElementId.index ho.substituted
      (Nat.le_of_lt (index_lt_of_element he)) h

theorem substitutes_trans (ho : s.Ordered) {e f g : ElementId} (hef : s.substitutes e f)
    (hfg : s.substitutes f g) : s.substitutes e g :=
  (substitutes_iff ho).2 (((substitutes_iff ho).1 hef).trans ((substitutes_iff ho).1 hfg))

/-! ## Growth -/

/-- The later schema has every symbol of the earlier one. Only the content of types may differ. -/
structure Extends (s s' : Schema) : Prop where
  types_size : s.types.size ≤ s'.types.size
  elements_size : s.elements.size ≤ s'.elements.size
  base : ∀ id, s.Has id → (s'.typeDef id).base = (s.typeDef id).base
  kind : ∀ id, s.Has id → (s'.typeDef id).kind = (s.typeDef id).kind
  derivation : ∀ id, s.Has id → (s'.typeDef id).derivation = (s.typeDef id).derivation
  attr : ∀ id a, s.attribute? id = some a → s'.attribute? id = some a
  element : ∀ id e, s.element? id = some e → s'.element? id = some e

namespace Extends

theorem refl (s : Schema) : s.Extends s :=
  ⟨le_rfl, le_rfl, fun _ _ => rfl, fun _ _ => rfl, fun _ _ => rfl, fun _ _ h => h,
    fun _ _ h => h⟩

theorem has (h : s.Extends s') {id : TypeId} (hid : s.Has id) : s'.Has id :=
  lt_of_lt_of_le hid h.types_size

theorem trans (h : s.Extends s') (h' : s'.Extends s'') : s.Extends s'' where
  types_size := Nat.le_trans h.types_size h'.types_size
  elements_size := Nat.le_trans h.elements_size h'.elements_size
  base id hid := (h'.base id (h.has hid)).trans (h.base id hid)
  kind id hid := (h'.kind id (h.has hid)).trans (h.kind id hid)
  derivation id hid := (h'.derivation id (h.has hid)).trans (h.derivation id hid)
  attr id a ha := h'.attr id a (h.attr id a ha)
  element id e he := h'.element id e (h.element id e he)

theorem base_eq_some (h : s.Extends s') {id up : TypeId} (hb : (s.typeDef id).base = some up) :
    (s'.typeDef id).base = some up :=
  (h.base id (has_of_base hb)).trans hb

theorem isSimple (h : s.Extends s') {id : TypeId} (hk : (s.typeDef id).kind.isSimple) :
    (s'.typeDef id).kind.isSimple := by
  rw [h.kind id (has_of_isSimple hk)]
  exact hk

theorem derives (h : s.Extends s') {t up : TypeId} (hd : s.derives t up) :
    s'.derives t up := by
  rw [Schema.derives, List.contains_iff_mem] at hd ⊢
  exact mem_follow_mono h.types_size (fun _ _ hb => h.base_eq_some hb) hd

theorem substitutes (h : s.Extends s') {e head : ElementId} (hs : s.substitutes e head) :
    s'.substitutes e head := by
  rw [Schema.substitutes, List.contains_iff_mem] at hs ⊢
  refine mem_follow_mono h.elements_size (fun x y hx => ?_) hs
  obtain ⟨f, hf, hy⟩ := mem_element_of_substituted hx
  exact Option.bind_eq_some_iff.2 ⟨f, h.element x f hf, hy⟩

end Extends

end Schema

end Schemata
