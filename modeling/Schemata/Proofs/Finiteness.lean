import Schemata.Proofs.BuiltTrees
import Schemata.Proofs.Compilation
import Schemata.Proofs.Depths

/-!
# Finite trees

The value that is read at an object is the object with the values at its parts (`Tree.expand?`); an
attribute or an element has one part at most, the one at the end of its references. In a tree
without loops this ends within as many levels as there are objects (`exists_expansion`), and so does
a validation, which then needs no bound on the depth. The value at an object that is a part of
itself has no end (`expand?_eq_none`), and such objects can be built.
-/

namespace Schemata

open Relation

/-- The value that is read at an object: the object, and the values at its parts. -/
inductive Expansion
  | node (object : Object) (parts : List Expansion)

namespace Tree

variable {t : Tree} {x y : ObjectId}

/-- The parts of an object: what an attribute or an element holds, be it through references, and
what any other object owns. -/
def parts (t : Tree) (x : ObjectId) : List ObjectId :=
  match t.valueOf x with
  | .ok value => value.toList
  | .error _ => t.owned x

/-- The value that is read at an object, if it ends within a number of levels. -/
def expand? (t : Tree) : Nat → ObjectId → Option Expansion
  | 0, _ => none
  | levels + 1, x => do
    let o ← t.object? x
    let parts ← (t.parts x).mapM (t.expand? levels)
    return .node o parts

theorem leads_of_mem_parts (hy : y ∈ t.parts x) : TransGen t.Leads x y := by
  unfold parts at hy
  split at hy
  · rename_i value hvalue
    rw [Option.mem_toList] at hy
    subst hy
    exact leads_of_valueOf hvalue
  · exact .single (Or.inl hy)

/-! ## Values that end -/

section Lists

variable {α β : Type} {l : List α}

theorem exists_mapM {f : Nat → α → Option β} {p : Nat → Prop}
    (h : ∀ a ∈ l, ∃ b, ∀ n, p n → f n a = some b) : ∃ bs, ∀ n, p n → l.mapM (f n) = some bs := by
  induction l with
  | nil => exact ⟨[], fun _ _ => rfl⟩
  | cons a l ih =>
    obtain ⟨⟨b, hb⟩, hl⟩ := List.forall_mem_cons.1 h
    obtain ⟨bs, hbs⟩ := ih hl
    refine ⟨b :: bs, fun n hn => ?_⟩
    rw [List.mapM_cons, hb n hn, hbs n hn]
    rfl

theorem exists_of_mapM {f : α → Option β} {bs : List β} (h : l.mapM f = some bs) :
    ∀ a ∈ l, ∃ b, f a = some b := by
  induction l generalizing bs with
  | nil =>
    intro a ha
    cases ha
  | cons a l ih =>
    rw [List.mapM_cons] at h
    obtain ⟨b, hb, h⟩ := Option.bind_eq_some_iff.1 h
    obtain ⟨bs, hbs, -⟩ := Option.bind_eq_some_iff.1 h
    exact List.forall_mem_cons.2 ⟨⟨b, hb⟩, ih hbs⟩

end Lists

/-- Without loops the value at an object ends, and it does not depend on the number of levels. -/
theorem exists_expansion (h : t.WellFormed) (hl : t.Loopless) (hx : t.Has x) :
    ∃ u, ∀ levels, t.rank x < levels → t.expand? levels x = some u := by
  induction hn : t.rank x using Nat.strong_induction_on generalizing x with
  | _ n ih =>
    have hparts : ∀ y ∈ t.parts x, ∃ u, ∀ levels, n ≤ levels → t.expand? levels y = some u := by
      intro y hy
      have hxy := leads_of_mem_parts hy
      have hrank := hl.rank_lt h hxy
      obtain ⟨z, -, hzy⟩ := TransGen.tail'_iff.1 hxy
      obtain ⟨u, hu⟩ := ih (t.rank y) (hn ▸ hrank) (h.has_of_leads hzy) rfl
      exact ⟨u, fun levels hlevels => hu levels (by omega)⟩
    obtain ⟨o, ho⟩ := has_iff_object?.1 hx
    obtain ⟨us, hus⟩ := exists_mapM hparts
    refine ⟨.node o us, fun levels hlevels => ?_⟩
    obtain ⟨levels, rfl⟩ : ∃ k, levels = k + 1 := ⟨levels - 1, by omega⟩
    rw [expand?, ho, hus levels (by omega)]
    rfl

/-! ## Values without an end -/

/-- What is a part of an object ends earlier. -/
theorem exists_expand?_of_transGen (hxy : TransGen (fun x y => y ∈ t.parts x) x y) {levels : Nat}
    {u : Expansion} (hx : t.expand? levels x = some u) :
    ∃ k < levels, ∃ u', t.expand? k y = some u' := by
  have hstep : ∀ {levels x y u}, t.expand? levels x = some u → y ∈ t.parts x →
      ∃ k < levels, ∃ u', t.expand? k y = some u' := by
    intro levels x y u hx hy
    cases levels with
    | zero => cases hx
    | succ levels =>
      obtain ⟨o, -, hx⟩ := Option.bind_eq_some_iff.1 hx
      obtain ⟨us, hus, -⟩ := Option.bind_eq_some_iff.1 hx
      exact ⟨levels, Nat.lt_succ_self _, exists_of_mapM hus y hy⟩
  induction hxy with
  | single hxb => exact hstep hx hxb
  | tail _ hbc ih =>
    obtain ⟨k, hk, u', hu'⟩ := ih
    obtain ⟨m, hm, hc⟩ := hstep hu' hbc
    exact ⟨m, hm.trans hk, hc⟩

/-- The value at an object that is a part of itself has no end. -/
theorem expand?_eq_none (hx : TransGen (fun x y => y ∈ t.parts x) x x) (levels : Nat) :
    t.expand? levels x = none := by
  induction levels using Nat.strong_induction_on with
  | _ levels ih =>
    cases hu : t.expand? levels x with
    | none => rfl
    | some u =>
      obtain ⟨k, hk, u', hu'⟩ := exists_expand?_of_transGen hx hu
      cases (ih k hk).symm.trans hu'

/-! ## Built trees -/

/-- A tree that is built by operations none of which makes a link that leads back is without loops,
and in general it is so if and only if no reference leads back to its holder. Then the value that is
read at each object is finite, and the bound on the depth of a validation does not matter once it is
at least the number of objects. -/
theorem finite_of_built {ops : List Operation} (ht : performAll {} ops = t) :
    (({} : Tree).LeadsForward ops → t.Loopless) ∧
    (t.Loopless ↔ ∀ x y, t.target? x = some y → ¬ReflTransGen t.Leads y x) ∧
    (t.Loopless →
      (∀ x, t.Has x → ∃ u, ∀ levels, t.size ≤ levels → t.expand? levels x = some u) ∧
      ∀ (v : Validator) (depth : Nat), t.size ≤ v.limits.objectDepth → t.size ≤ depth →
        (∀ (σ : Type) (hooks : Hooks σ) (x : ObjectId) (type : TypeId),
          (v.withDepth depth).validateWith hooks t x type = v.validateWith hooks t x type) ∧
        ∀ (x : ObjectId) (head : ElementId) (ledger : Ledger),
          (v.withDepth depth).validateElement t x head ledger =
            v.validateElement t x head ledger) := by
  have h := wellFormed_of_built ht
  refine ⟨fun hops => ?_, loopless_iff h, fun hl => ⟨fun x hx => ?_, fun v depth hv hdepth => ?_⟩⟩
  · exact ht ▸ loopless_performAll wellFormed_empty loopless_empty hops
  · obtain ⟨u, hu⟩ := exists_expansion h hl hx
    exact ⟨u, fun levels hlevels => hu levels ((hl.rank_lt_size h hx).trans_le hlevels)⟩
  · exact ⟨fun _ _ x type => Validator.validateWith_withDepth h hl hv hdepth x type,
      fun x head ledger => Validator.validateElement_withDepth h hl hv hdepth x head ledger⟩

/-- An element with a value, and another one that refers to it, both below one object. -/
def mirror : List Operation := [
  .newElement (.unqualified "first"), .newSimple none (.atomic (.string "x")),
  .setValue ⟨0⟩ (some ⟨1⟩), .newElement (.unqualified "second"), .setReference ⟨2⟩ ⟨0⟩,
  .newChildSet none, .addChild ⟨3⟩ ⟨0⟩, .addChild ⟨3⟩ ⟨2⟩, .newComplex none, .setChildren ⟨4⟩ ⟨3⟩]

/-- The mirror has no loops, so that it is read and validated in full. -/
theorem mirror_ends : (performAll {} mirror).Loopless ∧
    (∃ u, ∀ levels, 5 ≤ levels → (performAll {} mirror).expand? levels ⟨4⟩ = some u) ∧
    ∀ (s : Schema) (depth : Nat) (type : TypeId), 5 ≤ depth →
      (Validator.withDepth { schema := s } depth).validateWith Hooks.none (performAll {} mirror)
        ⟨4⟩ type =
      Validator.validateWith { schema := s } Hooks.none (performAll {} mirror) ⟨4⟩ type := by
  have hbuilt : performAll {} mirror = performAll {} mirror := rfl
  obtain ⟨-, hiff, hends⟩ := finite_of_built hbuilt
  have hsize : (performAll {} mirror).size = 5 := by decide +kernel
  have htarget : ∀ i < 5, (performAll {} mirror).target? ⟨i⟩ =
      if i = 2 then some ⟨0⟩ else none := by decide +kernel
  have hl : (performAll {} mirror).Loopless := by
    refine hiff.2 fun x y hxy hyx => ?_
    have hx : x.index < 5 := hsize ▸ has_of_target? hxy
    rw [htarget x.index hx] at hxy
    split at hxy
    · rename_i hi
      obtain rfl := Option.some.inj hxy
      have hmem := mem_of_reaches (s := [⟨0⟩, ⟨1⟩]) (by decide +kernel) (by simp) hyx
      obtain ⟨i⟩ := x
      simp_all
    · cases hxy
  obtain ⟨hexpand, hvalidate⟩ := hends hl
  rw [hsize] at hexpand hvalidate
  have hbound : 5 ≤ (Validator.limits { schema := .builtin }).objectDepth := by decide
  refine ⟨hl, hexpand ⟨4⟩ (by decide +kernel), fun s depth type hdepth => ?_⟩
  exact (hvalidate { schema := s } depth hbound hdepth).1 Unit Hooks.none ⟨4⟩ type

/-- An element that refers to one that it is below. -/
def knot : List Operation := [
  .newElement (.unqualified "next"), .newComplex none, .newChildSet none,
  .newElement (.unqualified "next"), .setValue ⟨0⟩ (some ⟨1⟩), .setChildren ⟨1⟩ ⟨2⟩,
  .addChild ⟨2⟩ ⟨3⟩, .setReference ⟨3⟩ ⟨0⟩]

/-- A type of objects each of which may hold a next one. -/
def links : List NamespaceDecl :=
  [{ uri := "urn:links"
     members := [
      .type { name := ⟨"Link", none⟩
              body := .complex none (some (.set {
                kind := .sequence
                items := [.element {
                  name := ⟨"next", none⟩, type := .ofText "Link", isNullable := true }] })) }] }]

/-- The knot leads back to itself, the value in it has no end, and what ends its validation is the
bound, which is more than the number of objects. -/
theorem knot_leads_back : TransGen (performAll {} knot).Leads ⟨0⟩ ⟨0⟩ ∧
    (∀ levels, (performAll {} knot).expand? levels ⟨1⟩ = none) ∧
    Accepts links {} (schemaOf links {}) ∧ (performAll {} knot).size = 4 ∧
    (Validator.validate ⟨schemaOf links {}, .strict, { objectDepth := 8 }⟩ (performAll {} knot) ⟨1⟩
      ⟨22⟩ {}).2.count .objectTooDeep = 1 := by
  have h01 : (performAll {} knot).Leads ⟨0⟩ ⟨1⟩ := by decide +kernel
  have h12 : (performAll {} knot).Leads ⟨1⟩ ⟨2⟩ := by decide +kernel
  have h23 : (performAll {} knot).Leads ⟨2⟩ ⟨3⟩ := by decide +kernel
  have h30 : (performAll {} knot).Leads ⟨3⟩ ⟨0⟩ := by decide +kernel
  have hparts : ∀ i ∈ [1, 2, 3],
      (performAll {} knot).parts ⟨i⟩ = [⟨if i = 3 then 1 else i + 1⟩] := by decide +kernel
  have hpart : ∀ i ∈ [1, 2, 3],
      ⟨if i = 3 then 1 else i + 1⟩ ∈ (performAll {} knot).parts ⟨i⟩ := by
    intro i hi
    rw [hparts i hi]
    exact List.mem_singleton_self _
  refine ⟨.head h01 (.head h12 (.head h23 (.single h30))), expand?_eq_none ?_,
    accepts_schemaOf (by decide +kernel), by decide +kernel, by decide +kernel⟩
  exact .head (hpart 1 (by simp)) (.head (hpart 2 (by simp)) (.single (hpart 3 (by simp))))

end Tree

end Schemata
