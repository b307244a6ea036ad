import Schemata.Facets.Narrowing
import Schemata.Proofs.Values

/-!
# Narrowed facets admit less

`FacetSet.Narrows` compares facets one by one: bounds on counts move inwards, bounds on values stay
or are replaced by tighter ones, and an enumeration keeps values of the other one only. Patterns are
left out, since those of a restriction add to those of its base.

Every result of `narrow` narrows the facets that it started from, and narrower facets report every
code but that of patterns which the wider ones report.
-/

namespace Schemata

/-! ## Bounds on values -/

namespace Bound

/-- A tighter lower bound lets less through. -/
theorem allowsFromBelow_of_narrowsLeast {base b : Bound} (h : base.narrowsLeast b) {v : Atomic}
    (hv : b.allowsFromBelow v) : base.allowsFromBelow v := by
  unfold narrowsLeast at h
  unfold allowsFromBelow at hv ⊢
  cases hb : b.value.compare? base.value with
  | none => simp [hb] at h
  | some p =>
    cases ho : v.compare? b.value with
    | none => simp [ho] at hv
    | some o =>
      rw [hb] at h
      rw [ho] at hv
      have ha : Ordering.agrees o p := by
        cases o <;> cases p <;> simp_all [Ordering.agrees]
      rw [Atomic.compare?_trans ho hb ha]
      cases o <;> cases p <;> simp_all

/-- A tighter upper bound lets less through. -/
theorem allowsFromAbove_of_narrowsGreatest {base b : Bound} (h : base.narrowsGreatest b)
    {v : Atomic} (hv : b.allowsFromAbove v) : base.allowsFromAbove v := by
  unfold narrowsGreatest at h
  unfold allowsFromAbove at hv ⊢
  cases hb : b.value.compare? base.value with
  | none => simp [hb] at h
  | some p =>
    cases ho : v.compare? b.value with
    | none => simp [ho] at hv
    | some o =>
      rw [hb] at h
      rw [ho] at hv
      have ha : Ordering.agrees o p := by
        cases o <;> cases p <;> simp_all [Ordering.agrees]
      rw [Atomic.compare?_trans ho hb ha]
      cases o <;> cases p <;> simp_all

end Bound

/-! ## The relation -/

namespace FacetSet

/-- Facets that are at least as tight as others, patterns aside. -/
structure Narrows (f base : FacetSet) : Prop where
  leastLength : ∀ n, base.leastLength = some n → ∃ m, f.leastLength = some m ∧ n ≤ m
  greatestLength : ∀ n, base.greatestLength = some n → ∃ m, f.greatestLength = some m ∧ m ≤ n
  precision : ∀ n, base.precision = some n → ∃ m, f.precision = some m ∧ m ≤ n
  scale : ∀ n, base.scale = some n → ∃ m, f.scale = some m ∧ m ≤ n
  least : ∀ b, base.least = some b → ∃ c, f.least = some c ∧ (c = b ∨ b.narrowsLeast c)
  greatest : ∀ b, base.greatest = some b →
    ∃ c, f.greatest = some c ∧ (c = b ∨ b.narrowsGreatest c)
  enumeration : ∀ items, base.enumeration = some items →
    ∃ own, f.enumeration = some own ∧ ∀ item ∈ own, enumerates items item.value

theorem enumerates_of_mem {items : List EnumItem} {item : EnumItem} (h : item ∈ items) :
    enumerates items item.value :=
  List.any_eq_true.2 ⟨item, h, item.value.equal_refl⟩

theorem Narrows.refl (f : FacetSet) : f.Narrows f where
  leastLength n h := ⟨n, h, le_rfl⟩
  greatestLength n h := ⟨n, h, le_rfl⟩
  precision n h := ⟨n, h, le_rfl⟩
  scale n h := ⟨n, h, le_rfl⟩
  least b h := ⟨b, h, Or.inl rfl⟩
  greatest b h := ⟨b, h, Or.inl rfl⟩
  enumeration items h := ⟨items, h, fun _ => enumerates_of_mem⟩

theorem narrows_empty (f : FacetSet) : f.Narrows {} := by
  constructor <;> intro _ h <;> cases h

/-! ## Violations -/

/-- The codes of violations other than those of patterns. -/
def hardCodes (vs : List FacetViolation) : List Code :=
  (vs.map FacetViolation.code).filter (· != .patternNotMatched)

theorem mem_hardCodes {vs : List FacetViolation} {c : Code} :
    c ∈ hardCodes vs ↔ (∃ v ∈ vs, v.code = c) ∧ c ≠ .patternNotMatched := by
  simp [hardCodes]

theorem hardCodes_append (vs ws : List FacetViolation) :
    hardCodes (vs ++ ws) = hardCodes vs ++ hardCodes ws := by
  simp [hardCodes]

theorem mem_violationUnless {holds : Bool} {v w : FacetViolation} :
    w ∈ violationUnless holds v ↔ holds = false ∧ w = v := by
  cases holds <;> simp [violationUnless]

theorem violationUnless_eq_nil {holds : Bool} {v : FacetViolation} :
    violationUnless holds v = [] ↔ holds := by
  cases holds <;> simp [violationUnless]

namespace Narrows

variable {f base : FacetSet}

theorem allowsLength (h : f.Narrows base) {n : Nat} (hn : f.allowsLength n) :
    base.allowsLength n := by
  simp only [FacetSet.allowsLength, Bool.and_eq_true, Option.all_eq_true,
    decide_eq_true_eq] at hn ⊢
  refine ⟨fun b hb => ?_, fun b hb => ?_⟩
  · obtain ⟨m, hm, hbm⟩ := h.leastLength b hb
    exact hbm.trans (hn.1 m hm)
  · obtain ⟨m, hm, hbm⟩ := h.greatestLength b hb
    exact (hn.2 m hm).trans hbm

theorem allowsRange (h : f.Narrows base) {v : Atomic}
    (hv : f.least.all (·.allowsFromBelow v) && f.greatest.all (·.allowsFromAbove v)) :
    base.least.all (·.allowsFromBelow v) && base.greatest.all (·.allowsFromAbove v) := by
  simp only [Bool.and_eq_true, Option.all_eq_true] at hv ⊢
  refine ⟨fun b hb => ?_, fun b hb => ?_⟩
  · rcases h.least b hb with ⟨c, hc, rfl | hbc⟩
    · exact hv.1 c hc
    · exact Bound.allowsFromBelow_of_narrowsLeast hbc (hv.1 c hc)
  · rcases h.greatest b hb with ⟨c, hc, rfl | hbc⟩
    · exact hv.2 c hc
    · exact Bound.allowsFromAbove_of_narrowsGreatest hbc (hv.2 c hc)

theorem enumerates (h : f.Narrows base) {v : Atomic}
    (hv : f.enumeration.all (FacetSet.enumerates · v)) :
    base.enumeration.all (FacetSet.enumerates · v) := by
  simp only [Option.all_eq_true] at hv ⊢
  intro items hi
  obtain ⟨own, ho, hown⟩ := h.enumeration items hi
  obtain ⟨item, hitem, hv⟩ := List.any_eq_true.1 (hv own ho)
  obtain ⟨other, hother, heq⟩ := List.any_eq_true.1 (hown item hitem)
  exact List.any_eq_true.2 ⟨other, hother, Atomic.equal_trans heq hv⟩

/-- A condition that is harder to meet is violated whenever the easier one is. -/
theorem code_mem {p q : Bool} {v w x : FacetViolation} (hx : x ∈ violationUnless q w)
    (hpq : p → q) (hvw : v.code = w.code) : ∃ y ∈ violationUnless p v, y.code = x.code := by
  obtain ⟨hq, rfl⟩ := mem_violationUnless.1 hx
  refine ⟨v, mem_violationUnless.2 ⟨?_, rfl⟩, hvw⟩
  cases p with
  | false => rfl
  | true => simp [hpq rfl] at hq

/-- A count that a bound on it does not allow is not allowed by a smaller bound. -/
theorem count_codes {bound wider : Option Nat} {count : Nat} {violation : Nat → FacetViolation}
    (h : ∀ n, wider = some n → ∃ m, bound = some m ∧ m ≤ n)
    (hcode : ∀ m n, (violation m).code = (violation n).code) {x : FacetViolation}
    (hx : x ∈ wider.elim [] fun n => violationUnless (count ≤ n) (violation n)) :
    ∃ y ∈ bound.elim [] fun n => violationUnless (count ≤ n) (violation n), y.code = x.code := by
  cases hw : wider with
  | none => simp [hw] at hx
  | some n =>
    obtain ⟨m, hm, hmn⟩ := h n hw
    rw [hw, Option.elim_some] at hx
    rw [hm, Option.elim_some]
    refine code_mem hx ?_ (hcode m n)
    simpa using fun hc => Nat.le_trans hc hmn

theorem digit_codes (h : f.Narrows base) {v : Atomic} {x : FacetViolation}
    (hx : x ∈ base.digitViolations v) : ∃ y ∈ f.digitViolations v, y.code = x.code := by
  unfold digitViolations at hx ⊢
  cases hd : v.digits? with
  | none => simp [hd] at hx
  | some d =>
    simp only [hd, List.mem_append] at hx ⊢
    rcases hx with hx | hx
    · obtain ⟨y, hy, hyc⟩ := count_codes h.precision (fun _ _ => rfl) hx
      exact ⟨y, Or.inl hy, hyc⟩
    · obtain ⟨y, hy, hyc⟩ := count_codes h.scale (fun _ _ => rfl) hx
      exact ⟨y, Or.inr hy, hyc⟩

/-- Narrower facets report every code but that of patterns which wider ones report. -/
theorem hardCodes (h : f.Narrows base) (v : SimpleValue) :
    FacetSet.hardCodes (base.violations v) ⊆ FacetSet.hardCodes (f.violations v) := by
  intro c hc
  rw [mem_hardCodes] at hc ⊢
  refine ⟨?_, hc.2⟩
  obtain ⟨⟨x, hx, rfl⟩, hp⟩ := hc
  simp only [violations, List.mem_append] at hx ⊢
  rcases hx with hx | hx
  · cases hn : v.length? with
    | none => simp [hn] at hx
    | some n =>
      rw [hn, Option.elim_some] at hx
      obtain ⟨y, hy, hyc⟩ := code_mem (v := .length n f.leastLength f.greatestLength) hx
        h.allowsLength rfl
      exact ⟨y, Or.inl hy, hyc⟩
  · cases ha : v.asAtomic? with
    | none => simp [ha] at hx
    | some a =>
      simp only [ha, Option.elim_some, atomicViolations, List.mem_append] at hx ⊢
      rcases hx with ((hx | hx) | hx) | hx
      · obtain ⟨y, hy, hyc⟩ := h.digit_codes hx
        exact ⟨y, Or.inr (Or.inl (Or.inl (Or.inl hy))), hyc⟩
      · obtain ⟨y, hy, hyc⟩ := code_mem (v := .valueRange a) hx h.allowsRange rfl
        exact ⟨y, Or.inr (Or.inl (Or.inl (Or.inr hy))), hyc⟩
      · obtain ⟨y, hy, hyc⟩ := code_mem (v := .enumeration a) hx h.enumerates rfl
        exact ⟨y, Or.inr (Or.inl (Or.inr hy)), hyc⟩
      · obtain ⟨-, rfl⟩ := mem_violationUnless.1 hx
        exact absurd rfl hp

end Narrows

end FacetSet

/-! ## Narrowing -/

/-- A literal is read as the value. -/
def Atomic.IsReadAs (v : Atomic) (k : Kind) : Prop := ∃ literal, Atomic.read k literal = .ok (some v)

theorem bind_eq_ok {ε α β : Type} {x : Except ε α} {f : α → Except ε β} {b : β}
    (h : x >>= f = .ok b) : ∃ a, x = .ok a ∧ f a = .ok b := by
  cases x with
  | error e => cases h
  | ok a => exact ⟨a, rfl, h⟩

namespace Narrowing

open FacetSet (Narrows)

variable {base : FacetSet}

/-! ### One facet

Each step replaces a facet of the result by a tighter one than that of the base, or notes a fault
and leaves the result alone. -/

theorem lengthRange_narrows (d : LengthRangeDecl) {n : Narrowing} (h : n.result.Narrows base) :
    (n.lengthRange base d).result.Narrows base := by
  unfold lengthRange
  extract_lets _ n₁ _ n₂
  have h₁ : n₁.result.Narrows base := by
    unfold n₁
    split
    · exact h
    · rename_i m _
      split
      · rename_i b hb
        split
        · exact h
        · exact { h with leastLength := fun c hc => ⟨m, rfl, by grind⟩ }
      · rename_i hb
        exact { h with leastLength := fun c hc => by simp [hb] at hc }
  have h₂ : n₂.result.Narrows base := by
    unfold n₂
    split
    · exact h₁
    · rename_i m _
      split
      · rename_i b hb
        split
        · exact h₁
        · exact { h₁ with greatestLength := fun c hc => ⟨m, rfl, by grind⟩ }
      · rename_i hb
        exact { h₁ with greatestLength := fun c hc => by simp [hb] at hc }
  split
  · split <;> exact h₂
  · exact h₂

theorem precision_narrows (d : CountDecl) {n : Narrowing} (h : n.result.Narrows base) :
    (n.precision base d).result.Narrows base := by
  unfold precision
  split
  · exact h
  · split
    · rename_i b hb
      split
      · exact h
      · exact { h with precision := fun c hc => ⟨d.value, rfl, by grind⟩ }
    · rename_i hb
      exact { h with precision := fun c hc => by simp [hb] at hc }

theorem scale_narrows (d : CountDecl) {n : Narrowing} (h : n.result.Narrows base) :
    (n.scale base d).result.Narrows base := by
  unfold scale
  split
  · exact h
  · split
    · rename_i b hb
      split
      · exact h
      · exact { h with scale := fun c hc => ⟨d.value, rfl, by grind⟩ }
    · rename_i hb
      exact { h with scale := fun c hc => by simp [hb] at hc }

theorem scaleWithinPrecision_result (span : Option Span) (n : Narrowing) :
    (n.scaleWithinPrecision span).result = n.result := by
  unfold scaleWithinPrecision
  split
  · split <;> rfl
  · rfl

theorem literal_result {k : Kind} {text : String} {span : Option Span} {n : Narrowing}
    {r : Option Atomic × Narrowing} (h : n.literal k text span = .ok r) :
    r.2.result = n.result := by
  obtain ⟨a, -, h⟩ := bind_eq_ok h
  cases a <;> cases h <;> rfl

theorem read_of_literal {k : Kind} {text : String} {span : Option Span} {n : Narrowing}
    {r : Option Atomic × Narrowing} {v : Atomic} (h : n.literal k text span = .ok r)
    (hv : r.1 = some v) : Atomic.read k text = .ok (some v) := by
  obtain ⟨a, ha, h⟩ := bind_eq_ok h
  cases a <;> cases h <;> cases hv
  exact ha

/-- The lower bound stays, or becomes one that was read and is as tight as that of the base. -/
theorem leastValue_cases {k : Kind} {d : BoundDecl} {span : Option Span} {n n' : Narrowing}
    (hn : n.leastValue k base d span = .ok n') : n'.result = n.result ∨
      ∃ b, n'.result = { n.result with least := some b } ∧ b.value.IsReadAs k ∧
        ∀ c, base.least = some c → c.narrowsLeast b := by
  obtain ⟨⟨v, n₁⟩, h₁, hn⟩ := bind_eq_ok hn
  have hr : n₁.result = n.result := literal_result h₁
  cases v with
  | none =>
    cases hn
    exact Or.inl hr
  | some v =>
    have hread : v.IsReadAs k := ⟨d.literal, read_of_literal h₁ rfl⟩
    cases hb : base.least with
    | none =>
      simp only [hb] at hn
      cases hn
      exact Or.inr ⟨⟨v, d.isInclusive⟩, by rw [← hr], hread, fun _ hc => by cases hc⟩
    | some c =>
      simp only [hb] at hn
      split at hn
      · rename_i hc
        cases hn
        refine Or.inr ⟨⟨v, d.isInclusive⟩, by rw [← hr], hread, fun c' hc' => ?_⟩
        exact Option.some.inj hc' ▸ hc
      · cases hn
        exact Or.inl hr

/-- The upper bound stays, or becomes one that was read and is as tight as that of the base. -/
theorem greatestValue_cases {k : Kind} {d : BoundDecl} {span : Option Span} {n n' : Narrowing}
    (hn : n.greatestValue k base d span = .ok n') : n'.result = n.result ∨
      ∃ b, n'.result = { n.result with greatest := some b } ∧ b.value.IsReadAs k ∧
        ∀ c, base.greatest = some c → c.narrowsGreatest b := by
  obtain ⟨⟨v, n₁⟩, h₁, hn⟩ := bind_eq_ok hn
  have hr : n₁.result = n.result := literal_result h₁
  cases v with
  | none =>
    cases hn
    exact Or.inl hr
  | some v =>
    have hread : v.IsReadAs k := ⟨d.literal, read_of_literal h₁ rfl⟩
    cases hb : base.greatest with
    | none =>
      simp only [hb] at hn
      cases hn
      exact Or.inr ⟨⟨v, d.isInclusive⟩, by rw [← hr], hread, fun _ hc => by cases hc⟩
    | some c =>
      simp only [hb] at hn
      split at hn
      · rename_i hc
        cases hn
        refine Or.inr ⟨⟨v, d.isInclusive⟩, by rw [← hr], hread, fun c' hc' => ?_⟩
        exact Option.some.inj hc' ▸ hc
      · cases hn
        exact Or.inl hr

theorem valueRange_eq (k : Kind) (base : FacetSet) (d : ValueRangeDecl) (n : Narrowing) :
    n.valueRange k base d = (do
      let n ← d.least.elim (pure n) fun b => n.leastValue k base b d.span
      let n ← d.greatest.elim (pure n) fun b => n.greatestValue k base b d.span
      match n.result.least, n.result.greatest with
      | some l, some g =>
        pure (if Bound.isOrdered l g then n else n.fault (.leastAboveGreatest l g) d.span)
      | _, _ => pure n) := by
  unfold valueRange
  cases d.least <;> cases d.greatest <;> rfl

/-- Both bounds stay, or become ones that were read and are as tight as those of the base. -/
theorem valueRange_keeps {P : FacetSet → Prop} {k : Kind}
    (hleast : ∀ f b, P f → b.value.IsReadAs k → (∀ c, base.least = some c → c.narrowsLeast b) →
      P { f with least := some b })
    (hgreatest : ∀ f b, P f → b.value.IsReadAs k →
      (∀ c, base.greatest = some c → c.narrowsGreatest b) → P { f with greatest := some b })
    {d : ValueRangeDecl} {n n' : Narrowing} (h : P n.result)
    (hn : n.valueRange k base d = .ok n') : P n'.result := by
  rw [valueRange_eq] at hn
  obtain ⟨n₁, h₁, hn⟩ := bind_eq_ok hn
  obtain ⟨n₂, h₂, hn⟩ := bind_eq_ok hn
  have hn₁ : P n₁.result := by
    cases hd : d.least with
    | none =>
      simp only [hd, Option.elim_none] at h₁
      cases h₁
      exact h
    | some b =>
      simp only [hd, Option.elim_some] at h₁
      rcases leastValue_cases h₁ with hr | ⟨b, hr, hread, hb⟩
      · rwa [hr]
      · rw [hr]
        exact hleast _ b h hread hb
  have hn₂ : P n₂.result := by
    cases hd : d.greatest with
    | none =>
      simp only [hd, Option.elim_none] at h₂
      cases h₂
      exact hn₁
    | some b =>
      simp only [hd, Option.elim_some] at h₂
      rcases greatestValue_cases h₂ with hr | ⟨b, hr, hread, hb⟩
      · rwa [hr]
      · rw [hr]
        exact hgreatest _ b hn₁ hread hb
  split at hn
  · cases hn
    split <;> exact hn₂
  · cases hn
    exact hn₂

theorem valueRange_narrows {k : Kind} {d : ValueRangeDecl} {n n' : Narrowing}
    (h : n.result.Narrows base) (hn : n.valueRange k base d = .ok n') :
    n'.result.Narrows base := by
  refine valueRange_keeps (P := (·.Narrows base)) (fun f b h _ hb => ?_) (fun f b h _ hb => ?_) h hn
  · exact { h with least := fun c hc => ⟨b, rfl, Or.inr (hb c hc)⟩ }
  · exact { h with greatest := fun c hc => ⟨b, rfl, Or.inr (hb c hc)⟩ }

/-! ### Enumerations -/

section Items

variable {P : Atomic → Prop}

theorem forall_addItem {item : EnumItem} (hi : P item.value) {items : List EnumItem}
    (h : ∀ i ∈ items, P i.value) : ∀ i ∈ addItem item items, P i.value := by
  induction items with
  | nil => simpa [addItem] using hi
  | cons other rest ih =>
    obtain ⟨ho, hr⟩ := List.forall_mem_cons.1 h
    unfold addItem
    split
    · exact List.forall_mem_cons.2 ⟨ho, hr⟩
    · exact List.forall_mem_cons.2 ⟨ho, ih hr⟩

variable {k : Kind} (hP : ∀ v : Atomic, v.IsReadAs k →
  base.enumeration.all (FacetSet.enumerates · v) → P v)

include hP

/-- What holds of the values of a kind that the base has holds of every item. -/
theorem enumItems_forall {span : Option Span} {ds : List EnumItemDecl} {names : List String}
    {items : List EnumItem} {n : Narrowing} {r : List EnumItem × Narrowing}
    (h : ∀ i ∈ items, P i.value) (hr : enumItems k base span ds names items n = .ok r) :
    (∀ i ∈ r.1, P i.value) ∧ r.2.result = n.result := by
  induction ds generalizing names items n with
  | nil =>
    cases hr
    exact ⟨h, rfl⟩
  | cons d rest ih =>
    unfold enumItems at hr
    dsimp only at hr
    split at hr
    · exact (ih h hr :)
    · obtain ⟨⟨v, n₁⟩, h₁, hr⟩ := bind_eq_ok hr
      have hn := literal_result h₁
      cases v with
      | none =>
        rw [← hn]
        exact ih h hr
      | some v =>
        simp only at hr
        rw [← hn]
        split at hr
        · rename_i hv
          exact ih (forall_addItem (hP v ⟨_, read_of_literal h₁ rfl⟩ hv) h) hr
        · exact (ih h hr :)

theorem enumBlocks_forall {bs : List EnumBlock} {items : List EnumItem} {n : Narrowing}
    {r : List EnumItem × Narrowing} (h : ∀ i ∈ items, P i.value)
    (hr : enumBlocks k base bs items n = .ok r) :
    (∀ i ∈ r.1, P i.value) ∧ r.2.result = n.result := by
  induction bs generalizing items n with
  | nil =>
    cases hr
    exact ⟨h, rfl⟩
  | cons b rest ih =>
    obtain ⟨⟨items₁, n₁⟩, h₁, hr⟩ := bind_eq_ok hr
    obtain ⟨hw, hn⟩ := enumItems_forall hP h h₁
    rw [← hn]
    exact ih hw hr

theorem enumeration_cases {bs : List EnumBlock} {n n' : Narrowing}
    (hn : n.enumeration k base bs = .ok n') : ∃ items,
      n'.result = { n.result with enumeration := some items } ∧ ∀ i ∈ items, P i.value := by
  obtain ⟨⟨items, n₁⟩, h₁, hn⟩ := bind_eq_ok hn
  obtain ⟨hitems, hr⟩ := enumBlocks_forall hP (fun i hi => by cases hi) h₁
  cases hn
  exact ⟨items, by rw [← hr], hitems⟩

end Items

theorem enumeration_narrows {k : Kind} {bs : List EnumBlock} {n n' : Narrowing}
    (h : n.result.Narrows base) (hn : n.enumeration k base bs = .ok n') :
    n'.result.Narrows base := by
  obtain ⟨items, hr, hitems⟩ := enumeration_cases (fun _ _ hv => hv) hn
  rw [hr]
  refine { h with enumeration := fun own ho => ⟨items, rfl, fun item hi => ?_⟩ }
  simpa [ho] using hitems item hi

theorem pattern_narrows (d : PatternDecl) {n : Narrowing} (h : n.result.Narrows base) :
    (n.pattern d).result.Narrows base := by
  unfold pattern
  split
  · exact h
  · split
    · exact h
    · exact { h with }

/-! ### All facets -/

section Keeps

variable {P : FacetSet → Prop}

theorem declared_keeps {α : Type} {d : Option α} {next : α → Narrowing → Except TooLong Narrowing}
    (hnext : ∀ a n n', P n.result → next a n = .ok n' → P n'.result) {n n' : Narrowing}
    (h : P n.result) (hn : n.declared d next = .ok n') : P n'.result := by
  cases d with
  | none =>
    cases hn
    exact h
  | some a => exact hnext a n n' h hn

theorem whenApplies_keeps {k : Kind} {f : Facet} {span : Option Span}
    {next : Narrowing → Except TooLong Narrowing} {n n' : Narrowing}
    (hnext : ∀ n', next n = .ok n' → P n'.result) (h : P n.result)
    (hn : n.whenApplies k f span next = .ok n') : P n'.result := by
  unfold whenApplies at hn
  split at hn
  · exact hnext n' hn
  · cases hn
    exact h

/-- What holds of the base and is kept by each facet holds of the narrowed facets. -/
theorem narrowing_keeps {k : Kind} {block : FacetBlock} {n : Narrowing} (hbase : P base)
    (hlength : ∀ d n, P n.result → P (lengthRange base d n).result)
    (hprecision : ∀ d n, P n.result → P (precision base d n).result)
    (hscale : ∀ d n, P n.result → P (scale base d n).result)
    (hrange : ∀ d n n', P n.result → valueRange k base d n = .ok n' → P n'.result)
    (hitems : ∀ bs n n', P n.result → enumeration k base bs n = .ok n' → P n'.result)
    (hpattern : ∀ d n, P n.result → P (pattern n d).result)
    (hn : narrowing k base block = .ok n) : P n.result := by
  obtain ⟨n₁, h₁, hn⟩ := bind_eq_ok hn
  obtain ⟨n₂, h₂, hn⟩ := bind_eq_ok hn
  obtain ⟨n₃, h₃, hn⟩ := bind_eq_ok hn
  obtain ⟨n₄, h₄, hn⟩ := bind_eq_ok hn
  obtain ⟨n₅, h₅, hn⟩ := bind_eq_ok hn
  obtain ⟨n₆, h₆, hn⟩ := bind_eq_ok hn
  have hn₁ := declared_keeps (fun d n _ h => whenApplies_keeps
    (fun _ hn => by cases hn; exact hlength d n h) h) hbase h₁
  have hn₂ := declared_keeps (fun d n _ h => whenApplies_keeps
    (fun _ hn => by cases hn; exact hprecision d n h) h) hn₁ h₂
  have hn₃ := declared_keeps (fun d n _ h => whenApplies_keeps
    (fun _ hn => by cases hn; exact hscale d n h) h) hn₂ h₃
  rw [← scaleWithinPrecision_result] at hn₃
  have hn₄ := declared_keeps (fun d n _ h => whenApplies_keeps
    (fun n' hn => hrange d n n' h hn) h) hn₃ h₄
  have hn₅ := declared_keeps (fun _ n _ h => whenApplies_keeps
    (fun n' hn => hitems _ n n' h hn) h) hn₄ h₅
  have hn₆ := declared_keeps (fun _ n _ h => whenApplies_keeps (fun _ hn => by
    cases hn
    exact List.foldlRecOn (motive := fun n : Narrowing => P n.result) _ _ h
      fun n h d _ => hpattern d n h) h) hn₅ h₆
  exact declared_keeps (fun _ _ _ h => whenApplies_keeps
    (fun _ hn => by cases hn; exact h) h) hn₆ hn

end Keeps

theorem narrowing_narrows {k : Kind} {block : FacetBlock} {n : Narrowing}
    (hn : narrowing k base block = .ok n) : n.result.Narrows base :=
  narrowing_keeps (P := (·.Narrows base)) (.refl base) (fun d _ => lengthRange_narrows d) (fun d _ => precision_narrows d)
    (fun d _ => scale_narrows d) (fun _ _ _ => valueRange_narrows) (fun _ _ _ => enumeration_narrows)
    (fun d _ => pattern_narrows d) hn

end Narrowing

/-- The facets of a restriction narrow those of its base. -/
theorem narrows_of_narrow {k : Kind} {base f : FacetSet} {block : FacetBlock}
    (h : narrow k base block = .ok (.ok f)) : f.Narrows base := by
  obtain ⟨n, hn, h⟩ := bind_eq_ok h
  have hr := Narrowing.narrowing_narrows hn
  split at h
  · cases h
    exact hr
  · cases h

end Schemata
