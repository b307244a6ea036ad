import Mathlib.Data.List.Forall2
import Mathlib.Data.List.Nodup
import Schemata.Proofs.Facets

/-!
# Narrowing without faults

A block of facets narrows others without a fault if every facet that it declares applies to the kind
and is no wider than the inherited one, and if what the facets come to is consistent. `Narrowed`
says so facet by facet, and what comes out: a declared facet takes the place of the inherited one,
values of several enumerations are merged, and patterns are added. A `narrow` is of this form if and
only if it succeeds (`narrow_eq_ok_iff`).

The faults are a list to which steps only add, so a run that ends without any has none on the way.
What a step then makes of the facets is `Narrowing.Makes`.
-/

namespace Schemata

/-! ## What a block declares -/

/-- A declared count is in its range and not greater than the inherited one. -/
structure CountDecl.Fits (d : CountDecl) (least : Nat) (inherited : Option Nat) : Prop where
  range : least ≤ d.value ∧ d.value ≤ NarrowingFault.digitLimit
  narrows : ∀ n, inherited = some n → d.value ≤ n

/-- A declared bound: the value that its literal is read as, included or not. -/
structure BoundDecl.Declares (d : BoundDecl) (k : Kind) (b : Bound) : Prop where
  value : Atomic.read k d.literal = .ok (some b.value)
  isInclusive : b.isInclusive = d.isInclusive

/-- What becomes of a bound: it stays, or is replaced by a declared one that is as tight as the
inherited one. -/
def Bound.Becomes (k : Kind) (narrows : Bound → Bound → Bool) (d : Option BoundDecl)
    (inherited current result : Option Bound) : Prop :=
  d.elim (result = current) fun d =>
    ∃ b, d.Declares k b ∧ result = some b ∧ ∀ c, inherited = some c → narrows c b

/-- A declared item: the value that its literal is read as, with its display name. -/
structure EnumItemDecl.Declares (d : EnumItemDecl) (k : Kind) (i : EnumItem) : Prop where
  value : Atomic.read k d.literal = .ok (some i.value)
  name : i.name = d.name.map (·.text)

/-- The display names of items. -/
def EnumItem.names (items : List EnumItem) : List String := items.filterMap EnumItem.name

theorem EnumItem.names_cons (i : EnumItem) (items : List EnumItem) :
    names (i :: items) = i.name.toList ++ names items := by
  cases h : i.name <;> simp [names, h]

/-- The items of one block, which have different names. -/
structure EnumBlock.Declares (b : EnumBlock) (k : Kind) (declared : List EnumItem) : Prop where
  items : List.Forall₂ (·.Declares k) b.items declared
  names : (EnumItem.names declared).Nodup

/-- Add items to others, each value once and under the first name that is given for it. -/
def EnumItem.merge (merged items : List EnumItem) : List EnumItem :=
  items.foldl (fun merged i => Narrowing.addItem i merged) merged

theorem EnumItem.merge_append (merged items items' : List EnumItem) :
    merge merged (items ++ items') = merge (merge merged items) items' :=
  List.foldl_append

namespace FacetSet

/-- The items that blocks declare, block by block. All of them are inherited ones. -/
structure Declares (base : FacetSet) (k : Kind) (blocks : List EnumBlock)
    (declared : List (List EnumItem)) : Prop where
  blocks : List.Forall₂ (·.Declares k) blocks declared
  inherited : ∀ i ∈ declared.flatten, base.enumeration.all (enumerates · i.value)

/-- Add a pattern, unless it is there. -/
def addPattern (patterns : List String) (d : PatternDecl) : List String :=
  if patterns.contains d.pattern then patterns else patterns ++ [d.pattern]

/-- Facets that a block makes of others. -/
structure Narrowed (f : FacetSet) (k : Kind) (base : FacetSet) (block : FacetBlock) : Prop where
  lengths : block.lengthRange.elim
    (f.leastLength = base.leastLength ∧ f.greatestLength = base.greatestLength) fun d =>
      k.admits .lengthRange ∧ f.leastLength = d.least.or base.leastLength ∧
      f.greatestLength = d.greatest.or base.greatestLength ∧
      (∀ n m, d.least = some n → base.leastLength = some m → m ≤ n) ∧
      (∀ n m, d.greatest = some n → base.greatestLength = some m → n ≤ m) ∧
      ∀ n m, f.leastLength = some n → f.greatestLength = some m → n ≤ m
  precision : block.precision.elim (f.precision = base.precision) fun d =>
    k.admits .precision ∧ d.Fits 1 base.precision ∧ f.precision = some d.value
  scale : block.scale.elim (f.scale = base.scale) fun d =>
    k.admits .scale ∧ d.Fits 0 base.scale ∧ f.scale = some d.value
  digits : ∀ n m, f.precision = some n → f.scale = some m → m ≤ n
  range : block.valueRange.elim (f.least = base.least ∧ f.greatest = base.greatest) fun d =>
    k.admits .valueRange ∧ Bound.Becomes k Bound.narrowsLeast d.least base.least base.least f.least ∧
      Bound.Becomes k Bound.narrowsGreatest d.greatest base.greatest base.greatest f.greatest ∧
      ∀ b c, f.least = some b → f.greatest = some c → Bound.isOrdered b c
  enumeration : block.enums.head?.elim (f.enumeration = base.enumeration) fun _ =>
    k.admits .enumeration ∧ ∃ declared, base.Declares k block.enums declared ∧
      f.enumeration = some (EnumItem.merge [] declared.flatten)
  patterns : block.patterns.head?.elim (f.patterns = base.patterns) fun _ =>
    k.admits .pattern ∧ (∀ d ∈ block.patterns, Pattern.isValid d.pattern) ∧
      f.patterns = block.patterns.foldl addPattern base.patterns
  itemType : block.itemType.elim True fun _ => k.admits .listItemType

end FacetSet

/-! ## Steps -/

section Elim

variable {α : Type} {d : Option α} {p q : Prop} {P Q : α → Prop}

theorem of_elim (h : d.elim p P) (hnone : p → q) (hsome : ∀ a, P a → q) : q := by
  cases d with
  | none => exact hnone h
  | some a => exact hsome a h

theorem elim_imp (h : d.elim p P) (hnone : p → q) (hsome : ∀ a, P a → Q a) : d.elim q Q := by
  cases d with
  | none => exact hnone h
  | some a => exact hsome a h

end Elim

namespace Narrowing

open FacetSet

variable {k : Kind} {base : FacetSet} {n n' : Narrowing}

@[simp]
theorem fault_faults_ne (x : NarrowingFault) (span : Option Span) :
    (n.fault x span).faults ≠ [] := by
  simp [fault]

/-- A step makes of facets what a relation says and notes no fault, or it notes one. -/
structure Makes (s : Narrowing → Except TooLong Narrowing) (R : FacetSet → FacetSet → Prop) :
    Prop where
  /-- A run that ends without a fault started without one. -/
  sound : ∀ n n', s n = .ok n' → n'.faults = [] → n.faults = [] ∧ R n.result n'.result
  complete : ∀ n g, R n.result g → s n = .ok { n with result := g }

namespace Makes

variable {s t : Narrowing → Except TooLong Narrowing} {R R' : FacetSet → FacetSet → Prop}

theorem of_pure {s : Narrowing → Narrowing}
    (hsound : ∀ n, (s n).faults = [] → n.faults = [] ∧ R n.result (s n).result)
    (hcomplete : ∀ n g, R n.result g → s n = { n with result := g }) :
    Makes (fun n => pure (s n)) R where
  sound n n' hs hn' := by
    cases hs
    exact hsound n hn'
  complete n g hR := congrArg Except.ok (hcomplete n g hR)

theorem bind (hs : Makes s R) (ht : Makes t R') :
    Makes (fun n => s n >>= t) fun f h => ∃ g, R f g ∧ R' g h where
  sound n n'' h hn'' := by
    obtain ⟨n', hn, h⟩ := bind_eq_ok h
    obtain ⟨hn', hR'⟩ := ht.sound n' n'' h hn''
    obtain ⟨hn, hR⟩ := hs.sound n n' hn hn'
    exact ⟨hn, _, hR, hR'⟩
  complete n h hR := by
    obtain ⟨g, hR, hR'⟩ := hR
    rw [hs.complete n g hR]
    exact ht.complete _ h hR'

theorem congr (h : Makes s R) (hs : ∀ n, t n = s n) (hR : ∀ f g, R f g ↔ R' f g) : Makes t R' where
  sound n n' ht hn' := (h.sound n n' (hs n ▸ ht) hn').imp_right (hR _ _).1
  complete n g hg := (hs n).trans (h.complete n g ((hR _ _).2 hg))

protected theorem pure : Makes pure fun f g => g = f where
  sound n n' h hn' := by
    cases h
    exact ⟨hn', rfl⟩
  complete n g h := by
    cases h
    rfl

protected theorem elim {α : Type} {next : α → Narrowing → Except TooLong Narrowing}
    {R : α → FacetSet → FacetSet → Prop} (h : ∀ a, Makes (next a) (R a)) (d : Option α) :
    Makes (fun n => d.elim (pure n) fun a => next a n) fun f g =>
      d.elim (g = f) fun a => R a f g := by
  cases d with
  | none => exact Makes.pure
  | some a => exact h a

/-- A facet that is declared has to apply to the kind. -/
theorem facet {α : Type} {next : α → Narrowing → Except TooLong Narrowing}
    {R : α → FacetSet → FacetSet → Prop} (h : ∀ a, Makes (next a) (R a)) (k : Kind) (facet : Facet)
    (d : Option α) (span : α → Option Span) :
    Makes (fun n => n.declared d fun a n => n.whenApplies k facet (span a) (next a)) fun f g =>
      d.elim (g = f) fun a => k.admits facet ∧ R a f g where
  sound n n' hs hn' := by
    cases d with
    | none => exact Makes.pure.sound n n' hs hn'
    | some a =>
      dsimp only [Narrowing.declared, Narrowing.whenApplies] at hs
      split at hs
      · rename_i hk
        obtain ⟨hn, hR⟩ := (h a).sound n n' hs hn'
        exact ⟨hn, hk, hR⟩
      · cases hs
        exact absurd hn' (fault_faults_ne _ _)
  complete n g hR := by
    cases d with
    | none => exact Makes.pure.complete n g hR
    | some a => exact (if_pos hR.1).trans ((h a).complete n g hR.2)

end Makes

/-! ### Counts -/

theorem lengthRange_eq {d : LengthRangeDecl} {g : FacetSet}
    (h : g = { n.result with
        leastLength := d.least.or n.result.leastLength
        greatestLength := d.greatest.or n.result.greatestLength } ∧
      (∀ n m, d.least = some n → base.leastLength = some m → m ≤ n) ∧
      (∀ n m, d.greatest = some n → base.greatestLength = some m → n ≤ m) ∧
      ∀ n m, g.leastLength = some n → g.greatestLength = some m → n ≤ m) :
    n.lengthRange base d = { n with result := g } := by
  obtain ⟨rfl, hleast, hgreatest, hordered⟩ := h
  unfold lengthRange
  extract_lets f₀ n₁ f₁ n₂
  have h₁ : n₁ = { n with result.leastLength := d.least.or n.result.leastLength } := by
    unfold n₁
    cases hd : d.least with
    | none => rfl
    | some a =>
      cases hb : base.leastLength with
      | none => rfl
      | some b => exact if_neg (Nat.not_lt.2 (hleast a b hd hb))
  have h₂ : n₂ = { n₁ with result.greatestLength := d.greatest.or n₁.result.greatestLength } := by
    unfold n₂
    cases hd : d.greatest with
    | none => rfl
    | some a =>
      cases hb : base.greatestLength with
      | none => rfl
      | some b => exact if_neg (Nat.not_lt.2 (hgreatest a b hd hb))
  rw [h₁] at h₂
  rw [h₂]
  split
  · rename_i l g hl hg
    exact if_neg (Nat.not_lt.2 (hordered l g hl hg))
  · rfl

theorem lengthRange_makes (base : FacetSet) (d : LengthRangeDecl) :
    Makes (fun n => pure (n.lengthRange base d)) fun f g =>
      g = { f with
        leastLength := d.least.or f.leastLength
        greatestLength := d.greatest.or f.greatestLength } ∧
      (∀ n m, d.least = some n → base.leastLength = some m → m ≤ n) ∧
      (∀ n m, d.greatest = some n → base.greatestLength = some m → n ≤ m) ∧
      ∀ n m, g.leastLength = some n → g.greatestLength = some m → n ≤ m := by
  refine .of_pure (fun n => ?_) fun n g hR => lengthRange_eq hR
  unfold lengthRange
  extract_lets f₀ n₁ f₁ n₂
  have h₁ : n₁.faults = [] → n.faults = [] ∧
      n₁.result = { n.result with leastLength := d.least.or n.result.leastLength } ∧
      ∀ n m, d.least = some n → base.leastLength = some m → m ≤ n := by
    unfold n₁
    cases d.least with
    | none => simp
    | some a =>
      cases base.leastLength with
      | none => simp [f₀]
      | some b =>
        by_cases h : a < b
        · simp [h]
        · simp [h, f₀, Nat.not_lt.1 h]
  have h₂ : n₂.faults = [] → n₁.faults = [] ∧
      n₂.result = { n₁.result with greatestLength := d.greatest.or n₁.result.greatestLength } ∧
      ∀ n m, d.greatest = some n → base.greatestLength = some m → n ≤ m := by
    unfold n₂
    cases d.greatest with
    | none => simp
    | some a =>
      cases base.greatestLength with
      | none => simp [f₁]
      | some b =>
        by_cases h : b < a
        · simp [h]
        · simp [h, f₁, Nat.not_lt.1 h]
  have h : n₂.faults = [] → n.faults = [] ∧ n₂.result = { n.result with
        leastLength := d.least.or n.result.leastLength
        greatestLength := d.greatest.or n.result.greatestLength } ∧
      (∀ n m, d.least = some n → base.leastLength = some m → m ≤ n) ∧
      ∀ n m, d.greatest = some n → base.greatestLength = some m → n ≤ m := by
    intro h
    obtain ⟨hn₁, hr₂, hgreatest⟩ := h₂ h
    obtain ⟨hn, hr₁, hleast⟩ := h₁ hn₁
    rw [hr₁] at hr₂
    exact ⟨hn, hr₂, hleast, hgreatest⟩
  split
  · rename_i l g hl hg
    split
    · simp
    · rename_i hlg
      intro hfaults
      obtain ⟨hn, hr, hleast, hgreatest⟩ := h hfaults
      refine ⟨hn, hr, hleast, hgreatest, fun i j hi hj => ?_⟩
      cases hl.symm.trans hi
      cases hg.symm.trans hj
      exact Nat.not_lt.1 hlg
  · rename_i hnone
    intro hfaults
    obtain ⟨hn, hr, hleast, hgreatest⟩ := h hfaults
    exact ⟨hn, hr, hleast, hgreatest, fun i j hi hj => (hnone i j hi hj).elim⟩

/-- A declared count that passes its two checks is taken over. -/
theorem count_of_faultless {p : Prop} [Decidable p] {inherited : Option Nat} {value : Nat}
    {x : NarrowingFault} {y : Nat → NarrowingFault} {span : Option Span} {m : Narrowing}
    (h : (if p then n.fault x span
      else match inherited with
        | some b => if b < value then n.fault (y b) span else m
        | none => m) = n') (hn' : n'.faults = []) :
    n' = m ∧ ¬p ∧ ∀ b, inherited = some b → value ≤ b := by
  subst h
  split at hn'
  · simp at hn'
  · rename_i hp
    rw [if_neg hp]
    cases inherited with
    | none => exact ⟨rfl, hp, nofun⟩
    | some b =>
      dsimp only at hn' ⊢
      split at hn'
      · simp at hn'
      · rename_i hb
        rw [if_neg hb]
        exact ⟨rfl, hp, fun c hc => Option.some.inj hc ▸ Nat.not_lt.1 hb⟩

theorem precision_makes (base : FacetSet) (d : CountDecl) :
    Makes (fun n => pure (n.precision base d)) fun f g =>
      g = { f with precision := some d.value } ∧ d.Fits 1 base.precision := by
  refine .of_pure (fun n h => ?_) fun n g ⟨hg, hfits⟩ => ?_
  · obtain ⟨heq, hrange, hnarrows⟩ := count_of_faultless (rfl : _ = n.precision base d) h
    rw [heq] at h ⊢
    exact ⟨h, rfl, by omega, hnarrows⟩
  · subst hg
    unfold precision
    rw [if_neg (by have := hfits.range; omega)]
    cases hb : base.precision with
    | none => rfl
    | some b => exact if_neg (Nat.not_lt.2 (hfits.narrows b hb))

theorem scale_makes (base : FacetSet) (d : CountDecl) :
    Makes (fun n => pure (n.scale base d)) fun f g =>
      g = { f with scale := some d.value } ∧ d.Fits 0 base.scale := by
  refine .of_pure (fun n h => ?_) fun n g ⟨hg, hfits⟩ => ?_
  · obtain ⟨heq, hrange, hnarrows⟩ := count_of_faultless (rfl : _ = n.scale base d) h
    rw [heq] at h ⊢
    exact ⟨h, rfl, by omega, hnarrows⟩
  · subst hg
    unfold scale
    rw [if_neg (Nat.not_lt.2 hfits.range.2)]
    cases hb : base.scale with
    | none => rfl
    | some b => exact if_neg (Nat.not_lt.2 (hfits.narrows b hb))

theorem scaleWithinPrecision_makes (span : Option Span) :
    Makes (fun n => pure (n.scaleWithinPrecision span)) fun f g =>
      g = f ∧ ∀ n m, g.precision = some n → g.scale = some m → m ≤ n := by
  refine .of_pure (fun n => ?_) fun n g ⟨hg, hle⟩ => ?_
  · unfold scaleWithinPrecision
    split
    · rename_i p s hp hs
      split
      · simp
      · rename_i hle
        refine fun h => ⟨h, rfl, fun i j hi hj => ?_⟩
        cases hp.symm.trans hi
        cases hs.symm.trans hj
        exact Nat.not_lt.1 hle
    · rename_i hnone
      exact fun h => ⟨h, rfl, fun i j hi hj => (hnone i j hi hj).elim⟩
  · subst hg
    unfold scaleWithinPrecision
    split
    · rename_i p s hp hs
      exact if_neg (Nat.not_lt.2 (hle p s hp hs))
    · rfl

/-! ### Values -/

theorem literal_of_faultless {text : String} {span : Option Span} {r : Option Atomic × Narrowing}
    (h : n.literal k text span = .ok r) (hr : r.2.faults = []) :
    r.2 = n ∧ ∃ v, r.1 = some v ∧ Atomic.read k text = .ok (some v) := by
  obtain ⟨a, ha, h⟩ := bind_eq_ok h
  cases a with
  | none =>
    cases h
    exact absurd hr (fault_faults_ne _ _)
  | some v =>
    cases h
    exact ⟨rfl, v, rfl, ha⟩

/-- A declared bound that can be read and is as tight as the inherited one is taken over. -/
theorem bound_of_faultless (narrows : Bound → Bound → Bool) (x : Bound → Bound → NarrowingFault)
    (take : Bound → FacetSet → FacetSet) {d : BoundDecl} {span : Option Span}
    {inherited : Option Bound} (h : (do
      match ← n.literal k d.literal span with
      | (none, n) => pure n
      | (some v, n) =>
        let b : Bound := ⟨v, d.isInclusive⟩
        match inherited with
        | some c =>
          if narrows c b then pure { n with result := take b n.result }
          else pure (n.fault (x b c) span)
        | none => pure { n with result := take b n.result }) = Except.ok n') (hn' : n'.faults = []) :
    n.faults = [] ∧ ∃ b, d.Declares k b ∧ n'.result = take b n.result ∧
      ∀ c, inherited = some c → narrows c b := by
  obtain ⟨⟨v, n₁⟩, h₁, h⟩ := bind_eq_ok h
  cases v with
  | none =>
    cases h
    obtain ⟨-, v, hv, -⟩ := literal_of_faultless h₁ hn'
    cases hv
  | some v =>
    have hread := read_of_literal h₁ rfl
    have hn₁ : n₁.faults = [] → n₁ = n := fun hn => (literal_of_faultless h₁ hn).1
    dsimp only at h
    cases inherited with
    | none =>
      cases h
      obtain rfl := hn₁ hn'
      exact ⟨hn', ⟨v, d.isInclusive⟩, ⟨hread, rfl⟩, rfl, fun _ hc => by cases hc⟩
    | some c =>
      dsimp only at h
      split at h
      · rename_i hc
        cases h
        obtain rfl := hn₁ hn'
        exact ⟨hn', ⟨v, d.isInclusive⟩, ⟨hread, rfl⟩, rfl, fun b hb => Option.some.inj hb ▸ hc⟩
      · cases h
        exact absurd hn' (fault_faults_ne _ _)

/-- A literal that can be read is read without a fault. -/
theorem literal_eq {text : String} {v : Atomic} (h : Atomic.read k text = .ok (some v))
    (span : Option Span) : n.literal k text span = .ok (some v, n) := by
  rw [literal, h]
  rfl

theorem leastValue_makes (base : FacetSet) (d : BoundDecl) (span : Option Span) :
    Makes (fun n => n.leastValue k base d span) fun f g =>
      ∃ b, d.Declares k b ∧ g = { f with least := some b } ∧
        ∀ c, base.least = some c → c.narrowsLeast b where
  sound _ _ := bound_of_faultless Bound.narrowsLeast .leastBelowBase
    fun b f => { f with least := some b }
  complete n g h := by
    obtain ⟨⟨v, isInclusive⟩, ⟨hread, rfl⟩, rfl, hnarrows⟩ := h
    rw [leastValue, literal_eq hread]
    cases hb : base.least with
    | none => rfl
    | some c => exact if_pos (hnarrows c hb)

theorem greatestValue_makes (base : FacetSet) (d : BoundDecl) (span : Option Span) :
    Makes (fun n => n.greatestValue k base d span) fun f g =>
      ∃ b, d.Declares k b ∧ g = { f with greatest := some b } ∧
        ∀ c, base.greatest = some c → c.narrowsGreatest b where
  sound _ _ := bound_of_faultless Bound.narrowsGreatest .greatestAboveBase
    fun b f => { f with greatest := some b }
  complete n g h := by
    obtain ⟨⟨v, isInclusive⟩, ⟨hread, rfl⟩, rfl, hnarrows⟩ := h
    rw [greatestValue, literal_eq hread]
    cases hb : base.greatest with
    | none => rfl
    | some c => exact if_pos (hnarrows c hb)

theorem orderedBounds_makes (span : Option Span) :
    Makes (fun n => match n.result.least, n.result.greatest with
      | some l, some g =>
        pure (if Bound.isOrdered l g then n else n.fault (.leastAboveGreatest l g) span)
      | _, _ => pure n) fun f g =>
      g = f ∧ ∀ b c, g.least = some b → g.greatest = some c → Bound.isOrdered b c where
  sound n n' h hn' := by
    split at h
    · rename_i b c hb hc
      cases h
      split at hn'
      · rename_i ho
        rw [if_pos ho]
        refine ⟨hn', rfl, fun b' c' hb' hc' => ?_⟩
        cases hb.symm.trans hb'
        cases hc.symm.trans hc'
        exact ho
      · exact absurd hn' (fault_faults_ne _ _)
    · rename_i hnone
      cases h
      exact ⟨hn', rfl, fun b c hb hc => (hnone b c hb hc).elim⟩
  complete n g h := by
    obtain ⟨rfl, hordered⟩ := h
    split
    · rename_i b c hb hc
      exact congrArg Except.ok (if_pos (hordered b c hb hc))
    · rfl

theorem valueRange_makes (base : FacetSet) (d : ValueRangeDecl) :
    Makes (fun n => n.valueRange k base d) fun f g => ∃ b c,
      g = { f with least := b, greatest := c } ∧
      Bound.Becomes k Bound.narrowsLeast d.least base.least f.least b ∧
      Bound.Becomes k Bound.narrowsGreatest d.greatest base.greatest f.greatest c ∧
      ∀ l g, b = some l → c = some g → Bound.isOrdered l g := by
  have hleast := Makes.elim (fun b => leastValue_makes (k := k) base b d.span) d.least
  have hgreatest := Makes.elim (fun b => greatestValue_makes (k := k) base b d.span) d.greatest
  have hbounds := hleast.bind (hgreatest.bind (orderedBounds_makes d.span))
  refine (hleast.bind (hgreatest.bind (orderedBounds_makes d.span))).congr
    (valueRange_eq k base d) fun f g => ⟨?_, ?_⟩
  · rintro ⟨f₁, h₁, f₂, h₂, rfl, hordered⟩
    obtain ⟨b, rfl⟩ : ∃ b, f₁ = { f with least := b } :=
      of_elim h₁ (fun h => ⟨_, h⟩) fun _ ⟨_, _, h, _⟩ => ⟨_, h⟩
    obtain ⟨c, rfl⟩ : ∃ c, g = { f with least := b, greatest := c } :=
      of_elim h₂ (fun h => ⟨_, h⟩) fun _ ⟨_, _, h, _⟩ => ⟨_, h⟩
    exact ⟨b, c, rfl,
      elim_imp h₁ (fun h => (congrArg FacetSet.least h :))
        fun _ ⟨l, hl, h, hnarrows⟩ => ⟨l, hl, (congrArg FacetSet.least h :), hnarrows⟩,
      elim_imp h₂ (fun h => (congrArg FacetSet.greatest h :))
        fun _ ⟨l, hl, h, hnarrows⟩ => ⟨l, hl, (congrArg FacetSet.greatest h :), hnarrows⟩,
      hordered⟩
  · rintro ⟨b, c, rfl, hb, hc, hordered⟩
    exact ⟨{ f with least := b },
      elim_imp hb (fun h => by rw [h]) fun _ ⟨l, hl, h, hnarrows⟩ => ⟨l, hl, by rw [h], hnarrows⟩,
      { f with least := b, greatest := c },
      elim_imp hc (fun h => by rw [h]) fun _ ⟨l, hl, h, hnarrows⟩ => ⟨l, hl, by rw [h], hnarrows⟩,
      rfl, hordered⟩

/-! ### Enumerations -/

theorem enumItems_of_faultless {span : Option Span} {ds : List EnumItemDecl} {names : List String}
    {items : List EnumItem} {r : List EnumItem × Narrowing}
    (h : enumItems k base span ds names items n = .ok r) (hr : r.2.faults = []) :
    r.2 = n ∧ ∃ declared, List.Forall₂ (·.Declares k) ds declared ∧
      (EnumItem.names declared).Nodup ∧ List.Disjoint (EnumItem.names declared) names ∧
      (∀ i ∈ declared, base.enumeration.all (enumerates · i.value)) ∧
      r.1 = EnumItem.merge items declared := by
  induction ds generalizing names items n with
  | nil =>
    cases h
    exact ⟨rfl, [], .nil, .nil, List.disjoint_nil_left _, fun _ hi => (by cases hi), rfl⟩
  | cons d rest ih =>
    unfold enumItems at h
    dsimp only at h
    split at h
    · obtain ⟨heq, -⟩ := ih h
      rw [heq] at hr
      exact absurd hr (fault_faults_ne _ _)
    · rename_i htaken
      obtain ⟨⟨v, n₁⟩, h₁, h⟩ := bind_eq_ok h
      cases v with
      | none =>
        obtain ⟨rfl, -⟩ := ih h
        obtain ⟨-, v, hv, -⟩ := literal_of_faultless h₁ hr
        cases hv
      | some v =>
        dsimp only at h
        split at h
        · rename_i hv
          obtain ⟨rfl, declared, hdeclares, hnodup, hdisjoint, hinherited, hitems⟩ := ih h
          obtain rfl := (literal_of_faultless h₁ hr).1
          rw [List.disjoint_append_right] at hdisjoint
          have hnew : ∀ name ∈ d.name.map (·.text), name ∉ names := by
            simpa [Option.filter_eq_none_iff] using htaken
          refine ⟨rfl, ⟨v, d.name.map Ident.text⟩ :: declared,
            .cons ⟨read_of_literal h₁ rfl, rfl⟩ hdeclares, ?_, ?_,
            List.forall_mem_cons.2 ⟨hv, hinherited⟩, hitems⟩
          · rw [EnumItem.names_cons, List.nodup_append']
            exact ⟨Option.toList_nodup _, hnodup, hdisjoint.1.symm⟩
          · rw [EnumItem.names_cons, List.disjoint_append_left]
            exact ⟨fun name hname => hnew name (Option.mem_toList.1 hname), hdisjoint.2⟩
        · obtain ⟨heq, -⟩ := ih h
          rw [heq] at hr
          exact absurd hr (fault_faults_ne _ _)

theorem enumBlocks_of_faultless {bs : List EnumBlock} {items : List EnumItem}
    {r : List EnumItem × Narrowing} (h : enumBlocks k base bs items n = .ok r)
    (hr : r.2.faults = []) : r.2 = n ∧ ∃ declared, base.Declares k bs declared ∧
      r.1 = EnumItem.merge items declared.flatten := by
  induction bs generalizing items n with
  | nil =>
    cases h
    exact ⟨rfl, [], ⟨.nil, fun _ hi => by cases hi⟩, rfl⟩
  | cons b rest ih =>
    obtain ⟨⟨items₁, n₁⟩, h₁, h⟩ := bind_eq_ok h
    obtain ⟨rfl, declared, ⟨hblocks, hinherited⟩, hitems⟩ := ih h
    obtain ⟨rfl, own, hown, hnodup, -, hbase, hitems₁⟩ := enumItems_of_faultless h₁ hr
    refine ⟨rfl, own :: declared, ⟨.cons ⟨hown, hnodup⟩ hblocks, ?_⟩, ?_⟩
    · rw [List.flatten_cons]
      exact List.forall_mem_append.2 ⟨hbase, hinherited⟩
    · rw [hitems, show items₁ = _ from hitems₁, List.flatten_cons, EnumItem.merge_append]

/-- Items of one block that can be read and are inherited are merged without a fault. -/
theorem enumItems_eq {span : Option Span} {ds : List EnumItemDecl} {names : List String}
    {items declared : List EnumItem} (hdeclares : List.Forall₂ (·.Declares k) ds declared)
    (hnodup : (EnumItem.names declared).Nodup)
    (hdisjoint : List.Disjoint (EnumItem.names declared) names)
    (hinherited : ∀ i ∈ declared, base.enumeration.all (enumerates · i.value)) :
    enumItems k base span ds names items n = .ok (EnumItem.merge items declared, n) := by
  induction hdeclares generalizing names items with
  | nil => rfl
  | @cons d i ds declared hd _ ih =>
    obtain ⟨⟨v, _⟩, rfl⟩ : ∃ j : EnumItem, j = i := ⟨i, rfl⟩
    obtain ⟨hread, rfl⟩ := hd
    rw [EnumItem.names_cons, List.nodup_append'] at hnodup
    rw [EnumItem.names_cons, List.disjoint_append_left] at hdisjoint
    obtain ⟨hv, hinherited⟩ := List.forall_mem_cons.1 hinherited
    have hfresh : d.name.filter (fun name => names.contains name.text) = none := by
      refine Option.filter_eq_none_iff.2 fun name hname => ?_
      have hmem : name.text ∈ (d.name.map Ident.text).toList := by simp [hname]
      simpa using hdisjoint.1 hmem
    unfold enumItems
    dsimp only
    rw [hfresh, literal_eq hread]
    exact (if_pos hv).trans (ih hnodup.2.1
      (List.disjoint_append_right.2 ⟨hnodup.2.2.symm, hdisjoint.2⟩) hinherited)

theorem enumBlocks_eq {bs : List EnumBlock} {items : List EnumItem}
    {declared : List (List EnumItem)} (h : base.Declares k bs declared) :
    enumBlocks k base bs items n = .ok (EnumItem.merge items declared.flatten, n) := by
  obtain ⟨hblocks, hinherited⟩ := h
  induction hblocks generalizing items with
  | nil => rfl
  | @cons b own bs declared hb _ ih =>
    rw [List.flatten_cons, List.forall_mem_append] at hinherited
    rw [enumBlocks, enumItems_eq hb.items hb.names (List.disjoint_nil_right _) hinherited.1,
      List.flatten_cons, EnumItem.merge_append]
    exact ih hinherited.2

theorem enumeration_makes (base : FacetSet) (bs : List EnumBlock) :
    Makes (fun n => n.enumeration k base bs) fun f g => ∃ declared, base.Declares k bs declared ∧
      g = { f with enumeration := some (EnumItem.merge [] declared.flatten) } where
  sound n n' h hn' := by
    obtain ⟨⟨items, n₁⟩, h₁, h⟩ := bind_eq_ok h
    cases h
    obtain ⟨rfl, declared, hdeclares, rfl⟩ := enumBlocks_of_faultless h₁ hn'
    exact ⟨hn', declared, hdeclares, rfl⟩
  complete n g h := by
    obtain ⟨declared, hdeclares, rfl⟩ := h
    rw [enumeration, enumBlocks_eq hdeclares]
    rfl

/-! ### Patterns -/

theorem pattern_of_faultless {d : PatternDecl} (h : (n.pattern d).faults = []) :
    n.faults = [] ∧ Pattern.isValid d.pattern ∧
      (n.pattern d).result = { n.result with patterns := addPattern n.result.patterns d } := by
  unfold pattern at h ⊢
  split at h
  · exact absurd h (fault_faults_ne _ _)
  · rename_i hvalid
    rw [if_neg hvalid]
    unfold addPattern
    refine ⟨?_, by simpa using hvalid, ?_⟩
    · split at h <;> exact h
    · split <;> rfl

theorem pattern_eq {d : PatternDecl} (h : Pattern.isValid d.pattern) :
    n.pattern d = { n with result.patterns := addPattern n.result.patterns d } := by
  unfold pattern addPattern
  rw [if_neg (by simp [h])]
  split <;> rfl

theorem patterns_eq {ds : List PatternDecl} (h : ∀ d ∈ ds, Pattern.isValid d.pattern) :
    ds.foldl pattern n =
      { n with result.patterns := ds.foldl addPattern n.result.patterns } := by
  induction ds generalizing n with
  | nil => rfl
  | cons d rest ih =>
    obtain ⟨hd, hrest⟩ := List.forall_mem_cons.1 h
    rw [List.foldl_cons, pattern_eq hd, ih hrest]
    rfl

theorem patterns_makes (ds : List PatternDecl) :
    Makes (fun n => pure (ds.foldl pattern n)) fun f g =>
      g = { f with patterns := ds.foldl addPattern f.patterns } ∧
        ∀ d ∈ ds, Pattern.isValid d.pattern := by
  refine .of_pure (fun n h => ?_) fun n g ⟨hg, hvalid⟩ => ?_
  · induction ds generalizing n with
    | nil => exact ⟨h, rfl, fun _ hd => by cases hd⟩
    | cons d rest ih =>
      rw [List.foldl_cons] at h ⊢
      obtain ⟨hn, hresult, hvalid⟩ := ih _ h
      obtain ⟨hfaults, hd, heq⟩ := pattern_of_faultless hn
      rw [heq] at hresult
      exact ⟨hfaults, hresult, List.forall_mem_cons.2 ⟨hd, hvalid⟩⟩
  · subst hg
    exact patterns_eq hvalid

/-! ### All facets -/

end Narrowing

namespace FacetSet

variable {k : Kind} {base f : FacetSet} {block : FacetBlock}

/-- Facets that a block makes of others, facet after facet. -/
def MadeInStages (f : FacetSet) (k : Kind) (base : FacetSet) (block : FacetBlock) : Prop :=
  ∃ f₁, (block.lengthRange.elim (f₁ = base) fun d => k.admits .lengthRange ∧
      f₁ = { base with
        leastLength := d.least.or base.leastLength
        greatestLength := d.greatest.or base.greatestLength } ∧
      (∀ n m, d.least = some n → base.leastLength = some m → m ≤ n) ∧
      (∀ n m, d.greatest = some n → base.greatestLength = some m → n ≤ m) ∧
      ∀ n m, f₁.leastLength = some n → f₁.greatestLength = some m → n ≤ m) ∧
  ∃ f₂, (block.precision.elim (f₂ = f₁) fun d => k.admits .precision ∧
      f₂ = { f₁ with precision := some d.value } ∧ d.Fits 1 base.precision) ∧
  ∃ f₃, (block.scale.elim (f₃ = f₂) fun d => k.admits .scale ∧
      f₃ = { f₂ with scale := some d.value } ∧ d.Fits 0 base.scale) ∧
  ∃ f₄, (f₄ = f₃ ∧ ∀ n m, f₄.precision = some n → f₄.scale = some m → m ≤ n) ∧
  ∃ f₅, (block.valueRange.elim (f₅ = f₄) fun d => k.admits .valueRange ∧ ∃ b c,
      f₅ = { f₄ with least := b, greatest := c } ∧
      Bound.Becomes k Bound.narrowsLeast d.least base.least f₄.least b ∧
      Bound.Becomes k Bound.narrowsGreatest d.greatest base.greatest f₄.greatest c ∧
      ∀ l g, b = some l → c = some g → Bound.isOrdered l g) ∧
  ∃ f₆, (block.enums.head?.elim (f₆ = f₅) fun _ => k.admits .enumeration ∧
      ∃ declared, base.Declares k block.enums declared ∧
        f₆ = { f₅ with enumeration := some (EnumItem.merge [] declared.flatten) }) ∧
  ∃ f₇, (block.patterns.head?.elim (f₇ = f₆) fun _ => k.admits .pattern ∧
      f₇ = { f₆ with patterns := block.patterns.foldl addPattern f₆.patterns } ∧
      ∀ d ∈ block.patterns, Pattern.isValid d.pattern) ∧
  block.itemType.elim (f = f₇) fun _ => k.admits .listItemType ∧ f = f₇

open Narrowing in
theorem narrow_eq_ok_iff_madeInStages :
    narrow k base block = .ok (.ok f) ↔ f.MadeInStages k base block := by
  let placed (span : Option Span) := span.or block.span
  have hmakes := (Makes.facet (lengthRange_makes base) k .lengthRange block.lengthRange
      fun d => placed d.span).bind <|
    (Makes.facet (precision_makes base) k .precision block.precision fun d => placed d.span).bind <|
    (Makes.facet (scale_makes base) k .scale block.scale fun d => placed d.span).bind <|
    (scaleWithinPrecision_makes (placed (block.scale.bind (·.span)))).bind <|
    (Makes.facet (valueRange_makes (k := k) base) k .valueRange block.valueRange
      fun d => placed d.span).bind <|
    (Makes.facet (fun _ => enumeration_makes (k := k) base block.enums) k .enumeration
      block.enums.head? fun d => placed d.span).bind <|
    (Makes.facet (fun _ => patterns_makes block.patterns) k .pattern block.patterns.head?
      fun d => placed d.span).bind <|
    Makes.facet (fun _ => Makes.pure) k .listItemType block.itemType fun r => placed r.span
  constructor
  · intro h
    obtain ⟨n, hn, h⟩ := bind_eq_ok h
    split at h
    · rename_i hempty
      cases h
      exact (hmakes.sound ⟨base, []⟩ n hn (List.isEmpty_iff.1 hempty)).2
    · cases h
  · intro h
    have hn : narrowing k base block = .ok ⟨f, []⟩ := hmakes.complete ⟨base, []⟩ f h
    rw [narrow, hn]
    rfl

theorem MadeInStages.narrowed (h : f.MadeInStages k base block) : f.Narrowed k base block := by
  obtain ⟨f₁, hlengths, f₂, hprecision, f₃, hscale, f₄, ⟨rfl, hdigits⟩, f₅, hrange, f₆, hitems,
    f₇, hpatterns, hitem⟩ := h
  -- every stage leaves the facets alone that it is not about
  obtain ⟨l, g, rfl⟩ : ∃ l g, f₁ = ⟨l, g, base.precision, base.scale, base.least, base.greatest,
      base.enumeration, base.patterns⟩ :=
    of_elim hlengths (fun h => ⟨_, _, h⟩) fun _ h => ⟨_, _, h.2.1⟩
  obtain ⟨p, rfl⟩ : ∃ p, f₂ = ⟨l, g, p, base.scale, base.least, base.greatest, base.enumeration,
      base.patterns⟩ :=
    of_elim hprecision (fun h => ⟨_, h⟩) fun _ h => ⟨_, h.2.1⟩
  obtain ⟨s, rfl⟩ : ∃ s, f₄ = ⟨l, g, p, s, base.least, base.greatest, base.enumeration,
      base.patterns⟩ :=
    of_elim hscale (fun h => ⟨_, h⟩) fun _ h => ⟨_, h.2.1⟩
  obtain ⟨b, c, rfl⟩ : ∃ b c, f₅ = ⟨l, g, p, s, b, c, base.enumeration, base.patterns⟩ :=
    of_elim hrange (fun h => ⟨_, _, h⟩) fun _ ⟨_, _, _, h, _⟩ => ⟨_, _, h⟩
  obtain ⟨items, rfl⟩ : ∃ items, f₆ = ⟨l, g, p, s, b, c, items, base.patterns⟩ :=
    of_elim hitems (fun h => ⟨_, h⟩) fun _ ⟨_, _, _, h⟩ => ⟨_, h⟩
  obtain ⟨patterns, rfl⟩ : ∃ patterns, f₇ = ⟨l, g, p, s, b, c, items, patterns⟩ :=
    of_elim hpatterns (fun h => ⟨_, h⟩) fun _ h => ⟨_, h.2.1⟩
  obtain rfl := of_elim hitem id fun _ h => h.2
  exact {
    lengths := elim_imp hlengths
      (fun h => ⟨(congrArg leastLength h :), (congrArg greatestLength h :)⟩)
      fun _ ⟨hk, h, hrest⟩ => ⟨hk, congrArg leastLength h, congrArg greatestLength h, hrest⟩
    precision := elim_imp hprecision (congrArg FacetSet.precision)
      fun _ ⟨hk, h, hfits⟩ => ⟨hk, hfits, congrArg FacetSet.precision h⟩
    scale := elim_imp hscale (congrArg FacetSet.scale)
      fun _ ⟨hk, h, hfits⟩ => ⟨hk, hfits, congrArg FacetSet.scale h⟩
    digits := hdigits
    range := elim_imp hrange (fun h => ⟨(congrArg least h :), (congrArg greatest h :)⟩)
      fun _ ⟨hk, _, _, h, hrest⟩ => by
        cases h
        exact ⟨hk, hrest⟩
    enumeration := elim_imp hitems (congrArg FacetSet.enumeration)
      fun _ ⟨hk, declared, hdeclared, h⟩ =>
        ⟨hk, declared, hdeclared, congrArg FacetSet.enumeration h⟩
    patterns := elim_imp hpatterns (congrArg FacetSet.patterns)
      fun _ ⟨hk, h, hvalid⟩ => ⟨hk, hvalid, congrArg FacetSet.patterns h⟩
    itemType := elim_imp hitem (fun _ => trivial) fun _ h => h.1 }

theorem Narrowed.madeInStages (h : f.Narrowed k base block) : f.MadeInStages k base block := by
  refine ⟨{ base with leastLength := f.leastLength, greatestLength := f.greatestLength }, ?_,
    { base with
      leastLength := f.leastLength, greatestLength := f.greatestLength, precision := f.precision },
    ?_, { f with
      least := base.least, greatest := base.greatest, enumeration := base.enumeration,
      patterns := base.patterns }, ?_, _, ⟨rfl, h.digits⟩,
    { f with enumeration := base.enumeration, patterns := base.patterns }, ?_,
    { f with patterns := base.patterns }, ?_, f, ?_, ?_⟩
  · exact elim_imp h.lengths (fun ⟨hl, hg⟩ => by rw [hl, hg])
      fun _ ⟨hk, hl, hg, hrest⟩ => ⟨hk, by rw [hl, hg], hrest⟩
  · exact elim_imp h.precision (fun hp => by rw [hp])
      fun _ ⟨hk, hfits, hp⟩ => ⟨hk, by rw [hp], hfits⟩
  · exact elim_imp h.scale (fun hs => by rw [hs])
      fun _ ⟨hk, hfits, hs⟩ => ⟨hk, by rw [hs], hfits⟩
  · exact elim_imp h.range (fun ⟨hb, hc⟩ => by rw [hb, hc])
      fun _ ⟨hk, hrest⟩ => ⟨hk, _, _, rfl, hrest⟩
  · exact elim_imp h.enumeration (fun hi => by rw [hi])
      fun _ ⟨hk, declared, hdeclared, hi⟩ => ⟨hk, declared, hdeclared, by rw [hi]⟩
  · exact elim_imp h.patterns (fun hp => by rw [← hp])
      fun _ ⟨hk, hvalid, hp⟩ => ⟨hk, by rw [← hp], hvalid⟩
  · exact elim_imp h.itemType (fun _ => rfl) fun _ hk => ⟨hk, rfl⟩

/-- What a block makes of facets without a fault. -/
theorem narrow_eq_ok_iff : narrow k base block = .ok (.ok f) ↔ f.Narrowed k base block :=
  narrow_eq_ok_iff_madeInStages.trans ⟨MadeInStages.narrowed, Narrowed.madeInStages⟩

end FacetSet

end Schemata
