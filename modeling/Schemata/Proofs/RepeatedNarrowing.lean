import Schemata.Proofs.FaultlessNarrowing
import Schemata.Proofs.SimpleTypes

/-!
# Narrowing by the same block again

A block that narrows facets declares what the outcome has, so it narrows the outcome to itself
(`narrow_again`): a count is not greater than itself, a bound is as tight as itself, the values of
the enumeration are all inherited and come in the same order under the same names, and all patterns
are there. Only a bound that is not a number does not compare with itself.
-/

namespace Schemata

/-- The literals of the declared bounds on values. -/
def FacetBlock.boundLiterals (block : FacetBlock) : List String :=
  block.valueRange.elim [] fun d => (d.least.toList ++ d.greatest.toList).map (·.literal)

/-! ## Bounds -/

namespace Atomic

theorem Key.compare?_self (l : Key) : l.compare? l = some .eq := by
  cases l <;> exact congrArg some Std.ReflCmp.compare_self

/-- A value of a kind that has bounds compares with itself unless it is not a number. -/
theorem compare?_self {v : Atomic} (hk : v.kind.admits .valueRange)
    (hnan : v.asDouble? ≠ some .nan) : v.compare? v = some .eq := by
  obtain ⟨l, hl⟩ : ∃ l, v.key? = some l := by
    cases v with
    | string | ignoreCaseString | boolean | binary | guid => cases hk
    | decimal | integer | duration | dateTime => exact ⟨_, rfl⟩
    | double x | single x =>
      cases x with
      | nan => exact absurd rfl hnan
      | number => exact ⟨_, rfl⟩
  rw [compare?_eq, hl]
  exact l.compare?_self

end Atomic

namespace Bound

variable {b : Bound}

theorem narrowsLeast_self (h : b.value.compare? b.value = some .eq) : b.narrowsLeast b := by
  rw [narrowsLeast, h]
  exact Bool.or_not_self _

theorem narrowsGreatest_self (h : b.value.compare? b.value = some .eq) : b.narrowsGreatest b := by
  rw [narrowsGreatest, h]
  exact Bool.or_not_self _

/-- A declared bound becomes itself. -/
theorem Becomes.again {k : Kind} {narrows : Bound → Bound → Bool} {d : Option BoundDecl}
    {inherited current result : Option Bound} (h : Becomes k narrows d inherited current result)
    (hself : ∀ d' ∈ d, ∀ b, d'.Declares k b → narrows b b) :
    Becomes k narrows d result result result := by
  cases d with
  | none => rfl
  | some d =>
    obtain ⟨b, hb, rfl, -⟩ := h
    exact ⟨b, hb, rfl, fun c hc => Option.some.inj hc ▸ hself d rfl b hb⟩

end Bound

/-! ## Enumerations -/

namespace FacetSet

variable {items merged : List EnumItem} {v : Atomic}

theorem enumerates_addItem {i : EnumItem} :
    enumerates (Narrowing.addItem i items) v ↔ enumerates items v ∨ i.value.equal v := by
  induction items with
  | nil => simp [Narrowing.addItem, enumerates]
  | cons other rest ih =>
    unfold Narrowing.addItem
    split
    · rename_i heq
      have hiff : i.value.equal v → other.value.equal v := Atomic.equal_trans heq
      simp only [enumerates, List.any_cons, Bool.or_eq_true]
      tauto
    · simp only [enumerates, List.any_cons, Bool.or_eq_true] at ih ⊢
      rw [ih, or_assoc]

/-- Merged items have the values of both lists. -/
theorem enumerates_merge :
    enumerates (EnumItem.merge merged items) v ↔ enumerates merged v ∨ enumerates items v := by
  unfold EnumItem.merge
  induction items generalizing merged with
  | nil => simp [enumerates]
  | cons i rest ih =>
    rw [List.foldl_cons, ih, enumerates_addItem, or_assoc]
    simp only [enumerates, List.any_cons, Bool.or_eq_true]

/-! ## Patterns -/

variable {patterns : List String}

theorem mem_addPattern {d : PatternDecl} {p : String} :
    p ∈ addPattern patterns d ↔ p ∈ patterns ∨ p = d.pattern := by
  unfold addPattern
  split
  · rename_i hmem
    have hd : d.pattern ∈ patterns := by simpa using hmem
    exact ⟨Or.inl, fun h => h.elim id fun h => h ▸ hd⟩
  · simp

theorem mem_foldl_addPattern {ds : List PatternDecl} {p : String} :
    p ∈ ds.foldl addPattern patterns ↔ p ∈ patterns ∨ ∃ d ∈ ds, p = d.pattern := by
  induction ds generalizing patterns with
  | nil => simp
  | cons d rest ih =>
    rw [List.foldl_cons, ih, mem_addPattern, or_assoc]
    simp only [List.mem_cons, exists_eq_or_imp]

/-- Patterns that are there are not added once more. -/
theorem foldl_addPattern_eq {ds : List PatternDecl} (h : ∀ d ∈ ds, d.pattern ∈ patterns) :
    ds.foldl addPattern patterns = patterns := by
  induction ds with
  | nil => rfl
  | cons d rest ih =>
    obtain ⟨hd, hrest⟩ := List.forall_mem_cons.1 h
    rw [List.foldl_cons, addPattern, if_pos (by simpa using hd)]
    exact ih hrest

/-! ## All facets -/

variable {k : Kind} {base f : FacetSet} {block : FacetBlock}

theorem Narrowed.again (h : f.Narrowed k base block)
    (hbounds : ∀ literal ∈ block.boundLiterals, ∀ v, Atomic.read k literal = .ok (some v) →
      v.asDouble? ≠ some .nan) : f.Narrowed k f block where
  lengths := by
    refine elim_imp h.lengths (fun _ => ⟨rfl, rfl⟩) fun d ⟨hk, hl, hg, _, _, hordered⟩ => ?_
    refine ⟨hk, ?_, ?_, fun n m hn hm => ?_, fun n m hn hm => ?_, hordered⟩
    · cases hd : d.least <;> simp [hl, hd]
    · cases hd : d.greatest <;> simp [hg, hd]
    · rw [hl, hn] at hm
      exact (Option.some.inj hm).ge
    · rw [hg, hn] at hm
      exact (Option.some.inj hm).le
  precision := elim_imp h.precision (fun _ => rfl) fun d ⟨hk, hfits, hp⟩ =>
    ⟨hk, ⟨hfits.range, fun n hn => (Option.some.inj (hp.symm.trans hn)).le⟩, hp⟩
  scale := elim_imp h.scale (fun _ => rfl) fun d ⟨hk, hfits, hs⟩ =>
    ⟨hk, ⟨hfits.range, fun n hn => (Option.some.inj (hs.symm.trans hn)).le⟩, hs⟩
  digits := h.digits
  range := by
    have hrange := h.range
    cases hd : block.valueRange with
    | none => exact ⟨rfl, rfl⟩
    | some d =>
      rw [hd] at hrange
      obtain ⟨hk, hleast, hgreatest, hordered⟩ := hrange
      have hself : ∀ d' ∈ d.least.toList ++ d.greatest.toList, ∀ b, d'.Declares k b →
          b.value.compare? b.value = some .eq := by
        intro d' hd' b hb
        have hliteral : d'.literal ∈ block.boundLiterals := by
          rw [FacetBlock.boundLiterals, hd]
          exact List.mem_map_of_mem hd'
        exact Atomic.compare?_self (Atomic.kind_read hb.value ▸ hk) (hbounds _ hliteral _ hb.value)
      refine ⟨hk, hleast.again fun d' hd' b hb => ?_, hgreatest.again fun d' hd' b hb => ?_,
        hordered⟩
      · exact Bound.narrowsLeast_self
          (hself d' (List.mem_append_left _ (Option.mem_toList.2 hd')) b hb)
      · exact Bound.narrowsGreatest_self
          (hself d' (List.mem_append_right _ (Option.mem_toList.2 hd')) b hb)
  enumeration := by
    refine elim_imp h.enumeration (fun _ => rfl) fun _ ⟨hk, declared, hdeclared, hitems⟩ => ?_
    refine ⟨hk, declared, ⟨hdeclared.blocks, fun i hi => ?_⟩, hitems⟩
    rw [hitems]
    exact enumerates_merge.2 (Or.inr (enumerates_of_mem hi))
  patterns := by
    refine elim_imp h.patterns (fun _ => rfl) fun _ ⟨hk, hvalid, hp⟩ => ⟨hk, hvalid, ?_⟩
    refine (foldl_addPattern_eq fun d hd => ?_).symm
    rw [hp]
    exact mem_foldl_addPattern.2 (Or.inr ⟨d, hd, rfl⟩)
  itemType := h.itemType

end FacetSet

/-- A block that narrows facets narrows the outcome to itself, unless a bound is not a number. -/
theorem narrow_again {k : Kind} {base f : FacetSet} {block : FacetBlock}
    (h : narrow k base block = .ok (.ok f))
    (hbounds : ∀ literal ∈ block.boundLiterals, ∀ v, Atomic.read k literal = .ok (some v) →
      v.asDouble? ≠ some .nan) : narrow k f block = .ok (.ok f) :=
  FacetSet.narrow_eq_ok_iff.2 ((FacetSet.narrow_eq_ok_iff.1 h).again hbounds)

/-- Marks from 1 up to 6, of which two are admitted. Each of them is declared twice, in two ways. -/
def grades : FacetBlock where
  valueRange := some
    { least := some { literal := "1" }
      greatest := some { literal := "6", isInclusive := false } }
  enums := [
    { items := [{ literal := "2" }, { literal := "1", name := some { text := "best" } }] },
    { items := [{ literal := "+2", name := some { text := "good" } },
        { literal := "01", name := some { text := "top" } }] }]
  patterns := [{ pattern := "[0-9]" }]

/-- The facets that the marks have. -/
def gradeFacets : FacetSet where
  least := some ⟨.integer .byte 1 (by decide), true⟩
  greatest := some ⟨.integer .byte 6 (by decide), false⟩
  enumeration := some [⟨.integer .byte 2 (by decide), some "good"⟩,
    ⟨.integer .byte 1 (by decide), some "best"⟩]
  patterns := ["[0-9]"]

theorem narrow_grades : narrow (.integer .byte) {} grades = .ok (.ok gradeFacets) := by
  have hvalid : ∀ d ∈ grades.patterns, Pattern.isValid d.pattern := by decide +kernel
  simp only [narrow, narrowing, Narrowing.patterns_eq hvalid]
  rfl

theorem narrow_grades_again :
    (narrow (.integer .byte) {} grades = .ok (.ok gradeFacets) ∧
      ∀ literal ∈ grades.boundLiterals, ∀ v, Atomic.read (.integer .byte) literal = .ok (some v) →
        v.asDouble? ≠ some .nan) ∧
    narrow (.integer .byte) gradeFacets grades = .ok (.ok gradeFacets) := by
  have hbounds : ∀ literal ∈ grades.boundLiterals, ∀ v,
      Atomic.read (.integer .byte) literal = .ok (some v) → v.asDouble? ≠ some .nan := by
    intro literal _ v hv
    cases v with
    | double x | single x => cases Atomic.kind_read hv
    | _ => simp [Atomic.asDouble?]
  exact ⟨⟨narrow_grades, hbounds⟩, narrow_again narrow_grades hbounds⟩

end Schemata
