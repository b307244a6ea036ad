import Schemata.Proofs.Trails
import Schemata.Proofs.Trees

/-!
# Well-formed trees

`Tree.WellFormed` is what every tree keeps that is built by operations: an owner is the parent of
what it owns, and both the way up to the root and the chain of references from an attribute or an
element come to an end. It is kept by each way to write: a new object, a new parent for a root, and
an object that owns something else in place of what it owned (`Object.Exchanges`).

A parent need not own its child; that one does is `Tree.Complete`.

What a reference leads to in such a tree is found by every walk along references.
-/

namespace Schemata

open Relation

/-- An object owns another one in place of one that it owned, and is of the same sort. -/
structure Object.Exchanges (o : Object) (old new : Option ObjectId) (o' : Object) : Prop where
  sort_eq : o'.sort = o.sort
  mem_owned : ∀ y, y ∈ o'.owned ↔ y ∈ o.owned ∧ old ≠ some y ∨ new = some y
  nodup_owned : o'.owned.Nodup

namespace Tree

/-- Owners are parents, and the links upwards and the references come to an end. -/
structure WellFormed (t : Tree) : Prop where
  has_parent : ∀ x y, t.parent? x = some y → t.Has y
  parent_of_owns : ∀ x y, t.Owns x y → t.parent? y = some x
  nodup_owned : ∀ x, (t.owned x).Nodup
  ancestors_end : Ends t.parent?
  sort_of_target : ∀ x y, t.target? x = some y → t.sort? y = t.sort? x
  references_end : Ends t.target?

/-- Parents own their children. -/
def Complete (t : Tree) : Prop := ∀ x y, t.parent? y = some x → t.Owns x y

variable {t t' : Tree} {x y owner c p : ObjectId} {old new : Option ObjectId} {o : Object}
  {f : Object → Object}

theorem wellFormed_empty : ({} : Tree).WellFormed where
  has_parent x y h := by cases h
  parent_of_owns x y h := by cases h
  nodup_owned x := List.nodup_nil
  ancestors_end x := ⟨[x], .last rfl⟩
  sort_of_target x y h := by cases h
  references_end x := ⟨[x], .last rfl⟩

theorem complete_empty : ({} : Tree).Complete := by
  intro x y h
  cases h

namespace WellFormed

theorem has_of_owns (h : t.WellFormed) (hxy : t.Owns x y) : t.Has y :=
  has_of_parent? (h.parent_of_owns x y hxy)

theorem has_of_target (h : t.WellFormed) (hxy : t.target? x = some y) : t.Has y := by
  obtain ⟨o, ho⟩ := has_iff_object?.1 (has_of_target? hxy)
  have hs := h.sort_of_target x y hxy
  rw [sort?_eq ho] at hs
  obtain ⟨o', ho', -⟩ := Option.map_eq_some_iff.1 hs
  exact has_of_object? ho'

theorem nodup_owned_of_object? (h : t.WellFormed) (ho : t.object? x = some o) : o.owned.Nodup :=
  owned_eq ho ▸ h.nodup_owned x

/-- Whoever is above an object that owns something is above that. -/
theorem not_owns_of_reaches (h : t.WellFormed) (hxy : ReflTransGen t.Owns x y) : ¬t.Owns y x := by
  intro hyx
  have hup : TransGen t.Owns x x := TransGen.tail' hxy hyx
  refine h.ancestors_end.not_transGen x (transGen_swap.1 ?_)
  exact TransGen.mono (fun a b hab => h.parent_of_owns a b hab) _ _ hup

/-- Objects stay what they are, and they keep the parents that they have. -/
theorem of_objects (h : t.WellFormed) (howned : ∀ x, t'.owned x = t.owned x)
    (htarget : ∀ x, t'.target? x = t.target? x) (hsort : ∀ x, t.Has x → t'.sort? x = t.sort? x)
    (hhas : ∀ x y, t'.parent? x = some y → t'.Has y)
    (hup : ∀ x y, t.parent? x = some y → t'.parent? x = some y) (hend : Ends t'.parent?) :
    t'.WellFormed where
  has_parent := hhas
  parent_of_owns x y hxy := by
    rw [Owns, howned] at hxy
    exact hup y x (h.parent_of_owns x y hxy)
  nodup_owned x := by
    rw [howned]
    exact h.nodup_owned x
  ancestors_end := hend
  sort_of_target x y hxy := by
    rw [htarget] at hxy
    rw [hsort x (has_of_target? hxy), hsort y (h.has_of_target hxy)]
    exact h.sort_of_target x y hxy
  references_end := by
    rw [funext htarget]
    exact h.references_end

/-- Places do not matter. -/
theorem withSpan (h : t.WellFormed) (span : Span) : (t.withSpan x span).WellFormed := by
  have hpar : (t.withSpan x span).parent? = t.parent? := funext fun _ => parent?_withSpan span
  refine h.of_objects (fun y => ?_) (fun y => ?_) (fun y _ => ?_) (fun y z hyz => ?_)
    (fun y z hyz => ?_) ?_
  · exact owned_congr (object?_withSpan span)
  · exact target?_congr (object?_withSpan span)
  · exact sort?_congr (object?_withSpan span)
  · rw [hpar] at hyz
    exact (has_modify _).2 (h.has_parent y z hyz)
  · rw [hpar, hyz]
  · rw [hpar]
    exact h.ancestors_end

/-- There is one more object, which owns nothing and refers to nothing. -/
theorem create (h : t.WellFormed) (howned : o.owned = []) (htarget : o.target? = none) :
    (t.push { object := o }).2.WellFormed := by
  have hnew : ¬t.Has ⟨t.size⟩ := Nat.lt_irrefl _
  have hnone : t.object? ⟨t.size⟩ = none := by rw [object?, node?_of_not_has hnew]; rfl
  have hpar : (t.push { object := o }).2.parent? = t.parent? := funext fun _ => parent?_push o
  refine h.of_objects (fun y => ?_) (fun y => ?_) (fun y hy => ?_) (fun y z hyz => ?_)
    (fun y z hyz => ?_) ?_
  · rw [owned, object?_push, owned]
    split
    · subst y
      rw [hnone, Option.elim_some, Option.elim_none, howned]
    · rfl
  · rw [target?, object?_push, target?]
    split
    · subst y
      rw [hnone, Option.bind_some, Option.bind_none, htarget]
    · rfl
  · rw [sort?, object?_push, if_neg, sort?]
    rintro rfl
    exact hnew hy
  · rw [Has, size_push]
    rw [hpar] at hyz
    exact Nat.lt_succ_of_lt (h.has_parent y z hyz)
  · rw [hpar, hyz]
  · rw [hpar]
    exact h.ancestors_end

/-- A root gets a parent that it is not above. -/
theorem withParent (h : t.WellFormed) (hc : t.Has c) (hp : t.Has p) (hroot : t.parent? c = none)
    (hapart : ∃ l, Trail t.parent? p l ∧ c ∉ l) : (t.withParent c (some p)).WellFormed := by
  refine h.of_objects (fun y => ?_) (fun y => ?_) (fun y _ => ?_) (fun y z hyz => ?_)
    (fun y z hyz => ?_) ?_
  · exact owned_congr (object?_withParent _)
  · exact target?_congr (object?_withParent _)
  · exact sort?_congr (object?_withParent _)
  · rw [parent?_withParent hc] at hyz
    refine (has_modify _).2 ?_
    split at hyz
    · exact Option.some.inj hyz ▸ hp
    · exact h.has_parent y z hyz
  · rw [parent?_withParent hc, if_neg, hyz]
    rintro rfl
    cases hroot.symm.trans hyz
  · refine h.ancestors_end.update (c := c) (fun y hy => ?_) fun y hy => ?_
    · rw [parent?_withParent hc, if_neg hy]
    · rw [parent?_withParent hc, if_pos rfl] at hy
      exact Option.some.inj hy ▸ hapart

end WellFormed

/-! ## Exchanges -/

/-- The tree in which an object is a root again. -/
def detached (t : Tree) : Option ObjectId → Tree
  | none => t
  | some id => t.withParent id none

theorem object?_detached (old : Option ObjectId) : (t.detached old).object? x = t.object? x := by
  cases old with
  | none => rfl
  | some id => exact object?_withParent none

theorem parent?_detached (hold : ∀ y, old = some y → t.Has y) :
    (t.detached old).parent? x = if old = some x then none else t.parent? x := by
  cases old with
  | none => simp [detached]
  | some id => simp [detached, parent?_withParent (hold id rfl), eq_comm]

/-- The tree in which an object has become another one, and what it gave away is a root. -/
def exchanged (t : Tree) (owner : ObjectId) (old : Option ObjectId) (f : Object → Object) : Tree :=
  (t.detached old).withObject owner f

section Exchanged

variable (ho : t.object? owner = some o) (hex : o.Exchanges old new (f o))
  (hold : ∀ y, old = some y → y ∈ o.owned)

theorem object?_exchanged : (t.exchanged owner old f).object? x =
    if x = owner then (t.object? x).map f else t.object? x := by
  rw [exchanged, object?_withObject, object?_detached]

include ho in
theorem object?_exchanged_self : (t.exchanged owner old f).object? owner = some (f o) := by
  rw [object?_exchanged, if_pos rfl, ho, Option.map_some]

theorem object?_exchanged_of_ne (hx : x ≠ owner) :
    (t.exchanged owner old f).object? x = t.object? x := by
  rw [object?_exchanged, if_neg hx]

theorem has_exchanged : (t.exchanged owner old f).Has x ↔ t.Has x := by
  rw [has_iff_object?, has_iff_object?, object?_exchanged]
  split <;> simp

variable (h : t.WellFormed)

include ho hold h in
theorem parent?_exchanged : (t.exchanged owner old f).parent? x =
    if old = some x then none else t.parent? x := by
  rw [exchanged, parent?_withObject, parent?_detached fun y hy => ?_]
  exact h.has_of_owns ((owns_iff ho).2 (hold y hy))

include ho hex in
theorem owns_exchanged : (t.exchanged owner old f).Owns x y ↔
    if x = owner then t.Owns x y ∧ old ≠ some y ∨ new = some y else t.Owns x y := by
  split
  · subst x
    rw [owns_iff (object?_exchanged_self ho), hex.mem_owned, owns_iff ho]
  · rename_i hx
    exact owns_congr (object?_exchanged_of_ne hx)

include ho hex in
theorem sort?_exchanged : (t.exchanged owner old f).sort? x = t.sort? x := by
  by_cases hx : x = owner
  · subst x
    rw [sort?_eq (object?_exchanged_self ho), sort?_eq ho, hex.sort_eq]
  · exact sort?_congr (object?_exchanged_of_ne hx)

theorem target?_exchanged_of_ne (hx : x ≠ owner) :
    (t.exchanged owner old f).target? x = t.target? x :=
  target?_congr (object?_exchanged_of_ne hx)

include ho hex hold h in
/-- The owner takes an object whose parent it is, and refers to nothing that refers to it. -/
theorem WellFormed.exchanged
    (hnew : ∀ y, new = some y → t.parent? y = some owner ∧ old ≠ some y)
    (htarget : ∀ g, (f o).target? = some g →
      t.sort? g = t.sort? owner ∧ ∃ l, Trail t.target? g l ∧ owner ∉ l) :
    (t.exchanged owner old f).WellFormed := by
  have hself : (t.exchanged owner old f).target? owner = (f o).target? :=
    target?_eq (object?_exchanged_self ho)
  constructor
  · intro x y hxy
    rw [parent?_exchanged ho hold h] at hxy
    split at hxy
    · cases hxy
    · exact has_exchanged.2 (h.has_parent x y hxy)
  · intro x y hxy
    rw [owns_exchanged ho hex] at hxy
    rw [parent?_exchanged ho hold h]
    split at hxy
    · subst x
      rcases hxy with ⟨hy, hne⟩ | hy
      · rw [if_neg hne, h.parent_of_owns owner y hy]
      · obtain ⟨hp, hne⟩ := hnew y hy
        rw [if_neg hne, hp]
    · -- what is given away belonged to the owner, so nobody else owns it
      rename_i hx
      have hp := h.parent_of_owns x y hxy
      rw [if_neg, hp]
      intro hy
      have hp' := h.parent_of_owns owner y ((owns_iff ho).2 (hold y hy))
      exact hx (Option.some.inj (hp.symm.trans hp'))
  · intro x
    by_cases hx : x = owner
    · subst x
      rw [owned_eq (object?_exchanged_self ho)]
      exact hex.nodup_owned
    · rw [owned_congr (object?_exchanged_of_ne hx)]
      exact h.nodup_owned x
  · intro x
    exact h.ancestors_end.of_map id (fun a b hab => by
      rw [parent?_exchanged ho hold h] at hab
      split at hab
      · cases hab
      · exact hab) x
  · intro x y hxy
    rw [sort?_exchanged ho hex, sort?_exchanged ho hex]
    by_cases hx : x = owner
    · subst x
      exact (htarget y (hself ▸ hxy)).1
    · exact h.sort_of_target x y (target?_exchanged_of_ne hx ▸ hxy)
  · refine h.references_end.update (c := owner) (fun x hx => target?_exchanged_of_ne hx) ?_
    intro g hg
    exact (htarget g (hself ▸ hg)).2

include ho hex hold h in
/-- If only what the owner takes had a parent that did not own it, then none is left. -/
theorem complete_exchanged (hc : ∀ x y, t.parent? y = some x → new = some y ∨ t.Owns x y)
    (hnew : ∀ y, new = some y → t.parent? y = some owner) :
    (t.exchanged owner old f).Complete := by
  intro x y hxy
  rw [parent?_exchanged ho hold h] at hxy
  rw [owns_exchanged ho hex]
  split at hxy
  · cases hxy
  · rename_i hne
    rcases hc x y hxy with hy | hy
    · rw [if_pos (Option.some.inj (hxy.symm.trans (hnew y hy)))]
      exact Or.inr hy
    · split
      · exact Or.inl ⟨hy, hne⟩
      · exact hy

end Exchanged

end Tree

/-!
## References of well-formed trees

The chain of references from an attribute or an element is its trail along `Tree.target?`. In a
well-formed tree it stays among objects of one sort and ends at one with a slot of its own. Every
walk along references has fuel for the whole chain: `Tree.effective` finds its end,
`Tree.referenceDepth` counts its references, and `Edit.refersTo` finds whatever is on it.
-/

/-- The slot of an object tells what it refers to. -/
theorem Object.target?_eq_some {o : Object} {y : ObjectId} :
    o.target? = some y ↔ o.slot? = some (.reference y) := by
  rw [target?, Option.bind_eq_some_iff]
  constructor
  · rintro ⟨s, hs, hy⟩
    cases s with
    | direct => cases hy
    | reference z => cases hy; exact hs
  · exact fun h => ⟨_, h, rfl⟩

theorem Object.exists_slot? {o : Object} :
    (∃ s, o.slot? = some s) ↔ o.sort = .attr ∨ o.sort = .element := by
  cases o <;> simp [slot?, sort]

namespace Tree

variable {t : Tree} {x y e : ObjectId} {l : List ObjectId} {s : Slot}

theorem target?_eq_some : t.target? x = some y ↔ t.slot x = .ok (.reference y) := by
  rw [slot_eq_ok, target?, Option.bind_eq_some_iff]
  exact exists_congr fun o => and_congr_right fun _ => Object.target?_eq_some

theorem exists_slot : (∃ s, t.slot x = .ok s) ↔
    t.sort? x = some .attr ∨ t.sort? x = some .element := by
  constructor
  · rintro ⟨s, hs⟩
    obtain ⟨o, ho, hs⟩ := slot_eq_ok.1 hs
    rw [sort?_eq ho, Option.some.injEq, Option.some.injEq]
    exact Object.exists_slot?.1 ⟨s, hs⟩
  · intro h
    have hsome : ∃ o, t.object? x = some o ∧ (o.sort = .attr ∨ o.sort = .element) := by
      rcases h with h | h
      all_goals
        obtain ⟨o, ho, hso⟩ := Option.map_eq_some_iff.1 h
        exact ⟨o, ho, by simp [hso]⟩
    obtain ⟨o, ho, hso⟩ := hsome
    obtain ⟨s, hs⟩ := Object.exists_slot?.2 hso
    exact ⟨s, slot_eq_ok.2 ⟨o, ho, hs⟩⟩

/-- An attribute or an element at the end of a chain has a slot of its own. -/
theorem exists_direct (hs : t.slot x = .ok s) (hn : t.target? x = none) : ∃ v, s = .direct v := by
  cases s with
  | direct v => exact ⟨v, rfl⟩
  | reference y => cases hn.symm.trans (target?_eq_some.2 hs)

/-- References stay among objects of one sort. -/
theorem sort?_of_mem_trail (h : t.WellFormed) (hl : Trail t.target? x l) :
    ∀ y ∈ l, t.sort? y = t.sort? x := by
  induction hl with
  | last => exact fun y hy => List.mem_singleton.1 hy ▸ rfl
  | step hx _ ih =>
    intro y hy
    rcases List.mem_cons.1 hy with rfl | hy
    · rfl
    · exact (ih y hy).trans (h.sort_of_target _ _ hx)

/-- The walks have enough fuel. -/
theorem length_trail_le (h : t.WellFormed) (hl : Trail t.target? x l) : l.length ≤ t.size + 1 := by
  obtain ⟨l', rfl⟩ := hl.exists_cons
  refine Nat.succ_le_succ (length_le_size (List.nodup_cons.1 hl.nodup).2 fun y hy => ?_)
  obtain ⟨z, hz⟩ := hl.exists_of_mem_tail hy
  exact h.has_of_target hz

/-! ### Walks -/

/-- What is not found is not on the chain. -/
theorem not_mem_of_refersTo {holder : ObjectId} (hl : Trail t.target? x l) {fuel : Nat}
    (hfuel : l.length ≤ fuel) (hr : Edit.refersTo t holder fuel x = .ok false) : holder ∉ l := by
  induction hl generalizing fuel with
  | @last x hx =>
    obtain ⟨fuel, rfl⟩ := (Trail.last hx).exists_succ hfuel
    rw [List.mem_singleton]
    rintro rfl
    simp [Edit.refersTo] at hr
  | @step x y l hx rest ih =>
    obtain ⟨fuel, rfl⟩ := (Trail.step hx rest).exists_succ hfuel
    rw [Edit.refersTo, target?_eq_some.1 hx] at hr
    rw [List.mem_cons, not_or]
    split at hr
    · cases hr
    · rename_i hne
      exact ⟨fun e => hne e.symm, ih (by simpa using hfuel) hr⟩

/-- The walk to the effective one comes to the end of the chain. -/
theorem followReferences_ok (h : t.WellFormed) (start : ObjectId) (hl : Trail t.target? x l)
    (hs : t.slot x = .ok s) {fuel : Nat} (hfuel : l.length ≤ fuel) (passed : List ObjectId)
    (hpassed : ∀ y ∈ l, y ∉ passed) :
    ∃ e v, t.followReferences start fuel passed x = .ok e ∧ l.getLast? = some e ∧
      t.slot e = .ok (.direct v) := by
  induction hl generalizing fuel passed s with
  | @last x hx =>
    obtain ⟨fuel, rfl⟩ := (Trail.last hx).exists_succ hfuel
    obtain ⟨v, rfl⟩ := exists_direct hs hx
    have hnot : passed.contains x = false := by simpa using hpassed x (by simp)
    refine ⟨x, v, ?_, rfl, hs⟩
    rw [followReferences, hnot, hs]
    rfl
  | @step x y l hx rest ih =>
    obtain ⟨fuel, rfl⟩ := (Trail.step hx rest).exists_succ hfuel
    have hnot : passed.contains x = false := by simpa using hpassed x (by simp)
    obtain ⟨s', hs'⟩ : ∃ s', t.slot y = .ok s' := by
      rw [exists_slot, h.sort_of_target x y hx, ← exists_slot]
      exact ⟨s, hs⟩
    obtain ⟨e, v, hf, he, hv⟩ := ih hs' (by simpa using hfuel) (x :: passed) fun z hz hmem => by
      rcases List.mem_cons.1 hmem with rfl | hmem
      · exact Trail.not_mem_of_step hx rest hz
      · exact hpassed z (List.mem_cons_of_mem _ hz) hmem
    refine ⟨e, v, ?_, ?_, hv⟩
    · rw [followReferences, hnot, target?_eq_some.1 hx]
      exact hf
    · obtain ⟨l', rfl⟩ := rest.exists_cons
      rw [List.getLast?_cons_cons, he]

/-- The count goes to the end of the chain. -/
theorem referencesTo_ok (hl : Trail t.target? x l) (he : l.getLast? = some e) {fuel : Nat}
    (hfuel : l.length ≤ fuel) : t.referencesTo e fuel x = .ok (l.length - 1) := by
  induction hl generalizing fuel with
  | @last x hx =>
    obtain ⟨fuel, rfl⟩ := (Trail.last hx).exists_succ hfuel
    obtain rfl : x = e := by simpa using he
    rw [referencesTo, if_pos rfl]
    rfl
  | @step x y l hx rest ih =>
    obtain ⟨fuel, rfl⟩ := (Trail.step hx rest).exists_succ hfuel
    obtain ⟨l', rfl⟩ := rest.exists_cons
    rw [List.getLast?_cons_cons] at he
    have hne : x ≠ e := by
      rintro rfl
      exact Trail.not_mem_of_step hx rest (List.mem_of_getLast? he)
    rw [referencesTo, if_neg hne, target?_eq_some.1 hx]
    change (t.referencesTo e fuel y >>= fun n => pure (n + 1)) = _
    rw [ih he (by simpa using hfuel)]
    rfl

/-- What an attribute or an element reads: the chain of its references ends at one with a slot of
its own, which is the effective one, and the depth is the number of references on the way. -/
theorem exists_chain (h : t.WellFormed) (hs : t.slot x = .ok s) :
    ∃ chain e v depth, Trail t.target? x chain ∧ chain.getLast? = some e ∧
      t.slot e = .ok (.direct v) ∧ t.effective x = .ok e ∧ t.valueOf x = .ok v ∧
      chain.length = depth + 1 ∧ t.referenceDepth x = .ok depth := by
  obtain ⟨chain, hl⟩ := h.references_end x
  have hlen := length_trail_le h hl
  obtain ⟨e, v, heff, he, hv⟩ := followReferences_ok h x hl hs hlen [] (by simp)
  obtain ⟨l', rfl⟩ := hl.exists_cons
  refine ⟨_, e, v, l'.length, hl, he, hv, heff, ?_, rfl, ?_⟩
  · rw [valueOf, effective, heff]
    change (t.slot e >>= fun s => pure s.value?) = _
    rw [hv]
    rfl
  · rw [referenceDepth, effective, heff]
    exact referencesTo_ok hl he hlen

end Tree

end Schemata
