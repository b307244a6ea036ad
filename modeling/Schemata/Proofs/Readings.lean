import Schemata.Proofs.BuiltTrees

/-!
# What attributes and elements read

An attribute or an element reads the slot at the end of its chain of references. So a change of slots
is seen by just those whose chain leads to it.

* A value that is set is read by all that end where the holder does, and by no other one; nobody ends
  elsewhere than before.
* A holder that is made to refer to a target ends where the target does, and so do all whose chain
  passes through the holder; the others end where they did.

Both come from what a chain is in the tree after a step: the same one if what it passes refers to
what it did (`Trail.congr`), and the part up to the holder with the chain of the target behind it
otherwise (`Trail.splice`).
-/

namespace Schemata

open Relation

/-- A trail to an element that is followed by something else goes on along the trail of that. -/
theorem Trail.splice {α : Type} {next next' : α → Option α} {x c y : α} {l l' : List α}
    (h : Trail next x l) (hc : c ∈ l) (hne : ∀ z, z ≠ c → next' z = next z)
    (hy : next' c = some y) (h' : Trail next' y l') :
    ∃ front, Trail next' x (front ++ l') := by
  induction h with
  | last hx =>
    obtain rfl := List.mem_singleton.1 hc
    exact ⟨[c], .step hy h'⟩
  | @step x z l hx _ ih =>
    by_cases hxc : x = c
    · subst hxc
      exact ⟨[x], .step hy h'⟩
    · obtain ⟨front, hf⟩ := ih ((List.mem_cons.1 hc).resolve_left (Ne.symm hxc))
      exact ⟨x :: front, .step ((hne x hxc).trans hx) hf⟩

namespace Tree

variable {t t' : Tree} {k e holder target : ObjectId} {value r v : Option ObjectId}

/-- An attribute or an element. -/
def IsHolder (t : Tree) (id : ObjectId) : Prop :=
  t.sort? id = some .attr ∨ t.sort? id = some .element

/-- The chain of references from one attribute or element passes through another one. -/
def PassesThrough (t : Tree) (k holder : ObjectId) : Prop :=
  ReflTransGen (fun a b => t.target? a = some b) k holder

/-- An attribute or an element ends at one, and reads the value there. -/
def Reads (t : Tree) (k e : ObjectId) (v : Option ObjectId) : Prop :=
  t.effective k = .ok e ∧ t.valueOf k = .ok v

/-! ## Ends of chains -/

/-- Holders end where their trail does, at a slot of its own. -/
theorem reads_iff (h : t.WellFormed) (hk : t.IsHolder k) {l : List ObjectId}
    (hl : Trail t.target? k l) :
    t.Reads k e v ↔ l.getLast? = some e ∧ t.slot e = .ok (.direct v) := by
  obtain ⟨s, hs⟩ := exists_slot.2 hk
  obtain ⟨chain, e', v', -, hchain, he', hslot, heff, hval, -, -⟩ := exists_chain h hs
  obtain rfl := hl.unique hchain
  unfold Reads
  rw [heff, hval, he', Except.ok.injEq, Except.ok.injEq, Option.some.injEq]
  refine and_congr_right ?_
  rintro rfl
  rw [hslot, Except.ok.injEq, Slot.direct.injEq]

theorem exists_reads (h : t.WellFormed) (hk : t.IsHolder k) : ∃ e v, t.Reads k e v := by
  obtain ⟨s, hs⟩ := exists_slot.2 hk
  obtain ⟨-, e, v, -, -, -, -, heff, hval, -, -⟩ := exists_chain h hs
  exact ⟨e, v, heff, hval⟩

/-- All that a holder passes are objects of the tree. -/
theorem has_of_mem_trail (h : t.WellFormed) (hk : t.IsHolder k) {l : List ObjectId}
    (hl : Trail t.target? k l) : ∀ y ∈ l, t.Has y := by
  intro y hy
  have hsort := sort?_of_mem_trail h hl y hy
  have hobject : ∃ o, t.object? y = some o := by
    rcases hk with hk | hk <;> rw [hk] at hsort
    all_goals
      obtain ⟨o, ho, -⟩ := Option.map_eq_some_iff.1 hsort
      exact ⟨o, ho⟩
  exact has_iff_object?.2 hobject

/-- The object that a value is set in has a slot of its own. -/
theorem target?_effective (h : t.WellFormed) (hk : t.IsHolder k) (he : t.effective k = .ok e) :
    t.target? e = none := by
  obtain ⟨e', v, hr⟩ := exists_reads h hk
  obtain rfl := Except.ok.inj (hr.1.symm.trans he)
  obtain ⟨l, hl⟩ := h.references_end k
  obtain ⟨e₁, he₁, hn⟩ := hl.exists_getLast
  obtain rfl := Option.some.inj (he₁.symm.trans ((reads_iff h hk hl).1 hr).1)
  exact hn

/-! ## Values that are set -/

/-- Whoever sets a value is a holder. -/
theorem isHolder_of_effective (he : t.effective k = .ok e) : t.IsHolder k := by
  refine exists_slot.1 ?_
  rw [effective, followReferences] at he
  simp only [List.contains_nil, Bool.false_eq_true, if_false] at he
  cases hs : t.slot k with
  | ok s => exact ⟨s, rfl⟩
  | error f =>
    rw [hs] at he
    cases he

section SetValue

variable (h : t.WellFormed) (hrun : t.perform (.setValue holder value) = (.ok r, t'))
  {owner : ObjectId} (howner : t.effective holder = .ok owner)

include h hrun howner

/-- The one at the end of the chain of the holder has the value in its slot. Nothing is changed in
what others hold, and in what anyone refers to. -/
theorem setValue_cases : t'.WellFormed ∧ t'.slot owner = .ok (.direct r) ∧
    (∀ y, t.Has y → t'.sort? y = t.sort? y) ∧ (∀ y, t.Has y → t'.target? y = t.target? y) ∧
    ∀ y, t.Has y → y ≠ owner → t'.object? y = t.object? y := by
  have h' : t'.WellFormed := by
    have := wellFormed_perform h (.setValue holder value)
    rwa [hrun] at this
  obtain ⟨owner', o, s, heff, ho, hs, -, hkept | ⟨-, t₁, hsup, rfl⟩⟩ :=
    (attempts_setValue_exchanged h holder value).of_ok hrun
  all_goals obtain rfl := Except.ok.inj (heff.symm.trans howner)
  · obtain ⟨hvalue, -, rfl, rfl⟩ := hkept
    have hslot : t'.slot owner' = .ok s := slot_eq_ok.2 ⟨o, ho, hs⟩
    obtain ⟨v, rfl⟩ := exists_direct hslot (target?_effective h (isHolder_of_effective heff) heff)
    obtain rfl : v = r := hvalue
    exact ⟨h, hslot, fun _ _ => rfl, fun _ _ => rfl, fun _ _ _ => rfl⟩
  · have hself : (t₁.exchanged owner' s.value? (Object.withSlot (.direct r))).object? owner' =
        some (o.withSlot (.direct r)) := object?_exchanged_self (hsup.object?_eq h ho)
    have hslot := Object.slot?_withSlot hs (.direct r)
    have hother : ∀ y, t.Has y → y ≠ owner' → (t₁.exchanged owner' s.value?
        (Object.withSlot (.direct r))).object? y = t.object? y := by
      intro y hy hne
      obtain ⟨p, hp⟩ := has_iff_object?.1 hy
      rw [object?_exchanged_of_ne hne, hsup.object?_eq h hp, hp]
    refine ⟨h', slot_eq_ok.2 ⟨_, hself, hslot⟩, fun y hy => ?_, fun y hy => ?_, hother⟩
    all_goals by_cases hne : y = owner'
    · subst hne
      rw [sort?_eq hself, sort?_eq ho]
      cases o <;> rfl
    · exact sort?_congr (hother y hy hne)
    · subst hne
      rw [target?_eq hself, target?_effective h (isHolder_of_effective heff) heff,
        Object.target?, hslot, Option.bind_some]
    · exact target?_congr (hother y hy hne)

/-- The value that was set is read by those who end where the holder does. -/
theorem reads_setValue (hk : t.IsHolder k) (hr : t.Reads k e v) :
    t'.Reads k e (if e = owner then r else v) := by
  obtain ⟨h', hself, hsort, htarget, hother⟩ := setValue_cases h hrun howner
  obtain ⟨l, hl⟩ := h.references_end k
  have hhas := has_of_mem_trail h hk hl
  have hl' : Trail t'.target? k l := hl.congr fun y hy => htarget y (hhas y hy)
  have hk' : t'.IsHolder k := by rwa [IsHolder, hsort k (hhas k hl.head_mem)]
  obtain ⟨he, hslot⟩ := (reads_iff h hk hl).1 hr
  refine (reads_iff h' hk' hl').2 ⟨he, ?_⟩
  split
  · subst e
    exact hself
  · rename_i hne
    rw [slot_eq_ok] at hslot ⊢
    rwa [hother e (hhas e (List.mem_of_getLast? he)) hne]

end SetValue

/-! ## References that are set -/

theorem PassesThrough.mem_iff {l : List ObjectId} (hl : Trail t.target? k l) :
    t.PassesThrough k holder ↔ holder ∈ l :=
  hl.mem_iff.symm

section SetReference

variable (h : t.WellFormed) (hrun : t.perform (.setReference holder target) = (.ok r, t'))

include h hrun

/-- The holder refers to the target, which does not pass through it; nothing else is changed in
what others hold. -/
theorem setReference_cases : t.IsHolder holder ∧ t.IsHolder target ∧ ¬t.PassesThrough target holder ∧
    t'.WellFormed ∧ t'.target? holder = some target ∧ (∀ y, t'.sort? y = t.sort? y) ∧
    ∀ y, y ≠ holder → t'.object? y = t.object? y := by
  have h' : t'.WellFormed := by
    have := wellFormed_perform h (.setReference holder target)
    rwa [hrun] at this
  obtain ⟨_, hrun, -⟩ := exists_of_run_map hrun
  obtain ⟨o, s, ho, hs, hsort, ⟨l, hl, hnot⟩, rfl⟩ :=
    (attempts_setReference_exchanged h holder target).of_ok hrun
  have hself : (t.exchanged holder s.value? (Object.withSlot (.reference target))).object? holder =
      some (o.withSlot (.reference target)) := object?_exchanged_self ho
  have hholder : t.IsHolder holder := exists_slot.1 ⟨s, slot_eq_ok.2 ⟨o, ho, hs⟩⟩
  refine ⟨hholder, by rwa [IsHolder, hsort], fun hp => hnot ((PassesThrough.mem_iff hl).1 hp), h',
    ?_, fun y => ?_, fun y hne => object?_exchanged_of_ne hne⟩
  · rw [target?_eq hself, Object.target?, Object.slot?_withSlot hs]
    rfl
  · by_cases hne : y = holder
    · subst hne
      rw [sort?_eq hself, sort?_eq ho]
      cases o <;> rfl
    · exact sort?_congr (object?_exchanged_of_ne hne)

/-- Whoever does not pass through the holder reads what it did. -/
theorem reads_of_not_passesThrough (hk : t.IsHolder k) (hr : t.Reads k e v)
    (hnot : ¬t.PassesThrough k holder) : t'.Reads k e v := by
  obtain ⟨-, -, -, h', -, hsort, hother⟩ := setReference_cases h hrun
  obtain ⟨l, hl⟩ := h.references_end k
  rw [PassesThrough.mem_iff hl] at hnot
  have hne : ∀ y ∈ l, y ≠ holder := fun y hy e => hnot (e ▸ hy)
  have hl' : Trail t'.target? k l := hl.congr fun y hy => target?_congr (hother y (hne y hy))
  have hk' : t'.IsHolder k := by rwa [IsHolder, hsort]
  obtain ⟨he, hslot⟩ := (reads_iff h hk hl).1 hr
  refine (reads_iff h' hk' hl').2 ⟨he, ?_⟩
  rw [slot_eq_ok] at hslot ⊢
  rwa [hother e (hne e (List.mem_of_getLast? he))]

/-- Whoever passes through the holder reads what the target does. -/
theorem reads_of_passesThrough (hk : t.IsHolder k) (hr : t.Reads target e v)
    (hthrough : t.PassesThrough k holder) : t'.Reads k e v := by
  obtain ⟨-, htarget, hnot, h', hself, hsort, hother⟩ := setReference_cases h hrun
  obtain ⟨l, hl⟩ := h.references_end k
  obtain ⟨l', hl'⟩ := h'.references_end target
  have hk' : t'.IsHolder k := by rwa [IsHolder, hsort]
  have htarget' : t'.IsHolder target := by rwa [IsHolder, hsort]
  obtain ⟨he, hslot⟩ := (reads_iff h' htarget' hl').1
    (reads_of_not_passesThrough h hrun htarget hr hnot)
  obtain ⟨front, hfront⟩ := hl.splice ((PassesThrough.mem_iff hl).1 hthrough)
    (fun z hz => target?_congr (hother z hz)) hself hl'
  refine (reads_iff h' hk' hfront).2 ⟨?_, hslot⟩
  rw [List.getLast?_append, he]
  rfl

end SetReference

/-! ## Both together -/

/-- After a value was set in a tree that is built by operations, every attribute and every element
ends where it did; it reads the value that was attached if that is where the holder ends, and what it
read before otherwise. After a reference was set, whoever passes through the holder ends where the
target does and reads what the target reads, and everyone else ends and reads as before. -/
theorem readings_of_built {ops : List Operation} (ht : performAll {} ops = t) :
    (∀ holder value r t', t.perform (.setValue holder value) = (.ok r, t') →
      ∃ owner, t.effective holder = .ok owner ∧ ∀ k, t.IsHolder k → ∃ e v, t.Reads k e v ∧
        t'.Reads k e (if e = owner then r else v)) ∧
    ∀ holder target r t', t.perform (.setReference holder target) = (.ok r, t') →
      ∃ last read, t.Reads target last read ∧ ∀ k, t.IsHolder k → ∃ e v, t.Reads k e v ∧
        (t.PassesThrough k holder → t'.Reads k last read) ∧
        (¬t.PassesThrough k holder → t'.Reads k e v) := by
  have h := wellFormed_of_built ht
  constructor
  · intro holder value r t' hrun
    obtain ⟨owner, -, -, howner, -⟩ := (attempts_setValue_exchanged h holder value).of_ok hrun
    refine ⟨owner, howner, fun k hk => ?_⟩
    obtain ⟨e, v, hr⟩ := exists_reads h hk
    exact ⟨e, v, hr, reads_setValue h hrun howner hk hr⟩
  · intro holder target r t' hrun
    obtain ⟨last, read, hread⟩ := exists_reads h (setReference_cases h hrun).2.1
    refine ⟨last, read, hread, fun k hk => ?_⟩
    obtain ⟨e, v, hr⟩ := exists_reads h hk
    exact ⟨e, v, hr, reads_of_passesThrough h hrun hk hread,
      reads_of_not_passesThrough h hrun hk hr⟩

/-- An attribute, another one that refers to it, and a third one; the first and the third have
values. -/
def relay : List Operation := [
  .newAttribute "first", .newAttribute "second", .newAttribute "third",
  .newSimple none (.atomic (.string "x")), .newSimple none (.atomic (.string "y")),
  .setReference ⟨1⟩ ⟨0⟩, .setValue ⟨0⟩ (some ⟨3⟩), .setValue ⟨2⟩ (some ⟨4⟩)]

/-- A copy of the value of the third attribute is set through the second one, where the first one
reads it, too. When the first one is made to refer to the third one, all read the value of that. -/
theorem relay_readings :
    (∃ t', (performAll {} relay).perform (.setValue ⟨1⟩ (some ⟨4⟩)) = (.ok (some ⟨5⟩), t') ∧
      t'.Reads ⟨0⟩ ⟨0⟩ (some ⟨5⟩) ∧ t'.Reads ⟨1⟩ ⟨0⟩ (some ⟨5⟩) ∧ t'.Reads ⟨2⟩ ⟨2⟩ (some ⟨4⟩)) ∧
    ∃ t', (performAll {} relay).perform (.setReference ⟨0⟩ ⟨2⟩) = (.ok none, t') ∧
      t'.Reads ⟨1⟩ ⟨2⟩ (some ⟨4⟩) ∧ t'.Reads ⟨2⟩ ⟨2⟩ (some ⟨4⟩) := by
  have hbuilt : performAll {} relay = performAll {} relay := rfl
  obtain ⟨hvalue, hreference⟩ := readings_of_built hbuilt
  have hholder : ∀ i < 3, (performAll {} relay).IsHolder ⟨i⟩ := by
    unfold IsHolder
    decide +kernel
  have hreads : ∀ {i j : Nat} {v : Option ObjectId},
      (performAll {} relay).effective ⟨i⟩ = .ok ⟨j⟩ → (performAll {} relay).valueOf ⟨i⟩ = .ok v →
        ∀ {e w}, (performAll {} relay).Reads ⟨i⟩ e w → e = ⟨j⟩ ∧ w = v := by
    intro i j v he hv e w hr
    exact ⟨Except.ok.inj (hr.1.symm.trans he), Except.ok.inj (hr.2.symm.trans hv)⟩
  have hfirst := @hreads 0 0 (some ⟨3⟩) (by decide +kernel) (by decide +kernel)
  have hsecond := @hreads 1 0 (some ⟨3⟩) (by decide +kernel) (by decide +kernel)
  have hthird := @hreads 2 2 (some ⟨4⟩) (by decide +kernel) (by decide +kernel)
  constructor
  · have hrun : ((performAll {} relay).perform (.setValue ⟨1⟩ (some ⟨4⟩))).1 =
        .ok (some ⟨5⟩) := by decide +kernel
    obtain ⟨owner, howner, hread⟩ := hvalue _ _ _ _ (Prod.ext hrun rfl)
    obtain rfl := Except.ok.inj (howner.symm.trans
      (show (performAll {} relay).effective ⟨1⟩ = .ok ⟨0⟩ by decide +kernel))
    obtain ⟨e₀, v₀, hr₀, hread₀⟩ := hread _ (hholder 0 (by decide))
    obtain ⟨e₁, v₁, hr₁, hread₁⟩ := hread _ (hholder 1 (by decide))
    obtain ⟨e₂, v₂, hr₂, hread₂⟩ := hread _ (hholder 2 (by decide))
    obtain ⟨rfl, rfl⟩ := hfirst hr₀
    obtain ⟨rfl, rfl⟩ := hsecond hr₁
    obtain ⟨rfl, rfl⟩ := hthird hr₂
    exact ⟨_, Prod.ext hrun rfl, hread₀, hread₁, hread₂⟩
  · have hrun : ((performAll {} relay).perform (.setReference ⟨0⟩ ⟨2⟩)).1 = .ok none := by
      decide +kernel
    have htarget : (performAll {} relay).target? ⟨1⟩ = some ⟨0⟩ := by decide +kernel
    have hend : (performAll {} relay).target? ⟨2⟩ = none := by decide +kernel
    obtain ⟨last, read, hlast, hread⟩ := hreference _ _ _ _ (Prod.ext hrun rfl)
    obtain ⟨rfl, rfl⟩ := hthird hlast
    obtain ⟨-, -, -, hthrough, -⟩ := hread _ (hholder 1 (by decide))
    obtain ⟨e₂, v₂, hr₂, -, helse⟩ := hread _ (hholder 2 (by decide))
    obtain ⟨rfl, rfl⟩ := hthird hr₂
    refine ⟨_, Prod.ext hrun rfl, hthrough (.single htarget), helse ?_⟩
    rw [PassesThrough.mem_iff (.last hend)]
    decide

end Tree

end Schemata
