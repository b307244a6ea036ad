import Mathlib.Data.List.Basic
import Mathlib.Data.List.Nodup
import Mathlib.Logic.Relation

/-!
# Trails

A trail follows a partial function from a start to an end that nothing follows. A start that has a
trail has just one, and no element comes twice in it. So a partial function all of whose trails come
to an end has no cycles, and it keeps to that if one element is made to be followed by another one
whose trail avoids it (`Ends.update`).

Both links that lead from one object to at most one other are of this kind: the one to the parent
and the one to what a slot refers to.
-/

namespace Schemata

open Relation

variable {α : Type} {next next' : α → Option α}

/-- A start, what follows it, what follows that, and so on to an end that nothing follows. -/
inductive Trail (next : α → Option α) : α → List α → Prop
  | last {x : α} (h : next x = none) : Trail next x [x]
  | step {x y : α} {l : List α} (h : next x = some y) (rest : Trail next y l) :
    Trail next x (x :: l)

/-- Every trail comes to an end. -/
def Ends (next : α → Option α) : Prop := ∀ x, ∃ l, Trail next x l

namespace Trail

variable {x y : α} {l l' : List α}

theorem exists_cons (h : Trail next x l) : ∃ l', l = x :: l' := by
  cases h with
  | last => exact ⟨[], rfl⟩
  | step => exact ⟨_, rfl⟩

/-- A number of steps that is enough for a trail is not zero. -/
theorem exists_succ (h : Trail next x l) {n : Nat} (hn : l.length ≤ n) : ∃ m, n = m + 1 := by
  obtain ⟨l', rfl⟩ := h.exists_cons
  rw [List.length_cons] at hn
  exact ⟨n - 1, by omega⟩

theorem head_mem (h : Trail next x l) : x ∈ l := by
  obtain ⟨l', rfl⟩ := h.exists_cons
  exact List.mem_cons_self

/-- Every element but the start follows another one. -/
theorem exists_of_mem_tail (h : Trail next x l) (hy : y ∈ l.tail) : ∃ z, next z = some y := by
  induction h with
  | last => cases hy
  | @step x z l hx rest ih =>
    obtain ⟨l', rfl⟩ := rest.exists_cons
    rcases List.mem_cons.1 hy with rfl | hy
    · exact ⟨x, hx⟩
    · exact ih hy

theorem unique (h : Trail next x l) (h' : Trail next x l') : l = l' := by
  induction h generalizing l' with
  | last hx =>
    cases h' with
    | last => rfl
    | step hx' => cases hx.symm.trans hx'
  | step hx _ ih =>
    cases h' with
    | last hx' => cases hx.symm.trans hx'
    | step hx' rest' =>
      obtain rfl := Option.some.inj (hx.symm.trans hx')
      rw [ih rest']

/-- From every element of a trail, the rest is a trail. -/
theorem exists_suffix (h : Trail next x l) (hy : y ∈ l) : ∃ l', Trail next y l' ∧ l' <:+ l := by
  induction h with
  | last hx =>
    obtain rfl := List.mem_singleton.1 hy
    exact ⟨[y], .last hx, List.suffix_rfl⟩
  | @step x z l hx rest ih =>
    rcases List.mem_cons.1 hy with rfl | hy
    · exact ⟨y :: l, .step hx rest, List.suffix_rfl⟩
    · obtain ⟨l', hl', hs⟩ := ih hy
      exact ⟨l', hl', hs.trans (List.suffix_cons x l)⟩

/-- The trail of what follows does not come back. -/
theorem not_mem_of_step (hx : next x = some y) (rest : Trail next y l) : x ∉ l := by
  intro hmem
  obtain ⟨l', hl', hs⟩ := rest.exists_suffix hmem
  have hlen : (x :: l).length ≤ l.length := by
    rw [(Trail.step hx rest).unique hl']
    exact hs.length_le
  rw [List.length_cons] at hlen
  omega

theorem nodup (h : Trail next x l) : l.Nodup := by
  induction h with
  | last => exact List.nodup_singleton _
  | step hx rest ih => exact List.nodup_cons.2 ⟨not_mem_of_step hx rest, ih⟩

theorem mem_iff (h : Trail next x l) :
    y ∈ l ↔ ReflTransGen (fun a b => next a = some b) x y := by
  constructor
  · intro hy
    induction h with
    | last hx => exact List.mem_singleton.1 hy ▸ .refl
    | step hx _ ih =>
      rcases List.mem_cons.1 hy with rfl | hy
      · exact .refl
      · exact .head hx (ih hy)
  · intro hy
    induction hy with
    | refl => exact h.head_mem
    | @tail a b _ hab ih =>
      obtain ⟨l', hl', hs⟩ := h.exists_suffix ih
      cases hl' with
      | last ha => cases ha.symm.trans hab
      | step ha rest =>
        obtain rfl := Option.some.inj (ha.symm.trans hab)
        exact hs.subset (List.mem_cons_of_mem _ rest.head_mem)

/-- Nothing follows the last element, and it follows the others step by step. -/
theorem isChain (h : Trail next x l) : l.IsChain (fun a b => next a = some b) := by
  induction h with
  | last => exact List.IsChain.singleton _
  | step hx rest ih =>
    obtain ⟨l', rfl⟩ := rest.exists_cons
    exact List.isChain_cons_cons.2 ⟨hx, ih⟩

theorem exists_getLast (h : Trail next x l) : ∃ e, l.getLast? = some e ∧ next e = none := by
  induction h with
  | last hx => exact ⟨_, rfl, hx⟩
  | step _ rest ih =>
    obtain ⟨l', rfl⟩ := rest.exists_cons
    obtain ⟨e, he, hn⟩ := ih
    exact ⟨e, by rw [List.getLast?_cons_cons, he], hn⟩

/-- A trail is one of any other function that is the same along it. -/
theorem congr (h : Trail next x l) (heq : ∀ y ∈ l, next' y = next y) : Trail next' x l := by
  induction h with
  | last hx => exact .last ((heq _ List.mem_cons_self).trans hx)
  | step hx _ ih =>
    exact .step ((heq _ List.mem_cons_self).trans hx)
      (ih fun y hy => heq y (List.mem_cons_of_mem _ hy))

end Trail

namespace Ends

/-- Nothing comes after itself. -/
theorem not_transGen (h : Ends next) (x : α) : ¬TransGen (fun a b => next a = some b) x x := by
  intro hx
  obtain ⟨y, hxy, hyx⟩ := TransGen.head'_iff.1 hx
  obtain ⟨l, hl⟩ := h y
  exact Trail.not_mem_of_step hxy hl (hl.mem_iff.2 hyx)

/-- One element may be followed by another one whose trail avoids it, or by nothing. -/
theorem update (h : Ends next) {c : α} (hne : ∀ x, x ≠ c → next' x = next x)
    (hc : ∀ y, next' c = some y → ∃ l, Trail next y l ∧ c ∉ l) : Ends next' := by
  have hstart : ∃ l, Trail next' c l := by
    cases hy : next' c with
    | none => exact ⟨[c], .last hy⟩
    | some y =>
      obtain ⟨l, hl, hcl⟩ := hc y hy
      refine ⟨c :: l, .step hy (hl.congr fun z hz => hne z ?_)⟩
      rintro rfl
      exact hcl hz
  intro x
  obtain ⟨l, hl⟩ := h x
  induction hl with
  | @last x hx =>
    by_cases hxc : x = c
    · exact hxc ▸ hstart
    · exact ⟨[x], .last ((hne x hxc).trans hx)⟩
  | @step x y l hx _ ih =>
    by_cases hxc : x = c
    · exact hxc ▸ hstart
    · obtain ⟨l', hl'⟩ := ih
      exact ⟨x :: l', .step ((hne x hxc).trans hx) hl'⟩

/-- A function each of whose links is above one of another function. -/
theorem of_map {β : Type} {up : β → Option β} (h : Ends next) (f : β → α)
    (hf : ∀ a b, up a = some b → next (f a) = some (f b)) : Ends up := by
  intro b
  obtain ⟨l, hl⟩ := h (f b)
  generalize hx : f b = x at hl
  induction hl generalizing b with
  | last hn =>
    cases hb : up b with
    | none => exact ⟨[b], .last hb⟩
    | some b' => cases hn.symm.trans (hx ▸ hf b b' hb)
  | step hn _ ih =>
    cases hb : up b with
    | none => exact ⟨[b], .last hb⟩
    | some b' =>
      obtain ⟨l', hl'⟩ := ih b' (Option.some.inj ((hx ▸ hf b b' hb).symm.trans hn))
      exact ⟨b :: l', .step hb hl'⟩

end Ends

end Schemata
