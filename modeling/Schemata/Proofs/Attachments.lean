import Schemata.Proofs.Copies
import Schemata.Proofs.Trees

/-!
# Attaching objects

An object that is attached is a root, or the copy of an object that has a parent
(`Tree.Frees`). It gets a parent that it is not above (`Tree.Attaches`), which does not own it yet.
In a well-formed tree nothing of this can be refused once the parent is known to be no object below
the child, and the tree stays well-formed.
-/

namespace Schemata

namespace Tree

variable {t t' t₁ : Tree} {child parent owner a x y : ObjectId} {given new : Option ObjectId}

/-! ## Ancestors -/

theorem ancestorsUpTo_eq {l : List ObjectId} (h : Trail t.parent? x l) {n : Nat}
    (hn : l.tail.length ≤ n) : t.ancestorsUpTo n x = l.tail := by
  induction h generalizing n with
  | last hx => cases n <;> simp [ancestorsUpTo, hx]
  | step hx rest ih =>
    obtain ⟨l', rfl⟩ := rest.exists_cons
    simp only [List.tail_cons, List.length_cons] at hn ih ⊢
    obtain ⟨m, rfl⟩ : ∃ m, n = m + 1 := ⟨n - 1, by omega⟩
    rw [ancestorsUpTo, hx]
    simp only
    rw [ih (by omega)]

/-- The ancestors are all of the way up. -/
theorem trail_ancestors (h : t.WellFormed) (x : ObjectId) :
    Trail t.parent? x (x :: t.ancestors x) := by
  obtain ⟨l, hl⟩ := h.ancestors_end x
  obtain ⟨l', rfl⟩ := hl.exists_cons
  have hlen : l'.length ≤ t.size := by
    refine length_le_size (List.nodup_cons.1 hl.nodup).2 fun y hy => ?_
    obtain ⟨z, hz⟩ := hl.exists_of_mem_tail hy
    exact h.has_parent z y hz
  rw [ancestors, ancestorsUpTo_eq hl hlen]
  exact hl

/-! ## Roots and copies -/

/-- An object is a root of the tree, or has been copied in it: which object stands for it, and in
which tree. -/
inductive Frees (t : Tree) (id : ObjectId) : ObjectId → Tree → Prop
  | root (h : t.parent? id = none) : Frees t id id t
  | copy {order : List ObjectId} (h : t.parent? id ≠ none) (hs : t.Subtree id order) :
    Frees t id ⟨t.size⟩ (t.copied order id)

theorem completes_copySubtree (h : t.WellFormed) (hchild : t.Has child) :
    t.Completes (Edit.copySubtree child) fun a t₁ =>
      ∃ order, t.Subtree child order ∧ a = ⟨t.size⟩ ∧ t₁ = t.copied order child := by
  obtain ⟨order, hok, hs⟩ := exists_subtree h hchild
  exact .ask_bind hok ⟨_, _, rfl, order, hs, rfl, rfl⟩

theorem completes_unattached (h : t.WellFormed) (hchild : t.Has child) :
    t.Completes (Edit.unattached child) (t.Frees child) := by
  refine .get_bind ?_
  cases hp : t.parent? child with
  | none => exact .pure (.root hp)
  | some p =>
    refine (completes_copySubtree h hchild).mono fun a t₁ ha => ?_
    obtain ⟨order, hs, rfl, rfl⟩ := ha
    exact .copy (by simp [hp]) hs

namespace Frees

variable (h : t.WellFormed) (hchild : t.Has child) (hf : t.Frees child a t₁)

include h hchild hf

theorem wellFormed : t₁.WellFormed := by
  cases hf with
  | root => exact h
  | copy _ hs => exact h.copied hchild hs

theorem has : t₁.Has a := by
  cases hf with
  | root => exact hchild
  | copy _ hs => exact has_copied_of_copyOf h hchild hs (copyOf_root hs)

theorem parent?_eq_none : t₁.parent? a = none := by
  cases hf with
  | root hr => exact hr
  | copy _ hs => rw [parent?_copied_of_copyOf h hchild hs (copyOf_root hs), if_pos rfl]

theorem object?_of_has (hx : t.Has x) : t₁.object? x = t.object? x := by
  cases hf with
  | root => rfl
  | copy _ hs => exact object?_copied_of_has h hchild hs hx

theorem parent?_of_has (hx : t.Has x) : t₁.parent? x = t.parent? x := by
  cases hf with
  | root => rfl
  | copy _ hs => exact parent?_copied_of_has h hchild hs hx

theorem complete (hc : t.Complete) : t₁.Complete := by
  cases hf with
  | root => exact hc
  | copy _ hs => exact Complete.copied h hchild hs hc

/-- The way up from a parent that the child is not above, or that is older than the copy of the
child. -/
theorem exists_trail (hparent : t.Has parent) (hapart : child ∉ parent :: t.ancestors parent) :
    ∃ l, Trail t₁.parent? parent l ∧ a ∉ l := by
  have htrail := trail_ancestors h parent
  have hhas : ∀ y ∈ parent :: t.ancestors parent, t.Has y := by
    intro y hy
    rcases List.mem_cons.1 hy with rfl | hy
    · exact hparent
    · obtain ⟨z, hz⟩ := htrail.exists_of_mem_tail hy
      exact h.has_parent z y hz
  refine ⟨_, htrail.congr fun y hy => hf.parent?_of_has h hchild (hhas y hy), ?_⟩
  cases hf with
  | root => exact hapart
  | copy _ hs => exact fun hmem => Nat.lt_irrefl _ (hhas _ hmem)

end Frees

/-! ## Attached objects -/

/-- A child, or its copy, gets a parent that it is not above. -/
structure Attaches (t : Tree) (child parent a : ObjectId) (t' : Tree) : Prop where
  has_child : t.Has child
  has_parent : t.Has parent
  apart : child ∉ parent :: t.ancestors parent
  result : ∃ t₁, t.Frees child a t₁ ∧ t' = t₁.withParent a (some parent)

theorem attempts_setParent (h : t.WellFormed) (child parent : ObjectId) :
    t.Attempts (Edit.setParent child parent) (t.Attaches child parent) := by
  refine .ask_bind fun o ho => .ask_bind fun o' ho' => .get_bind ?_
  refine .require_bind fun hapart => .of_completes ?_
  have hchild := has_of_object? (get_eq_ok.1 ho)
  have hparent := has_of_object? (get_eq_ok.1 ho')
  refine (completes_unattached h hchild).bind fun a t₁ hf => ?_
  refine .change_bind (hf.has h hchild) (.pure ⟨hchild, hparent, ?_, t₁, hf, rfl⟩)
  simpa using hapart

namespace Attaches

variable (h : t.WellFormed) (ha : t.Attaches child parent a t')

include h ha

theorem wellFormed : t'.WellFormed := by
  obtain ⟨t₁, hf, rfl⟩ := ha.result
  have hparent : t₁.Has parent := by
    obtain ⟨o, ho⟩ := has_iff_object?.1 ha.has_parent
    exact has_of_object? ((hf.object?_of_has h ha.has_child ha.has_parent).trans ho)
  exact (hf.wellFormed h ha.has_child).withParent (hf.has h ha.has_child) hparent
    (hf.parent?_eq_none h ha.has_child) (hf.exists_trail h ha.has_child ha.has_parent ha.apart)

theorem parent?_eq : t'.parent? a = some parent := by
  obtain ⟨t₁, hf, rfl⟩ := ha.result
  rw [parent?_withParent (hf.has h ha.has_child), if_pos rfl]

/-- Nobody owns the object that was attached. -/
theorem not_owns (x : ObjectId) : ¬t'.Owns x a := by
  obtain ⟨t₁, hf, rfl⟩ := ha.result
  intro hx
  rw [owns_congr (object?_withParent _)] at hx
  have hp := (hf.wellFormed h ha.has_child).parent_of_owns x a hx
  cases (hf.parent?_eq_none h ha.has_child).symm.trans hp

theorem object?_of_has (hx : t.Has x) : t'.object? x = t.object? x := by
  obtain ⟨t₁, hf, rfl⟩ := ha.result
  rw [object?_withParent, hf.object?_of_has h ha.has_child hx]

/-- Only the object that was attached may have a parent that does not own it. -/
theorem owns_of_parent? (hc : t.Complete) (hxy : t'.parent? y = some x) : y = a ∨ t'.Owns x y := by
  obtain ⟨t₁, hf, rfl⟩ := ha.result
  rw [parent?_withParent (hf.has h ha.has_child)] at hxy
  split at hxy
  · exact Or.inl ‹_›
  · right
    rw [owns_congr (object?_withParent _)]
    exact hf.complete h ha.has_child hc x y hxy

end Attaches

/-! ## What an owner may take -/

/-- There is nothing for an owner to take, or a child has been attached to it: the child, and the
object that stands for it. -/
inductive Supplies (t : Tree) (owner : ObjectId) : Option ObjectId → Option ObjectId → Tree → Prop
  | nothing : Supplies t owner none none t
  | attached {child a : ObjectId} {t' : Tree} (h : t.Attaches child owner a t') :
    Supplies t owner (some child) (some a) t'

namespace Supplies

/-- An owner takes something only if it was given something. -/
theorem isSome_given (hs : t.Supplies owner given new t₁) (hnew : new.isSome) : given.isSome := by
  cases hs with
  | nothing => cases hnew
  | attached => rfl

variable (h : t.WellFormed) (hs : t.Supplies owner given new t₁)

include h hs

theorem wellFormed : t₁.WellFormed := by
  cases hs with
  | nothing => exact h
  | attached ha => exact ha.wellFormed h

theorem parent?_eq (hy : new = some y) : t₁.parent? y = some owner := by
  cases hs with
  | nothing => cases hy
  | attached ha =>
    obtain rfl := Option.some.inj hy
    exact ha.parent?_eq h

theorem not_owns (hy : new = some y) (x : ObjectId) : ¬t₁.Owns x y := by
  cases hs with
  | nothing => cases hy
  | attached ha =>
    obtain rfl := Option.some.inj hy
    exact ha.not_owns h x

theorem object?_eq {o : Object} (ho : t.object? x = some o) : t₁.object? x = some o := by
  cases hs with
  | nothing => exact ho
  | attached ha => exact (ha.object?_of_has h (has_of_object? ho)).trans ho

/-- What is there for an owner is none of what it owns. -/
theorem not_mem_owned {o : Object} (ho : t.object? owner = some o) (hy : new = some y) :
    y ∉ o.owned := by
  rw [← owned_eq (hs.object?_eq h ho)]
  exact hs.not_owns h hy owner

theorem owns_of_parent? (hc : t.Complete) (hxy : t₁.parent? y = some x) :
    new = some y ∨ t₁.Owns x y := by
  cases hs with
  | nothing => exact Or.inr (hc x y hxy)
  | attached ha => exact (ha.owns_of_parent? h hc hxy).imp_left fun e => by rw [e]

end Supplies

end Tree

end Schemata
