import Mathlib.Data.List.Basic
import Mathlib.Data.List.Nodup
import Mathlib.Data.List.Perm.Subperm
import Schemata.Objects.Editing

/-!
# Looking at edited trees

What matters of a tree are its objects and their parents: `Tree.object?` and `Tree.parent?`. What an
object owns, what it refers to and of which sort it is are read off `object?`. The lemmas here tell
both views of a tree after each way to write: a new node, a new parent, a new object at a node.

An edit as a whole is refused before it writes or comes to an end (`Tree.Attempts`).
-/

namespace Schemata

/-- What an attribute or an element refers to. -/
def Object.target? (o : Object) : Option ObjectId :=
  o.slot?.bind fun
    | .reference target => some target
    | .direct _ => none

/-- The attribute set of a complex object. -/
def Object.attributeSet? : Object → Option ObjectId
  | .complex _ attributes _ => attributes
  | _ => none

namespace Tree

/-- The tree gave out the number. -/
def Has (t : Tree) (id : ObjectId) : Prop := id.index < t.size

instance (t : Tree) (id : ObjectId) : Decidable (t.Has id) := inferInstanceAs (Decidable (_ < _))

/-- An object, if there is one of the number. -/
def object? (t : Tree) (id : ObjectId) : Option Object := (t.node? id).map (·.object)

/-- The sort of an object. -/
def sort? (t : Tree) (id : ObjectId) : Option ObjectSort := (t.object? id).map (·.sort)

/-- What an object owns, in order. -/
def owned (t : Tree) (id : ObjectId) : List ObjectId := (t.object? id).elim [] (·.owned)

/-- One object owns another one. -/
def Owns (t : Tree) (owner id : ObjectId) : Prop := id ∈ t.owned owner

instance (t : Tree) (owner id : ObjectId) : Decidable (t.Owns owner id) :=
  inferInstanceAs (Decidable (_ ∈ _))

/-- What an attribute or an element refers to. -/
def target? (t : Tree) (id : ObjectId) : Option ObjectId := (t.object? id).bind (·.target?)

/-- The attribute set of a complex object. -/
def attributeSet? (t : Tree) (id : ObjectId) : Option ObjectId :=
  (t.object? id).bind (·.attributeSet?)

variable {t t' : Tree} {id x y : ObjectId} {o : Object}

/-! ## Objects -/

theorem has_iff_node? : t.Has x ↔ ∃ n, t.node? x = some n :=
  ⟨fun h => ⟨_, Array.getElem?_eq_getElem h⟩, fun ⟨_, h⟩ => (Array.getElem?_eq_some_iff.1 h).1⟩

theorem object?_eq {n : Node} (h : t.node? x = some n) : t.object? x = some n.object := by
  rw [object?, h, Option.map_some]

theorem exists_node?_of_mem {n : Node} (h : n ∈ t.nodes) : ∃ x, t.node? x = some n := by
  obtain ⟨i, hi⟩ := Array.mem_iff_getElem?.1 h
  exact ⟨⟨i⟩, hi⟩

theorem has_iff_object? : t.Has x ↔ ∃ o, t.object? x = some o := by
  simp [has_iff_node?, object?]

theorem has_of_object? (h : t.object? x = some o) : t.Has x := has_iff_object?.2 ⟨o, h⟩

theorem node?_of_not_has (h : ¬t.Has x) : t.node? x = none := by
  simpa [has_iff_node?, Option.eq_none_iff_forall_ne_some] using h

theorem has_of_parent? (h : t.parent? x = some y) : t.Has x := by
  obtain ⟨n, hn, -⟩ := Option.bind_eq_some_iff.1 h
  exact has_iff_node?.2 ⟨n, hn⟩

theorem owned_eq (h : t.object? x = some o) : t.owned x = o.owned := by
  rw [owned, h, Option.elim_some]

theorem owns_iff (h : t.object? x = some o) : t.Owns x y ↔ y ∈ o.owned := by
  rw [Owns, owned_eq h]

theorem target?_eq (h : t.object? x = some o) : t.target? x = o.target? := by
  rw [target?, h, Option.bind_some]

theorem attributeSet?_eq (h : t.object? x = some o) : t.attributeSet? x = o.attributeSet? := by
  rw [attributeSet?, h, Option.bind_some]

theorem sort?_eq (h : t.object? x = some o) : t.sort? x = some o.sort := by
  rw [sort?, h, Option.map_some]

theorem owned_congr (h : t'.object? x = t.object? x) : t'.owned x = t.owned x := by
  rw [owned, h, owned]

theorem owns_congr (h : t'.object? x = t.object? x) : t'.Owns x y ↔ t.Owns x y := by
  rw [Owns, owned_congr h, Owns]

theorem target?_congr (h : t'.object? x = t.object? x) : t'.target? x = t.target? x := by
  rw [target?, h, target?]

theorem sort?_congr (h : t'.object? x = t.object? x) : t'.sort? x = t.sort? x := by
  rw [sort?, h, sort?]

theorem has_of_owns (h : t.Owns x y) : t.Has x := by
  by_contra hx
  simp [Owns, owned, object?, node?_of_not_has hx] at h

theorem has_of_target? (h : t.target? x = some y) : t.Has x := by
  obtain ⟨o, ho, -⟩ := Option.bind_eq_some_iff.1 h
  exact has_of_object? ho

theorem get_eq_ok : t.get x = .ok o ↔ t.object? x = some o := by
  unfold get object?
  cases t.node? x <;> simp

theorem slot_eq_ok {s : Slot} :
    t.slot x = .ok s ↔ ∃ o, t.object? x = some o ∧ o.slot? = some s := by
  cases ho : t.object? x with
  | none =>
    have hget : ∀ o, t.get x ≠ .ok o := fun o h => by cases ho.symm.trans (get_eq_ok.1 h)
    cases hg : t.get x with
    | error e => simp [slot, hg, bind, Except.bind]
    | ok o => exact absurd hg (hget o)
  | some o =>
    have hget : t.get x = .ok o := get_eq_ok.2 ho
    cases hs : o.slot? <;> simp [slot, hget, bind, Except.bind, hs]

/-- As many different objects as there are in a tree are all of them. -/
theorem length_le_size {l : List ObjectId} (hd : l.Nodup) (h : ∀ x ∈ l, t.Has x) :
    l.length ≤ t.size := by
  have hinj : (l.map ObjectId.index).Nodup :=
    hd.map fun x y hxy => by cases x; cases y; exact congrArg _ hxy
  have hsub : l.map ObjectId.index ⊆ List.range t.size := by
    intro i hi
    obtain ⟨x, hx, rfl⟩ := List.mem_map.1 hi
    exact List.mem_range.2 (h x hx)
  simpa using (List.subperm_of_subset hinj hsub).length_le

/-! ## Writing -/

/-- The tree with another place for an object. -/
def withSpan (t : Tree) (id : ObjectId) (span : Span) : Tree :=
  t.modify id fun n => { n with span := some span }

/-- The tree with another parent for an object. -/
def withParent (t : Tree) (id : ObjectId) (parent : Option ObjectId) : Tree :=
  t.modify id fun n => { n with parent }

/-- The tree with another object at a number. -/
def withObject (t : Tree) (id : ObjectId) (f : Object → Object) : Tree :=
  t.modify id fun n => { n with object := f n.object }

theorem has_modify (f : Node → Node) : (t.modify id f).Has x ↔ t.Has x := by
  rw [Has, size_modify, Has]

theorem object?_modify (f : Node → Node) (hf : ∀ n, (f n).object = n.object) :
    (t.modify id f).object? x = t.object? x := by
  rw [object?, node?_modify, object?]
  split
  · rw [Option.map_map]
    exact congrArg (Option.map · _) (funext hf)
  · rfl

theorem parent?_modify (f : Node → Node) (hf : ∀ n, (f n).parent = n.parent) :
    (t.modify id f).parent? x = t.parent? x := by
  rw [parent?, node?_modify, parent?]
  split
  · rw [Option.bind_map]
    exact congrArg (Option.bind _) (funext hf)
  · rfl

theorem object?_withSpan (span : Span) : (t.withSpan id span).object? x = t.object? x :=
  object?_modify _ fun _ => rfl

theorem parent?_withSpan (span : Span) : (t.withSpan id span).parent? x = t.parent? x :=
  parent?_modify _ fun _ => rfl

theorem object?_withParent (p : Option ObjectId) : (t.withParent id p).object? x = t.object? x :=
  object?_modify _ fun _ => rfl

theorem parent?_withParent (h : t.Has id) (p : Option ObjectId) :
    (t.withParent id p).parent? x = if x = id then p else t.parent? x := by
  rw [parent?, withParent, node?_modify]
  split
  · subst x
    obtain ⟨n, hn⟩ := has_iff_node?.1 h
    rw [hn]
    rfl
  · rfl

theorem object?_withObject (f : Object → Object) :
    (t.withObject id f).object? x = if x = id then (t.object? x).map f else t.object? x := by
  rw [object?, withObject, node?_modify, object?]
  split
  · rw [Option.map_map, Option.map_map]
    rfl
  · rfl

theorem parent?_withObject (f : Object → Object) : (t.withObject id f).parent? x = t.parent? x :=
  parent?_modify _ fun _ => rfl

theorem object?_push (o : Object) :
    (t.push { object := o }).2.object? x = if x = ⟨t.size⟩ then some o else t.object? x := by
  rw [object?, node?_push, apply_ite (Option.map _)]
  rfl

theorem parent?_push (o : Object) : (t.push { object := o }).2.parent? x = t.parent? x := by
  rw [parent?, node?_push]
  split
  · rename_i hx
    have hn : ¬t.Has x := by
      rw [hx]
      exact Nat.lt_irrefl _
    rw [parent?, node?_of_not_has hn]
    rfl
  · rfl

end Tree

/-!
## Edits that are refused or completed

An edit checks before it writes. `Tree.Attempts` says of an edit that it is refused and leaves the
tree as it was, or comes to an end with a result and a tree as given; `Tree.Completes` is the second
of these. The rules follow an edit from step to step: a check may refuse what comes after it, and
whatever comes after the first write has to complete.
-/

namespace Tree

variable {α β : Type} {t t' : Tree} {e : Edit α} {f : α → Edit β} {P : α → Tree → Prop}
  {Q : β → Tree → Prop}

/-- The edit comes to an end, with a result and a tree as given. -/
def Completes (t : Tree) (e : Edit α) (P : α → Tree → Prop) : Prop :=
  ∃ a t', e.run.run t = (.ok a, t') ∧ P a t'

/-- The edit is refused and leaves the tree as it was, or it completes. -/
def Attempts (t : Tree) (e : Edit α) (P : α → Tree → Prop) : Prop :=
  (∃ fault, e.run.run t = (.error fault, t)) ∨ t.Completes e P

theorem run_bind (e : Edit α) (f : α → Edit β) (t : Tree) :
    (e >>= f).run.run t =
      match e.run.run t with
      | (.ok a, t') => (f a).run.run t'
      | (.error fault, t') => (.error fault, t') := by
  rw [ExceptT.run_bind, StateT.run_bind]
  obtain ⟨x, t', h⟩ : ∃ x t', e.run.run t = (x, t') := ⟨_, _, rfl⟩
  rw [h]
  cases x <;> rfl

theorem exists_of_run_map {g : α → β} {b : β} (h : (g <$> e).run.run t = (.ok b, t')) :
    ∃ a, e.run.run t = (.ok a, t') ∧ g a = b := by
  change (e >>= fun a => Pure.pure (g a)).run.run t = _ at h
  rw [run_bind] at h
  obtain ⟨x, t₁, hx⟩ : ∃ x t₁, e.run.run t = (x, t₁) := ⟨_, _, rfl⟩
  rw [hx] at h
  cases x with
  | ok a =>
    cases h
    exact ⟨a, hx, rfl⟩
  | error fault => cases h

/-! ### Edits that complete -/

namespace Completes

theorem pure {a : α} (h : P a t) : t.Completes (pure a) P := ⟨a, t, rfl, h⟩

theorem bind (he : t.Completes e P) (hf : ∀ a t', P a t' → t'.Completes (f a) Q) :
    t.Completes (e >>= f) Q := by
  obtain ⟨a, t₁, hrun, hP⟩ := he
  obtain ⟨b, t₂, hrun', hQ⟩ := hf a t₁ hP
  exact ⟨b, t₂, by rw [run_bind, hrun]; exact hrun', hQ⟩

theorem mono {P' : α → Tree → Prop} (he : t.Completes e P) (h : ∀ a t', P a t' → P' a t') :
    t.Completes e P' := by
  obtain ⟨a, t₁, hrun, hP⟩ := he
  exact ⟨a, t₁, hrun, h a t₁ hP⟩

theorem get_bind {f : Tree → Edit β} (h : t.Completes (f t) Q) :
    t.Completes (getThe Tree >>= f) Q := h

theorem ask_bind {q : Tree → Except TreeFault α} {a : α} (ha : q t = .ok a)
    (hf : t.Completes (f a) Q) : t.Completes (Edit.ask q >>= f) Q :=
  bind (P := fun a' t' => a' = a ∧ t' = t) ⟨a, t, congrArg (·, t) ha, rfl, rfl⟩
    fun _ _ ⟨ha, ht⟩ => ha ▸ ht ▸ hf

theorem change {id : ObjectId} {g : Node → Node} {P : Unit → Tree → Prop} (hid : t.Has id)
    (h : P () (t.modify id g)) : t.Completes (Edit.change id g) P := by
  obtain ⟨o, ho⟩ := has_iff_object?.1 hid
  exact ask_bind (get_eq_ok.2 ho) ⟨(), _, rfl, h⟩

/-- A write, and what comes after it. -/
theorem change_bind {id : ObjectId} {g : Node → Node} {f : Unit → Edit β} (hid : t.Has id)
    (hf : (t.modify id g).Completes (f ()) Q) : t.Completes (Edit.change id g >>= f) Q :=
  (change (P := fun _ t' => t' = t.modify id g) hid rfl).bind fun _ _ ht => ht ▸ hf

end Completes

/-! ### Edits that may be refused -/

namespace Attempts

theorem of_completes (h : t.Completes e P) : t.Attempts e P := Or.inr h

theorem pure {a : α} (h : P a t) : t.Attempts (pure a) P := .of_completes (.pure h)

theorem refuse {fault : TreeFault} : t.Attempts (Edit.refuse fault) P := Or.inl ⟨fault, rfl⟩

/-- The rest of an edit that has written completes. -/
theorem bind (he : t.Attempts e P) (hf : ∀ a t', P a t' → t'.Completes (f a) Q) :
    t.Attempts (e >>= f) Q := by
  rcases he with ⟨fault, hrun⟩ | he
  · exact Or.inl ⟨fault, by rw [run_bind, hrun]⟩
  · exact Or.inr (he.bind hf)

/-- The rest of an edit that has only looked may be refused. -/
theorem check_bind {R : α → Prop} (he : t.Attempts e fun a t' => R a ∧ t' = t)
    (hf : ∀ a, R a → t.Attempts (f a) Q) : t.Attempts (e >>= f) Q := by
  rcases he with ⟨fault, hrun⟩ | ⟨a, t₁, hrun, hR, rfl⟩
  · exact Or.inl ⟨fault, by rw [run_bind, hrun]⟩
  · rcases hf a hR with ⟨fault, hrun'⟩ | ⟨b, t₂, hrun', hQ⟩
    · exact Or.inl ⟨fault, by rw [run_bind, hrun]; exact hrun'⟩
    · exact Or.inr ⟨b, t₂, by rw [run_bind, hrun]; exact hrun', hQ⟩

theorem mono {P' : α → Tree → Prop} (he : t.Attempts e P) (h : ∀ a t', P a t' → P' a t') :
    t.Attempts e P' := by
  exact he.imp_right fun he => he.mono h

theorem map {g : α → β} (he : t.Attempts e fun a t' => Q (g a) t') : t.Attempts (g <$> e) Q :=
  he.bind fun _ _ hQ => .pure hQ

theorem ask (q : Tree → Except TreeFault α) :
    t.Attempts (Edit.ask q) fun a t' => q t = .ok a ∧ t' = t := by
  cases hq : q t with
  | error fault => exact Or.inl ⟨fault, congrArg (·, t) hq⟩
  | ok a => exact Or.inr ⟨a, t, congrArg (·, t) hq, rfl, rfl⟩

theorem ask_bind {q : Tree → Except TreeFault α} (hf : ∀ a, q t = .ok a → t.Attempts (f a) Q) :
    t.Attempts (Edit.ask q >>= f) Q :=
  (ask q).check_bind hf

theorem get_bind {f : Tree → Edit β} (h : t.Attempts (f t) Q) :
    t.Attempts (getThe Tree >>= f) Q := h

theorem require (holds : Bool) (fault : TreeFault) :
    t.Attempts (Edit.require holds fault) fun _ t' => holds ∧ t' = t := by
  cases holds with
  | false => exact refuse
  | true => exact .pure ⟨rfl, rfl⟩

theorem require_bind {holds : Bool} {fault : TreeFault} {f : Unit → Edit β}
    (hf : holds → t.Attempts (f ()) Q) : t.Attempts (Edit.require holds fault >>= f) Q :=
  (require holds fault).check_bind fun _ => hf

end Attempts

/-- An attempt that ends with a result has completed. -/
theorem Attempts.of_ok {a : α} (h : t.Attempts e P) (hrun : e.run.run t = (.ok a, t')) :
    P a t' := by
  rcases h with ⟨fault, hrun'⟩ | ⟨a', t₁, hrun', hP⟩
  · cases hrun.symm.trans hrun'
  · cases hrun.symm.trans hrun'
    exact hP

/-- An attempt that ends with a fault has left the tree. -/
theorem Attempts.eq_of_error {fault : TreeFault} (h : t.Attempts e P)
    (hrun : e.run.run t = (.error fault, t')) : t' = t := by
  rcases h with ⟨fault', hrun'⟩ | ⟨a', t₁, hrun', -⟩
  · cases hrun.symm.trans hrun'
    rfl
  · cases hrun.symm.trans hrun'

end Tree

end Schemata
