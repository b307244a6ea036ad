import Schemata.Proofs.Operations

/-!
# Trees that are built by operations

The results on all trees that come from the empty one by operations, whatever their arguments and
whether they are refused or not.

* The objects form a forest: who owns an object is its one parent, and the ancestors of an object
  end at a root.
* An operation that is refused leaves the tree as it was.
* What an attribute or an element reads is at the end of a finite chain of references.

All of it comes from what every step keeps (`wellFormed_performAll`, `complete_performAll`).
-/

namespace Schemata

/-- The numbers that a node knows. -/
def Node.ids (n : Node) : List ObjectId :=
  n.object.owned ++ n.object.target?.toList ++ n.parent.toList

namespace Tree

variable {t t' : Tree} {x y : ObjectId}

/-- What is owned, owner by owner. -/
def allOwned (t : Tree) : List ObjectId := t.nodes.toList.flatMap fun n => n.object.owned

theorem wellFormed_performAll (ops : List Operation) (h : t.WellFormed) :
    (t.performAll ops).WellFormed := by
  induction ops generalizing t with
  | nil => exact h
  | cons op ops ih => exact ih (wellFormed_perform h op)

theorem complete_performAll {ops : List Operation}
    (hops : ∀ child parent, .setParent child parent ∉ ops) (h : t.WellFormed) (hc : t.Complete) :
    (t.performAll ops).Complete := by
  induction ops generalizing t with
  | nil => exact hc
  | cons op ops ih =>
    refine ih (fun child parent hmem => hops child parent (List.mem_cons_of_mem _ hmem))
      (wellFormed_perform h op) ((step_of_perform h op).complete h hc ?_)
    rintro child parent rfl
    exact hops child parent List.mem_cons_self

namespace WellFormed

/-- What is owned is owned once. -/
theorem nodup_allOwned (h : t.WellFormed) : t.allOwned.Nodup := by
  refine List.nodup_flatMap.2 ⟨fun n hn => ?_, List.pairwise_iff_getElem.2 ?_⟩
  · obtain ⟨x, hx⟩ := exists_node?_of_mem (Array.mem_toList_iff.1 hn)
    exact h.nodup_owned_of_object? (object?_eq hx)
  · intro i j hi hj hij y hyi hyj
    have hnode : ∀ (k : Nat) (hk : k < t.nodes.toList.length),
        t.node? ⟨k⟩ = some t.nodes.toList[k] := fun k hk =>
      Array.getElem?_eq_getElem (by simpa using hk)
    have hpi := h.parent_of_owns ⟨i⟩ y ((owns_iff (object?_eq (hnode i hi))).2 hyi)
    have hpj := h.parent_of_owns ⟨j⟩ y ((owns_iff (object?_eq (hnode j hj))).2 hyj)
    have : i = j := congrArg ObjectId.index (Option.some.inj (hpi.symm.trans hpj))
    omega

theorem count_allOwned (h : t.WellFormed) (hxy : t.Owns x y) : t.allOwned.count y = 1 := by
  obtain ⟨n, hn⟩ := has_iff_node?.1 (Tree.has_of_owns hxy)
  have hmem : n ∈ t.nodes.toList := Array.mem_toList_iff.2 (Array.mem_of_getElem? hn)
  have hy : y ∈ n.object.owned := (owns_iff (object?_eq hn)).1 hxy
  exact List.count_eq_one_of_mem h.nodup_allOwned (List.mem_flatMap.2 ⟨n, hmem, hy⟩)

theorem has_of_mem_ids (h : t.WellFormed) {n : Node} (hn : n ∈ t.nodes) (hy : y ∈ n.ids) :
    t.Has y := by
  obtain ⟨x, hx⟩ := exists_node?_of_mem hn
  rw [Node.ids, List.mem_append, List.mem_append, Option.mem_toList, Option.mem_toList] at hy
  rcases hy with (hy | hy) | hy
  · exact h.has_of_owns ((owns_iff (object?_eq hx)).2 hy)
  · exact h.has_of_target (x := x) (by rwa [target?_eq (object?_eq hx)])
  · exact h.has_parent x y (by rwa [parent?, hx, Option.bind_some])

theorem not_mem_ancestors (h : t.WellFormed) (x : ObjectId) : x ∉ t.ancestors x :=
  (List.nodup_cons.1 (trail_ancestors h x).nodup).1

/-- The last ancestor is a root. -/
theorem parent?_last_ancestor (h : t.WellFormed) (x : ObjectId) :
    t.parent? ((t.ancestors x).getLastD x) = none := by
  obtain ⟨e, he, hn⟩ := (trail_ancestors h x).exists_getLast
  rw [List.getLast?_cons, Option.some.injEq] at he
  rwa [List.getLastD_eq_getLast?, he]

end WellFormed

theorem wellFormed_of_built {ops : List Operation} (ht : performAll {} ops = t) : t.WellFormed :=
  ht ▸ wellFormed_performAll ops wellFormed_empty

/-! ## Ownership -/

/-- The objects of a tree that is built by operations form a forest. All numbers that they know were
given out; what an object owns has it as its parent and is owned nowhere else; the ancestors of an
object lead from parent to parent to a root, and the object is none of them. If no object was given
a parent by itself, every parent owns its children. -/
theorem forest_of_built {ops : List Operation} (ht : performAll {} ops = t) :
    (∀ n ∈ t.nodes, ∀ id ∈ n.ids, t.Has id) ∧
    (∀ x y, t.Owns x y → t.parent? y = some x ∧ t.allOwned.count y = 1) ∧
    (∀ x, x ∉ t.ancestors x ∧ (x :: t.ancestors x).IsChain (fun a b => t.parent? a = some b) ∧
      t.parent? ((t.ancestors x).getLastD x) = none) ∧
    ((∀ child parent, .setParent child parent ∉ ops) →
      ∀ x y, t.parent? y = some x → t.Owns x y) := by
  have h := wellFormed_of_built ht
  refine ⟨fun n hn id hid => ?_, fun x y hxy => ?_, fun x => ?_, fun hops => ?_⟩
  · exact h.has_of_mem_ids hn hid
  · exact ⟨h.parent_of_owns x y hxy, h.count_allOwned hxy⟩
  · exact ⟨h.not_mem_ancestors x, (trail_ancestors h x).isChain, h.parent?_last_ancestor x⟩
  · exact ht ▸ complete_performAll hops wellFormed_empty complete_empty

/-- An element with a value that is attached twice, the second time as a copy. -/
def twins : List Operation := [
  .newElement (.unqualified "item"), .newSimple none (.atomic (.string "x")),
  .setValue ⟨0⟩ (some ⟨1⟩), .newChildSet none, .addChild ⟨2⟩ ⟨0⟩, .newChildSet none,
  .addChild ⟨3⟩ ⟨0⟩]

/-- Each of the twins owns its own value. -/
theorem twins_own : (∀ child parent, .setParent child parent ∉ twins) ∧
    (performAll {} twins).parent? ⟨5⟩ = some ⟨4⟩ ∧ (performAll {} twins).Owns ⟨4⟩ ⟨5⟩ ∧
    (performAll {} twins).allOwned.count ⟨5⟩ = 1 ∧ (performAll {} twins).Owns ⟨0⟩ ⟨1⟩ ∧
    (performAll {} twins).allOwned.count ⟨1⟩ = 1 := by
  have hbuilt : performAll {} twins = performAll {} twins := rfl
  obtain ⟨-, howned, -, hcomplete⟩ := forest_of_built hbuilt
  have hops : ∀ child parent, .setParent child parent ∉ twins := by simp [twins]
  have hcopy : (performAll {} twins).parent? ⟨5⟩ = some ⟨4⟩ := by decide +kernel
  have hfirst : (performAll {} twins).parent? ⟨1⟩ = some ⟨0⟩ := by decide +kernel
  have howns := hcomplete hops _ _ hcopy
  have howns' := hcomplete hops _ _ hfirst
  exact ⟨hops, hcopy, howns, (howned _ _ howns).2, howns', (howned _ _ howns').2⟩

/-! ## Refused operations -/

/-- An operation that is refused leaves the tree as it was. -/
theorem unchanged_of_refused {ops : List Operation} (ht : performAll {} ops = t) (op : Operation)
    {fault : TreeFault} (hrun : t.perform op = (.error fault, t')) : t' = t :=
  (attempts_perform (wellFormed_of_built ht) op).eq_of_error hrun

/-- An element in the children of a complex object. -/
def shelf : List Operation := [
  .newComplex none, .newChildSet none, .newElement (.unqualified "item"), .setChildren ⟨0⟩ ⟨1⟩,
  .addChild ⟨1⟩ ⟨2⟩]

/-- The element cannot hold the object that it is below, and nothing comes of it. -/
theorem shelf_unchanged : (performAll {} shelf).perform (.setValue ⟨2⟩ (some ⟨0⟩)) =
    (.error (.ancestor ⟨0⟩ ⟨2⟩), performAll {} shelf) := by
  have hbuilt : performAll {} shelf = performAll {} shelf := rfl
  have hrefused : ((performAll {} shelf).perform (.setValue ⟨2⟩ (some ⟨0⟩))).1 =
      .error (.ancestor ⟨0⟩ ⟨2⟩) := by decide +kernel
  exact Prod.ext hrefused (unchanged_of_refused hbuilt _ (Prod.ext hrefused rfl))

/-! ## References -/

/-- An attribute or an element of a tree that is built by operations reads what is at the end of a
finite chain of references among objects of its own sort; the depth is the number of references in
the chain. -/
theorem chain_ends_at_effective {ops : List Operation} (ht : performAll {} ops = t)
    {o : Object} (ho : t.get x = .ok o) (hsort : o.sort = .attr ∨ o.sort = .element) :
    ∃ (chain : List ObjectId) (e : ObjectId) (v : Option ObjectId) (depth : Nat),
      chain.head? = some x ∧ chain.getLast? = some e ∧
      chain.IsChain (fun a b => t.slot a = .ok (.reference b)) ∧
      (∀ y ∈ chain, ∃ o', t.get y = .ok o' ∧ o'.sort = o.sort) ∧ t.slot e = .ok (.direct v) ∧
      t.effective x = .ok e ∧ t.valueOf x = .ok v ∧
      chain.length = depth + 1 ∧ t.referenceDepth x = .ok depth := by
  have h := wellFormed_of_built ht
  rw [get_eq_ok] at ho
  obtain ⟨s, hs⟩ := Object.exists_slot?.2 hsort
  obtain ⟨chain, e, v, depth, hl, he, hv, heff, hval, hlen, hdepth⟩ :=
    exists_chain h (slot_eq_ok.2 ⟨o, ho, hs⟩)
  refine ⟨chain, e, v, depth, ?_, he, ?_, fun y hy => ?_, hv, heff, hval, hlen, hdepth⟩
  · obtain ⟨l', rfl⟩ := hl.exists_cons
    rfl
  · exact hl.isChain.imp fun a b hab => target?_eq_some.1 hab
  · have hsame := (sort?_of_mem_trail h hl y hy).trans (sort?_eq ho)
    obtain ⟨o', ho', hso⟩ := Option.map_eq_some_iff.1 hsame
    exact ⟨o', get_eq_ok.2 ho', hso⟩

/-- Three attributes that refer to one another, and a value that is set through the last one. -/
def echo : List Operation := [
  .newAttribute "first", .newAttribute "second", .newAttribute "third",
  .newSimple none (.atomic (.string "x")), .setReference ⟨1⟩ ⟨0⟩, .setReference ⟨2⟩ ⟨1⟩,
  .setValue ⟨2⟩ (some ⟨3⟩)]

/-- The last attribute reads the value of the first one. -/
theorem echo_ends : ∃ chain : List ObjectId, chain.head? = some ⟨2⟩ ∧ chain.getLast? = some ⟨0⟩ ∧
    chain.length = 3 ∧ (performAll {} echo).slot ⟨0⟩ = .ok (.direct (some ⟨3⟩)) := by
  have hbuilt : performAll {} echo = performAll {} echo := rfl
  have hget : (performAll {} echo).get ⟨2⟩ = .ok (.attr "third" (.reference ⟨1⟩)) := by rfl
  obtain ⟨chain, e, v, depth, hfirst, hlast, -, -, hslot, heff, hval, hlen, hdepth⟩ :=
    chain_ends_at_effective hbuilt hget (Or.inl rfl)
  have heff' : (performAll {} echo).effective ⟨2⟩ = .ok ⟨0⟩ := by decide +kernel
  have hval' : (performAll {} echo).valueOf ⟨2⟩ = .ok (some ⟨3⟩) := by decide +kernel
  have hdepth' : (performAll {} echo).referenceDepth ⟨2⟩ = .ok 2 := by decide +kernel
  obtain rfl := Except.ok.inj (heff.symm.trans heff')
  obtain rfl := Except.ok.inj (hval.symm.trans hval')
  obtain rfl := Except.ok.inj (hdepth.symm.trans hdepth')
  exact ⟨chain, hfirst, hlast, hlen, hslot⟩

end Tree

end Schemata
