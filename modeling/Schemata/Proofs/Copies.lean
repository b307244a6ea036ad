import Schemata.Proofs.WellFormed

/-!
# Subtrees and their copies

In a well-formed tree the walk through a subtree comes to an end before its fuel does, and it meets
each object that is owned from the root, directly or not, just once (`Tree.Subtree`). The copies of
these objects own each other, and have each other as parents, where the originals do; references are
those of the originals. So a well-formed tree stays well-formed when a copy is put beside it, and a
complete one stays complete.
-/

namespace Schemata

open Relation

namespace Object

theorem target?_mapOwned (f : ObjectId → ObjectId) (o : Object) :
    (o.mapOwned f).target? = o.target? := by
  cases o with
  | attr n s => cases s <;> rfl
  | element n s => cases s <;> rfl
  | _ => rfl

end Object

namespace Tree

variable {t : Tree} {root x y z : ObjectId} {order seen queue : List ObjectId}

/-! ## The walk through a subtree -/

/-- What is known of the objects that a walk down from a root has met: of those that it has seen and
of those that it still has to see, in any order. -/
structure Met (t : Tree) (root : ObjectId) (seen queue : List ObjectId) : Prop where
  nodup : (seen ++ queue).Nodup
  reached : ∀ y ∈ seen ++ queue, ReflTransGen t.Owns root y
  source : ∀ y ∈ seen ++ queue, y = root ∨ ∃ x ∈ seen, t.Owns x y

/-- What is known of a walk through a subtree: of the objects that it has seen and those in its
queue. -/
structure Walked (t : Tree) (root : ObjectId) (seen queue : List ObjectId) : Prop where
  nodup : (seen ++ queue).Nodup
  reached : ∀ y ∈ seen ++ queue, ReflTransGen t.Owns root y
  closed : ∀ x ∈ seen, ∀ y, t.Owns x y → y ∈ seen ++ queue
  source : ∀ y ∈ seen ++ queue, y = root ∨ ∃ x ∈ seen, t.Owns x y

/-- The objects of a subtree, each of them once and the root first. -/
structure Subtree (t : Tree) (root : ObjectId) (order : List ObjectId) : Prop where
  nodup : order.Nodup
  reached : ∀ y ∈ order, ReflTransGen t.Owns root y
  closed : ∀ x ∈ order, ∀ y, t.Owns x y → y ∈ order
  first : order.head? = some root

theorem has_of_reaches (h : t.WellFormed) (hroot : t.Has root) (hy : ReflTransGen t.Owns root y) :
    t.Has y := by
  rcases hy.cases_tail with rfl | ⟨x, -, hxy⟩
  · exact hroot
  · exact h.has_of_owns hxy

namespace Met

theorem start (t : Tree) (root : ObjectId) : t.Met root [] [root] where
  nodup := by simp
  reached y hy := by
    obtain rfl := List.mem_singleton.1 hy
    exact .refl
  source y hy := Or.inl (List.mem_singleton.1 hy)

theorem perm {seen' queue' : List ObjectId} (hm : t.Met root seen queue)
    (hseen : seen.Perm seen') (hqueue : queue.Perm queue') : t.Met root seen' queue' := by
  have hall := hseen.append hqueue
  refine ⟨hall.nodup_iff.1 hm.nodup, fun y hy => hm.reached y (hall.mem_iff.2 hy), fun y hy => ?_⟩
  refine (hm.source y (hall.mem_iff.2 hy)).imp_right ?_
  rintro ⟨x, hx, hxy⟩
  exact ⟨x, hseen.mem_iff.1 hx, hxy⟩

/-- No more objects are met than there are. -/
theorem length_le (hm : t.Met root seen queue) (h : t.WellFormed) (hroot : t.Has root) :
    seen.length + queue.length ≤ t.size := by
  rw [← List.length_append]
  exact length_le_size hm.nodup fun y hy => has_of_reaches h hroot (hm.reached y hy)

/-- An object is seen, and what it owns is left out. -/
theorem skip (hm : t.Met root seen (x :: queue)) : t.Met root (x :: seen) queue := by
  have hall : (seen ++ x :: queue).Perm (x :: seen ++ queue) := List.perm_middle
  refine ⟨hall.nodup_iff.1 hm.nodup, fun y hy => hm.reached y (hall.mem_iff.2 hy), fun y hy => ?_⟩
  refine (hm.source y (hall.mem_iff.2 hy)).imp_right ?_
  rintro ⟨x', hx', hxy⟩
  exact ⟨x', List.mem_cons_of_mem _ hx', hxy⟩

/-- An object is seen, and what it owns is new. -/
theorem step (h : t.WellFormed) (hm : t.Met root seen (x :: queue)) :
    t.Met root (x :: seen) (t.owned x ++ queue) := by
  have hx : x ∈ seen ++ (x :: queue) := by simp
  have hfresh : ∀ y ∈ seen ++ (x :: queue), ¬t.Owns x y := by
    intro y hy hxy
    rcases hm.source y hy with rfl | ⟨x', hx', hxy'⟩
    · exact h.not_owns_of_reaches (hm.reached x hx) hxy
    · have hpar := h.parent_of_owns x y hxy
      obtain rfl := Option.some.inj (hpar.symm.trans (h.parent_of_owns x' y hxy'))
      have hdisjoint := (List.nodup_append.1 hm.nodup).2.2
      exact hdisjoint x hx' x List.mem_cons_self rfl
  have hall : (x :: seen ++ (t.owned x ++ queue)).Perm (t.owned x ++ (seen ++ x :: queue)) := by
    rw [← List.append_assoc]
    refine (List.perm_append_comm.append_right queue).trans ?_
    rw [List.append_assoc]
    exact List.perm_middle.symm.append_left _
  refine ⟨hall.nodup_iff.2 (List.nodup_append.2 ⟨h.nodup_owned x, hm.nodup, ?_⟩), ?_, ?_⟩
  · rintro y hxy _ hy rfl
    exact hfresh y hy hxy
  · intro y hy
    rcases List.mem_append.1 (hall.mem_iff.1 hy) with hy | hy
    · exact (hm.reached x hx).tail hy
    · exact hm.reached y hy
  · intro y hy
    rcases List.mem_append.1 (hall.mem_iff.1 hy) with hy | hy
    · exact Or.inr ⟨x, List.mem_cons_self, hy⟩
    · exact hm.skip.source y (List.perm_middle.mem_iff.1 hy)

end Met

theorem Walked.met (hw : t.Walked root seen queue) : t.Met root seen queue :=
  ⟨hw.nodup, hw.reached, hw.source⟩

theorem Walked.start (t : Tree) (root : ObjectId) : t.Walked root [] [root] where
  nodup := by simp
  reached := (Met.start t root).reached
  closed x hx := by cases hx
  source := (Met.start t root).source

/-- The first object of the queue is seen, and what it owns is new. -/
theorem Walked.step (h : t.WellFormed) (hw : t.Walked root seen (x :: queue)) :
    t.Walked root (seen ++ [x]) (queue ++ t.owned x) := by
  have hm : t.Met root (seen ++ [x]) (queue ++ t.owned x) :=
    (hw.met.step h).perm (List.perm_append_singleton x seen).symm List.perm_append_comm
  refine ⟨hm.nodup, hm.reached, fun x' hx' y hxy => ?_, hm.source⟩
  rw [← List.append_assoc, List.append_assoc seen, List.singleton_append, List.mem_append]
  rw [List.mem_append, List.mem_singleton] at hx'
  rcases hx' with hx' | rfl
  · exact Or.inl (hw.closed x' hx' y hxy)
  · exact Or.inr hxy

/-- With fuel for all objects that are not seen yet the walk is never cut short. -/
theorem ownedFrom_ok (h : t.WellFormed) (hroot : t.Has root) {fuel : Nat}
    (hw : t.Walked root seen queue) (hfuel : t.size ≤ seen.length + fuel) :
    ∃ l, t.ownedFrom fuel queue = .ok l ∧ queue <+: l ∧ t.Walked root (seen ++ l) [] := by
  have hlen : (seen ++ queue).length ≤ t.size :=
    length_le_size hw.nodup fun y hy => has_of_reaches h hroot (hw.reached y hy)
  induction fuel generalizing seen queue with
  | zero =>
    obtain rfl : queue = [] := by
      rw [List.length_append] at hlen
      exact List.eq_nil_of_length_eq_zero (by omega)
    exact ⟨[], rfl, List.prefix_rfl, by simpa using hw⟩
  | succ fuel ih =>
    cases queue with
    | nil => exact ⟨[], rfl, List.prefix_rfl, by simpa using hw⟩
    | cons x rest =>
      obtain ⟨o, ho⟩ := has_iff_object?.1
        (has_of_reaches h hroot (hw.reached x (by simp)))
      have hstep := hw.step h
      obtain ⟨l, hl, hpre, hw'⟩ := ih hstep
        (by rw [List.length_append, List.length_singleton]; omega)
        (length_le_size hstep.nodup fun y hy => has_of_reaches h hroot (hstep.reached y hy))
      rw [owned_eq ho] at hl
      refine ⟨x :: l, ?_, ?_, by simpa using hw'⟩
      · simp [ownedFrom, get_eq_ok.2 ho, hl, bind, Except.bind]
      · exact List.cons_prefix_cons.2 ⟨rfl, (List.prefix_append _ _).trans hpre⟩

/-- The walk through a subtree of a well-formed tree. -/
theorem exists_subtree (h : t.WellFormed) (hroot : t.Has root) :
    ∃ order, t.subtree root = .ok order ∧ t.Subtree root order := by
  obtain ⟨order, hok, ⟨rest, rfl⟩, hw⟩ := ownedFrom_ok h hroot (.start t root)
    (Nat.le_add_left t.size 0)
  have hmem : ∀ x, x ∈ [] ++ ([root] ++ rest) ++ [] ↔ x ∈ [root] ++ rest := by simp
  refine ⟨_, hok, by simpa using hw.nodup, ?_, ?_, rfl⟩
  · exact fun y hy => hw.reached y ((hmem y).2 hy)
  · exact fun x hx y hxy => (hmem y).1 (hw.closed x (by simpa using hx) y hxy)

/-! ## Copies -/

/-- The tree with the copies of some objects. -/
def copied (t : Tree) (order : List ObjectId) (root : ObjectId) : Tree :=
  ⟨t.nodes ++ (t.copies order root).toArray⟩

/-- There is a copy of each object. -/
theorem map_some_copies (root : ObjectId) (hall : ∀ x ∈ order, t.Has x) :
    (t.copies order root).map some =
      order.map fun x => (t.node? x).map (copyNode order t.size root x) := by
  unfold copies
  -- the numbers of the copies come from the whole order, so it is not the one of the induction
  generalize copyNode order t.size root = copy
  induction order with
  | nil => rfl
  | cons x order ih =>
    obtain ⟨n, hn⟩ := has_iff_node?.1 (hall x List.mem_cons_self)
    rw [List.filterMap_cons_some (by rw [hn, Option.map_some]), List.map_cons, List.map_cons, hn,
      ih fun y hy => hall y (List.mem_cons_of_mem _ hy), Option.map_some]

theorem length_copies (root : ObjectId) (hall : ∀ x ∈ order, t.Has x) :
    (t.copies order root).length = order.length := by
  simpa using congrArg List.length (map_some_copies root hall)

theorem getElem?_copies (hall : ∀ x ∈ order, t.Has x) (i : Nat) :
    (t.copies order root)[i]? =
      order[i]?.bind fun x => (t.node? x).map (copyNode order t.size root x) := by
  have hmap := congrArg (·[i]?) (map_some_copies root hall)
  simp only [List.getElem?_map] at hmap
  cases hc : (t.copies order root)[i]? <;> cases ho : order[i]? <;> simp_all

theorem node?_copied (hall : ∀ x ∈ order, t.Has x) : (t.copied order root).node? x =
    if t.Has x then t.node? x
    else order[x.index - t.size]?.bind fun y => (t.node? y).map (copyNode order t.size root y) := by
  rw [node?, copied, Array.getElem?_append]
  refine if_congr Iff.rfl rfl ?_
  rw [List.getElem?_toArray, getElem?_copies hall]
  rfl

theorem has_copied (hall : ∀ x ∈ order, t.Has x) :
    (t.copied order root).Has x ↔ x.index < t.size + order.length := by
  rw [← length_copies root hall]
  simp only [Has, size, copied, Array.size_append, List.size_toArray]

theorem copyId_eq_some (hd : order.Nodup) {base : Nat} :
    copyId order base y = some x ↔ ∃ i, order[i]? = some y ∧ x = ⟨base + i⟩ := by
  unfold copyId
  rw [Option.map_eq_some_iff]
  refine exists_congr fun i => ?_
  rw [List.idxOf?_eq_some_iff, List.getElem?_eq_some_iff, eq_comm (b := x)]
  refine and_congr_left' ⟨fun ⟨hi, hy, _⟩ => ⟨hi, hy⟩, fun ⟨hi, hy⟩ => ⟨hi, hy, ?_⟩⟩
  intro j hj hjy
  have hji : order[j] = order[i] := hjy.trans hy.symm
  have := hd.getElem_inj_iff.1 hji
  omega

section Copied

variable (h : t.WellFormed) (hroot : t.Has root) (hs : t.Subtree root order)

/-- An object of a copy is a copy of another one. -/
def CopyOf (t : Tree) (order : List ObjectId) (y x : ObjectId) : Prop :=
  copyId order t.size y = some x

include hs in
theorem exists_copyOf (hy : y ∈ order) : ∃ x, t.CopyOf order y x := by
  obtain ⟨i, hi⟩ := List.mem_iff_getElem?.1 hy
  exact ⟨_, (copyId_eq_some hs.nodup).2 ⟨i, hi, rfl⟩⟩

include hs in
theorem mem_of_copyOf (hc : t.CopyOf order y x) : y ∈ order := by
  obtain ⟨i, hi, -⟩ := (copyId_eq_some hs.nodup).1 hc
  exact List.mem_of_getElem? hi

include hs in
theorem not_has_of_copyOf (hc : t.CopyOf order y x) : ¬t.Has x := by
  obtain ⟨i, -, rfl⟩ := (copyId_eq_some hs.nodup).1 hc
  exact Nat.not_lt.2 (Nat.le_add_right _ _)

include hs in
theorem copyOf_inj (hy : t.CopyOf order y x) (hz : t.CopyOf order z x) : y = z := by
  obtain ⟨i, hi, rfl⟩ := (copyId_eq_some hs.nodup).1 hy
  obtain ⟨j, hj, hij⟩ := (copyId_eq_some hs.nodup).1 hz
  obtain rfl : i = j := by
    have := congrArg ObjectId.index hij
    simpa using this
  exact Option.some.inj (hi.symm.trans hj)

include hs in
/-- The copy of the root has the first number. -/
theorem copyOf_root : t.CopyOf order root ⟨t.size⟩ := by
  refine (copyId_eq_some hs.nodup).2 ⟨0, ?_, rfl⟩
  rw [← List.head?_eq_getElem?]
  exact hs.first

include h hroot hs

theorem has_of_mem_subtree (hy : y ∈ order) : t.Has y :=
  has_of_reaches h hroot (hs.reached y hy)

theorem exists_of_has_copied (hx : (t.copied order root).Has x) :
    t.Has x ∨ ∃ y, t.CopyOf order y x := by
  by_cases hold : t.Has x
  · exact Or.inl hold
  · rw [has_copied fun y hy => has_of_mem_subtree h hroot hs hy] at hx
    have hx' : t.size ≤ x.index := Nat.not_lt.1 hold
    obtain ⟨y, hy⟩ : ∃ y, order[x.index - t.size]? = some y :=
      ⟨_, List.getElem?_eq_getElem (by omega)⟩
    refine Or.inr ⟨y, (copyId_eq_some hs.nodup).2 ⟨_, hy, ?_⟩⟩
    rw [Nat.add_sub_cancel' hx']

theorem has_copied_of_has (hx : t.Has x) : (t.copied order root).Has x := by
  rw [has_copied fun y hy => has_of_mem_subtree h hroot hs hy]
  exact Nat.lt_add_right _ hx

theorem has_copied_of_copyOf (hc : t.CopyOf order y x) : (t.copied order root).Has x := by
  obtain ⟨i, hi, rfl⟩ := (copyId_eq_some hs.nodup).1 hc
  rw [has_copied fun y hy => has_of_mem_subtree h hroot hs hy]
  have := (List.getElem?_eq_some_iff.1 hi).1
  simpa using this

theorem node?_copied_of_has (hx : t.Has x) : (t.copied order root).node? x = t.node? x := by
  rw [node?_copied fun y hy => has_of_mem_subtree h hroot hs hy, if_pos hx]

theorem node?_copied_of_copyOf (hc : t.CopyOf order y x) :
    (t.copied order root).node? x = (t.node? y).map (copyNode order t.size root y) := by
  rw [node?_copied fun y hy => has_of_mem_subtree h hroot hs hy,
    if_neg (not_has_of_copyOf hs hc)]
  obtain ⟨i, hi, rfl⟩ := (copyId_eq_some hs.nodup).1 hc
  rw [Nat.add_sub_cancel_left, hi, Option.bind_some]

theorem object?_copied_of_has (hx : t.Has x) : (t.copied order root).object? x = t.object? x := by
  rw [object?, node?_copied_of_has h hroot hs hx, object?]

theorem parent?_copied_of_has (hx : t.Has x) : (t.copied order root).parent? x = t.parent? x := by
  rw [parent?, node?_copied_of_has h hroot hs hx, parent?]

theorem object?_copied_of_copyOf (hc : t.CopyOf order y x) : (t.copied order root).object? x =
    (t.object? y).map (·.mapOwned fun z => (copyId order t.size z).getD z) := by
  rw [object?, node?_copied_of_copyOf h hroot hs hc, object?, Option.map_map, Option.map_map]
  rfl

theorem parent?_copied_of_copyOf (hc : t.CopyOf order y x) : (t.copied order root).parent? x =
    if y = root then none else (t.parent? y).bind (copyId order t.size) := by
  obtain ⟨n, hn⟩ := has_iff_node?.1 (has_of_mem_subtree h hroot hs (mem_of_copyOf hs hc))
  rw [parent?, node?_copied_of_copyOf h hroot hs hc, hn, Option.map_some, Option.bind_some, parent?,
    hn, Option.bind_some]
  rfl

theorem target?_copied_of_has (hx : t.Has x) : (t.copied order root).target? x = t.target? x :=
  target?_congr (object?_copied_of_has h hroot hs hx)

theorem target?_copied_of_copyOf (hc : t.CopyOf order y x) :
    (t.copied order root).target? x = t.target? y := by
  rw [target?, object?_copied_of_copyOf h hroot hs hc, target?, Option.bind_map]
  exact congrArg (Option.bind _) (funext (Object.target?_mapOwned _))

theorem sort?_copied_of_has (hx : t.Has x) : (t.copied order root).sort? x = t.sort? x :=
  sort?_congr (object?_copied_of_has h hroot hs hx)

theorem sort?_copied_of_copyOf (hc : t.CopyOf order y x) :
    (t.copied order root).sort? x = t.sort? y := by
  rw [sort?, object?_copied_of_copyOf h hroot hs hc, sort?, Option.map_map]
  exact congrArg (Option.map · _) (funext (Object.sort_mapOwned _))

theorem owned_copied_of_has (hx : t.Has x) : (t.copied order root).owned x = t.owned x :=
  owned_congr (object?_copied_of_has h hroot hs hx)

theorem owned_copied_of_copyOf (hc : t.CopyOf order y x) : (t.copied order root).owned x =
    (t.owned y).map fun z => (copyId order t.size z).getD z := by
  obtain ⟨o, ho⟩ := has_iff_object?.1 (has_of_mem_subtree h hroot hs (mem_of_copyOf hs hc))
  rw [owned, object?_copied_of_copyOf h hroot hs hc, ho, Option.map_some, Option.elim_some,
    Object.owned_mapOwned, owned_eq ho]

/-- A copy owns the copies of what the original owns. -/
theorem owns_copied_of_copyOf (hc : t.CopyOf order y x) :
    (t.copied order root).Owns x z ↔ ∃ w, t.Owns y w ∧ t.CopyOf order w z := by
  rw [Owns, owned_copied_of_copyOf h hroot hs hc, List.mem_map]
  refine exists_congr fun w => and_congr_right fun hw => ?_
  obtain ⟨w', hw'⟩ := exists_copyOf hs (hs.closed y (mem_of_copyOf hs hc) w hw)
  rw [CopyOf] at hw' ⊢
  rw [hw', Option.getD_some, Option.some.injEq]

/-- What is owned in a subtree is not its root. -/
theorem ne_root_of_owns (hy : y ∈ order) (hyz : t.Owns y z) : z ≠ root := by
  rintro rfl
  exact h.not_owns_of_reaches (hs.reached y hy) hyz

/-- The original of an object of the tree with the copies. -/
def original (t : Tree) (order : List ObjectId) (x : ObjectId) : ObjectId :=
  if t.Has x then x else order.getD (x.index - t.size) x

omit h hroot hs in
theorem original_of_has (hx : t.Has x) : t.original order x = x := by
  rw [original, if_pos hx]

omit h hroot in
theorem original_of_copyOf (hc : t.CopyOf order y x) : t.original order x = y := by
  rw [original, if_neg (not_has_of_copyOf hs hc)]
  obtain ⟨i, hi, rfl⟩ := (copyId_eq_some hs.nodup).1 hc
  rw [Nat.add_sub_cancel_left, List.getD_eq_getElem?_getD, hi, Option.getD_some]

/-- The links of a copy go where those of the original do. -/
theorem parent?_original (hxy : (t.copied order root).parent? x = some y) :
    t.parent? (t.original order x) = some (t.original order y) := by
  rcases exists_of_has_copied h hroot hs (has_of_parent? hxy) with hx | ⟨x₀, hx⟩
  · rw [parent?_copied_of_has h hroot hs hx] at hxy
    rw [original_of_has hx, original_of_has (h.has_parent x y hxy), hxy]
  · rw [parent?_copied_of_copyOf h hroot hs hx] at hxy
    split at hxy
    · cases hxy
    · obtain ⟨y₀, hy₀, hy⟩ := Option.bind_eq_some_iff.1 hxy
      rw [original_of_copyOf hs hx, original_of_copyOf hs hy, hy₀]

theorem owns_original (hxy : (t.copied order root).Owns x y) :
    t.Owns (t.original order x) (t.original order y) := by
  rcases exists_of_has_copied h hroot hs (Tree.has_of_owns hxy) with hx | ⟨x₀, hx⟩
  · rw [Owns, owned_copied_of_has h hroot hs hx] at hxy
    rwa [original_of_has hx, original_of_has (h.has_of_owns (x := x) hxy), Owns]
  · obtain ⟨y₀, hy₀, hy⟩ := (owns_copied_of_copyOf h hroot hs hx).1 hxy
    rwa [original_of_copyOf hs hx, original_of_copyOf hs hy]

theorem target?_original (hxy : (t.copied order root).target? x = some y) :
    t.target? (t.original order x) = some (t.original order y) := by
  rcases exists_of_has_copied h hroot hs (has_of_target? hxy) with hx | ⟨x₀, hx⟩
  · rw [target?_copied_of_has h hroot hs hx] at hxy
    rw [original_of_has hx, original_of_has (h.has_of_target hxy), hxy]
  · rw [target?_copied_of_copyOf h hroot hs hx] at hxy
    rw [original_of_copyOf hs hx, original_of_has (h.has_of_target hxy), hxy]

theorem WellFormed.copied : (t.copied order root).WellFormed := by
  constructor
  · intro x y hxy
    rcases exists_of_has_copied h hroot hs (has_of_parent? hxy) with hx | ⟨x₀, hx⟩
    · rw [parent?_copied_of_has h hroot hs hx] at hxy
      exact has_copied_of_has h hroot hs (h.has_parent x y hxy)
    · rw [parent?_copied_of_copyOf h hroot hs hx] at hxy
      split at hxy
      · cases hxy
      · obtain ⟨y₀, -, hy⟩ := Option.bind_eq_some_iff.1 hxy
        exact has_copied_of_copyOf h hroot hs hy
  · intro x z hxz
    rcases exists_of_has_copied h hroot hs (Tree.has_of_owns hxz) with hx | ⟨y, hx⟩
    · have hz := h.parent_of_owns x z (by rwa [Owns, owned_copied_of_has h hroot hs hx] at hxz)
      rw [parent?_copied_of_has h hroot hs (has_of_parent? hz), hz]
    · obtain ⟨w, hyw, hz⟩ := (owns_copied_of_copyOf h hroot hs hx).1 hxz
      rw [parent?_copied_of_copyOf h hroot hs hz,
        if_neg (ne_root_of_owns h hroot hs (mem_of_copyOf hs hx) hyw), h.parent_of_owns y w hyw,
        Option.bind_some]
      exact hx
  · intro x
    by_cases hx' : (t.copied order root).Has x
    · rcases exists_of_has_copied h hroot hs hx' with hx | ⟨y, hx⟩
      · rw [owned_copied_of_has h hroot hs hx]
        exact h.nodup_owned x
      · rw [owned_copied_of_copyOf h hroot hs hx]
        refine (h.nodup_owned y).map_on fun w hw w' hw' heq => ?_
        have hy := mem_of_copyOf hs hx
        obtain ⟨c, hc⟩ := exists_copyOf hs (hs.closed y hy w hw)
        obtain ⟨c', hc'⟩ := exists_copyOf hs (hs.closed y hy w' hw')
        have hcc : c = c' := by
          rw [CopyOf] at hc hc'
          simpa [hc, hc'] using heq
        exact copyOf_inj hs hc (hcc ▸ hc')
    · rw [owned, object?, node?_of_not_has hx']
      exact List.nodup_nil
  · exact h.ancestors_end.of_map (t.original order) fun x y => parent?_original h hroot hs
  · intro x y hxy
    rcases exists_of_has_copied h hroot hs (has_of_target? hxy) with hx | ⟨x₀, hx⟩
    · rw [target?_copied_of_has h hroot hs hx] at hxy
      rw [sort?_copied_of_has h hroot hs hx,
        sort?_copied_of_has h hroot hs (h.has_of_target hxy)]
      exact h.sort_of_target x y hxy
    · rw [target?_copied_of_copyOf h hroot hs hx] at hxy
      rw [sort?_copied_of_copyOf h hroot hs hx,
        sort?_copied_of_has h hroot hs (h.has_of_target hxy)]
      exact h.sort_of_target x₀ y hxy
  · exact h.references_end.of_map (t.original order) fun x y => target?_original h hroot hs

theorem Complete.copied (hc : t.Complete) : (t.copied order root).Complete := by
  intro x z hxz
  rcases exists_of_has_copied h hroot hs (has_of_parent? hxz) with hz | ⟨w, hz⟩
  · rw [parent?_copied_of_has h hroot hs hz] at hxz
    have hx := h.has_parent z x hxz
    rw [Owns, owned_copied_of_has h hroot hs hx]
    exact hc x z hxz
  · rw [parent?_copied_of_copyOf h hroot hs hz] at hxz
    split at hxz
    · cases hxz
    · obtain ⟨y, hy, hx⟩ := Option.bind_eq_some_iff.1 hxz
      exact (owns_copied_of_copyOf h hroot hs hx).2 ⟨w, hc y w hy, hz⟩

end Copied

end Tree

end Schemata
