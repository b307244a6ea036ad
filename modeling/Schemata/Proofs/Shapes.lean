import Mathlib.Data.List.Forall2
import Schemata.Objects.Equality
import Schemata.Proofs.BuiltTrees
import Schemata.Proofs.Values

/-!
# Shapes of objects

Two objects are alike if they agree in sort, names, type and value, have the same parts, refer to the
same target, and what they own is alike in pairs (`Tree.Alike`). Nothing in this looks at the number
of an owned object, at a parent or at a place. The relation goes down from owner to owned, which
comes to an end, so that it is an equivalence by induction along it.

* The comparison of two objects decides whether they are alike, though it passes over pairs that are
  one object and keeps what is still to be compared in a list.
* Objects that are alike have the same fingerprint.

Both walk down from a root and meet no object twice (`Tree.Met`), so that their fuel is enough.
-/

namespace Schemata

open Relation

/-- Both slots hold an object, or both hold null, or they refer to one target. -/
inductive Slot.Resembles : Slot → Slot → Prop
  | direct {v w : Option ObjectId} (h : v.isSome = w.isSome) : Slot.Resembles (.direct v) (.direct w)
  | reference (target : ObjectId) : Slot.Resembles (.reference target) (.reference target)

/-- Two objects are the same apart from what they own. -/
inductive Object.Resembles : Object → Object → Prop
  | simple (typeName : Option FullName) {v w : SimpleValue} (h : v.equal w) :
    Object.Resembles (.simple typeName v) (.simple typeName w)
  | complex (typeName : Option FullName) {a b c d : Option ObjectId}
    (hattributes : a.isSome = b.isSome) (hchildren : c.isSome = d.isSome) :
    Object.Resembles (.complex typeName a c) (.complex typeName b d)
  | attr (name : String) {s r : Slot} (h : s.Resembles r) :
    Object.Resembles (.attr name s) (.attr name r)
  | element (name : FullName) {s r : Slot} (h : s.Resembles r) :
    Object.Resembles (.element name s) (.element name r)
  | attributeSet (as bs : List ObjectId) : Object.Resembles (.attributeSet as) (.attributeSet bs)
  | childSet (memberName : Option String) (as bs : List ObjectId) :
    Object.Resembles (.childSet memberName as) (.childSet memberName bs)
  | childList (memberName : Option String) (as bs : List ObjectId) :
    Object.Resembles (.childList memberName as) (.childList memberName bs)

/-- Two objects, each of its tree, and all that they own have the same shape. -/
inductive Tree.Alike (t u : Tree) : ObjectId → ObjectId → Prop
  | intro {x y : ObjectId} {o p : Object} (ho : t.object? x = some o) (hp : u.object? y = some p)
    (hself : o.Resembles p) (howned : List.Forall₂ (Tree.Alike t u) o.owned p.owned) :
    Tree.Alike t u x y

/-! ## Objects apart from what they own -/

theorem length_toList_eq {v w : Option ObjectId} (h : v.isSome = w.isSome) :
    v.toList.length = w.toList.length := by
  cases v <;> cases w <;> simp_all

namespace Slot.Resembles

variable {s r q : Slot}

theorem symm (h : s.Resembles r) : r.Resembles s := by
  cases h with
  | direct h => exact .direct h.symm
  | reference target => exact .reference target

theorem trans (h : s.Resembles r) (h' : r.Resembles q) : s.Resembles q := by
  cases h with
  | direct h =>
    cases h' with
    | direct h' => exact .direct (h.trans h')
  | reference target => exact h'

/-- As many objects are in the one slot as in the other one. -/
theorem length_eq (h : s.Resembles r) : s.value?.toList.length = r.value?.toList.length := by
  cases h with
  | direct h => exact length_toList_eq h
  | reference target => rfl

end Slot.Resembles

namespace Object

theorem slotPairs_eq_some_iff {s r : Slot} {l : List (ObjectId × ObjectId)} :
    slotPairs s r = some l ↔
      s.Resembles r ∧ l = s.value?.toList.zip r.value?.toList := by
  constructor
  · intro h
    unfold slotPairs at h
    split at h
    · cases h
      exact ⟨.direct rfl, rfl⟩
    · cases h
      exact ⟨.direct rfl, rfl⟩
    · split at h
      · subst_vars
        cases h
        exact ⟨.reference _, rfl⟩
      · cases h
    · cases h
  · rintro ⟨h, rfl⟩
    cases h with
    | @direct v w h => cases v <;> cases w <;> first | rfl | cases h
    | reference target => simp [slotPairs, Slot.value?]

theorem owned_attr (name : String) (s : Slot) : (attr name s).owned = s.value?.toList := by
  cases s <;> rfl

theorem owned_element (name : FullName) (s : Slot) : (element name s).owned = s.value?.toList := by
  cases s <;> rfl

namespace Resembles

variable {o p q : Object}

theorem symm (h : o.Resembles p) : p.Resembles o := by
  cases h with
  | simple n h => exact .simple n (SimpleValue.equal_symm h)
  | complex n ha hc => exact .complex n ha.symm hc.symm
  | attr n h => exact .attr n h.symm
  | element n h => exact .element n h.symm
  | attributeSet as bs => exact .attributeSet bs as
  | childSet n as bs => exact .childSet n bs as
  | childList n as bs => exact .childList n bs as

theorem trans (h : o.Resembles p) (h' : p.Resembles q) : o.Resembles q := by
  cases h with
  | simple n h => cases h' with | simple _ h' => exact .simple n (SimpleValue.equal_trans h h')
  | complex n ha hc =>
    cases h' with | complex _ ha' hc' => exact .complex n (ha.trans ha') (hc.trans hc')
  | attr n h => cases h' with | attr _ h' => exact .attr n (h.trans h')
  | element n h => cases h' with | element _ h' => exact .element n (h.trans h')
  | attributeSet as bs => cases h' with | attributeSet _ cs => exact .attributeSet as cs
  | childSet n as bs => cases h' with | childSet _ _ cs => exact .childSet n as cs
  | childList n as bs => cases h' with | childList _ _ cs => exact .childList n as cs

/-- An object that owns others instead is the same apart from them. -/
theorem mapOwned (f : ObjectId → ObjectId) (o : Object) : o.Resembles (o.mapOwned f) := by
  cases o with
  | simple n v => exact .simple n v.equal_refl
  | complex n a c => exact .complex n Option.isSome_map.symm Option.isSome_map.symm
  | attr n s =>
    cases s with
    | direct v => exact .attr n (.direct Option.isSome_map.symm)
    | reference target => exact .attr n (.reference target)
  | element n s =>
    cases s with
    | direct v => exact .element n (.direct Option.isSome_map.symm)
    | reference target => exact .element n (.reference target)
  | attributeSet items => exact .attributeSet items _
  | childSet n items => exact .childSet n items _
  | childList n items => exact .childList n items _

theorem data_eq (h : o.Resembles p) : o.data = p.data := by
  cases h with
  | simple n h => rw [data, data, SimpleValue.fingerprint_eq_of_equal h]
  | attr n h => cases h <;> rfl
  | element n h => cases h <;> rfl
  | _ => rfl

end Resembles

theorem itemPairs_eq_some_iff {as bs : List ObjectId} {l : List (ObjectId × ObjectId)} :
    itemPairs as bs = some l ↔ as.length = bs.length ∧ l = as.zip bs := by
  simp [itemPairs, eq_comm (a := l)]

/-- The objects to compare next are those that are owned, in pairs. -/
theorem pairs_eq_some_iff {o p : Object} {l : List (ObjectId × ObjectId)} :
    o.pairs p = some l ↔
      o.Resembles p ∧ o.owned.length = p.owned.length ∧ l = o.owned.zip p.owned := by
  constructor
  · intro h
    unfold pairs at h
    split at h
    case h_1 n v m w =>
      obtain ⟨hcond, hl⟩ := Option.ite_none_right_eq_some.1 h
      obtain ⟨rfl, hvalue⟩ : n = m ∧ v.equal w := by simpa using hcond
      exact ⟨.simple n hvalue, rfl, (Option.some.inj hl).symm⟩
    case h_2 n a c m b d =>
      obtain ⟨hcond, hl⟩ := Option.ite_none_right_eq_some.1 h
      obtain ⟨⟨rfl, ha⟩, hc⟩ : (n = m ∧ a.isSome = b.isSome) ∧ c.isSome = d.isSome := by
        simpa using hcond
      refine ⟨.complex n ha hc, ?_, ?_⟩
      · simp only [owned, List.length_append, length_toList_eq ha, length_toList_eq hc]
      · rw [owned, owned, List.zip_append (length_toList_eq ha)]
        exact (Option.some.inj hl).symm
    case h_3 n s m r =>
      obtain ⟨rfl, hpairs⟩ := Option.ite_none_right_eq_some.1 h
      obtain ⟨hs, hl⟩ := slotPairs_eq_some_iff.1 hpairs
      rw [owned_attr, owned_attr]
      exact ⟨.attr n hs, hs.length_eq, hl⟩
    case h_4 n s m r =>
      obtain ⟨rfl, hpairs⟩ := Option.ite_none_right_eq_some.1 h
      obtain ⟨hs, hl⟩ := slotPairs_eq_some_iff.1 hpairs
      rw [owned_element, owned_element]
      exact ⟨.element n hs, hs.length_eq, hl⟩
    case h_5 as bs => exact ⟨.attributeSet as bs, itemPairs_eq_some_iff.1 h⟩
    case h_6 n as m bs =>
      obtain ⟨rfl, hpairs⟩ := Option.ite_none_right_eq_some.1 h
      exact ⟨.childSet n as bs, itemPairs_eq_some_iff.1 hpairs⟩
    case h_7 n as m bs =>
      obtain ⟨rfl, hpairs⟩ := Option.ite_none_right_eq_some.1 h
      exact ⟨.childList n as bs, itemPairs_eq_some_iff.1 hpairs⟩
    case h_8 => cases h
  · rintro ⟨h, hlen, rfl⟩
    cases h with
    | simple n h => simp [pairs, h, owned]
    | @complex n a b c d ha hc =>
      rw [pairs, if_pos (by simp [ha, hc]), owned, owned, List.zip_append (length_toList_eq ha)]
    | attr n h =>
      rw [pairs, if_pos rfl, slotPairs_eq_some_iff, owned_attr, owned_attr]
      exact ⟨h, rfl⟩
    | element n h =>
      rw [pairs, if_pos rfl, slotPairs_eq_some_iff, owned_element, owned_element]
      exact ⟨h, rfl⟩
    | attributeSet as bs => exact itemPairs_eq_some_iff.2 ⟨hlen, rfl⟩
    | childSet n as bs =>
      rw [pairs, if_pos rfl]
      exact itemPairs_eq_some_iff.2 ⟨hlen, rfl⟩
    | childList n as bs =>
      rw [pairs, if_pos rfl]
      exact itemPairs_eq_some_iff.2 ⟨hlen, rfl⟩

end Object

namespace Tree

variable {t u w : Tree} {a b c x y : ObjectId} {o p : Object}

/-! ## Downwards -/

theorem length_ancestors_le (h : t.WellFormed) (x : ObjectId) :
    (t.ancestors x).length ≤ t.size := by
  have htrail := trail_ancestors h x
  refine length_le_size (List.nodup_cons.1 htrail.nodup).2 fun y hy => ?_
  obtain ⟨z, hz⟩ := htrail.exists_of_mem_tail hy
  exact h.has_parent z y hz

theorem ancestors_of_owns (h : t.WellFormed) (hxy : t.Owns x y) :
    t.ancestors y = x :: t.ancestors x :=
  (List.cons.inj ((trail_ancestors h y).unique
    (.step (h.parent_of_owns x y hxy) (trail_ancestors h x)))).2

/-- What holds of an object as soon as it holds of all that it owns holds of every object. -/
theorem WellFormed.owns_induction (h : t.WellFormed) {P : ObjectId → Prop}
    (step : ∀ x, (∀ y, t.Owns x y → P y) → P x) (x : ObjectId) : P x := by
  induction hn : t.size - (t.ancestors x).length using Nat.strong_induction_on generalizing x with
  | _ n ih =>
    refine step x fun y hxy => ih _ ?_ y rfl
    have hle := length_ancestors_le h y
    rw [ancestors_of_owns h hxy, List.length_cons] at hle ⊢
    omega

/-! ## An equivalence -/

theorem has_of_alike (h : t.Alike u a b) : t.Has a := by
  obtain ⟨ho, -, -, -⟩ := h
  exact has_of_object? ho

theorem alike_iff (ho : t.object? x = some o) (hp : u.object? y = some p) :
    t.Alike u x y ↔ o.Resembles p ∧ List.Forall₂ (t.Alike u) o.owned p.owned := by
  constructor
  · rintro ⟨ho', hp', hself, howned⟩
    obtain rfl := Option.some.inj (ho.symm.trans ho')
    obtain rfl := Option.some.inj (hp.symm.trans hp')
    exact ⟨hself, howned⟩
  · rintro ⟨hself, howned⟩
    exact .intro ho hp hself howned

theorem Alike.symm (h : t.WellFormed) (hab : t.Alike u a b) : u.Alike t b a := by
  induction a using h.owns_induction generalizing b with
  | _ x ih =>
    obtain ⟨ho, hp, hself, howned⟩ := hab
    refine .intro hp ho hself.symm (List.Forall₂.flip ?_)
    -- the induction is for what the object owns, so that has to be kept at each pair
    refine ((List.forall₂_and_left _ _).2 ⟨fun y hy => (owns_iff ho).2 hy, howned⟩).imp ?_
    exact fun y z hyz => ih y hyz.1 hyz.2

theorem forall₂_comp {R S T : ObjectId → ObjectId → Prop} {l m n : List ObjectId}
    (h : List.Forall₂ R l m) (h' : List.Forall₂ S m n)
    (hcomp : ∀ x ∈ l, ∀ y z, R x y → S y z → T x z) : List.Forall₂ T l n := by
  induction h generalizing n with
  | nil =>
    cases h'
    exact .nil
  | cons hxy _ ih =>
    cases h' with
    | cons hyz h' =>
      exact .cons (hcomp _ List.mem_cons_self _ _ hxy hyz)
        (ih h' fun x hx => hcomp x (List.mem_cons_of_mem _ hx))

theorem Alike.trans (h : t.WellFormed) (hab : t.Alike u a b) (hbc : u.Alike w b c) :
    t.Alike w a c := by
  induction a using h.owns_induction generalizing b c with
  | _ x ih =>
    obtain ⟨ho, hp, hself, howned⟩ := hab
    obtain ⟨hp', hq, hself', howned'⟩ := hbc
    obtain rfl := Option.some.inj (hp.symm.trans hp')
    refine .intro ho hq (hself.trans hself') (forall₂_comp howned howned' ?_)
    exact fun y hy _ _ hyz hzw => ih y ((owns_iff ho).2 hy) hyz hzw

/-- An object of another tree, which stands for an object with all that it owns under other numbers,
is alike. -/
theorem alike_of_renumbered (h : t.WellFormed) (ha : t.Has a) {f : ObjectId → ObjectId}
    (hf : ∀ x, ReflTransGen t.Owns a x → u.object? (f x) = (t.object? x).map (·.mapOwned f)) :
    t.Alike u a (f a) := by
  induction a using h.owns_induction with
  | _ x ih =>
    obtain ⟨o, ho⟩ := has_iff_object?.1 ha
    have hp := hf x .refl
    rw [ho, Option.map_some] at hp
    refine .intro ho hp (.mapOwned f o) ?_
    rw [Object.owned_mapOwned, List.forall₂_map_right_iff, List.forall₂_same]
    intro y hy
    have hxy := (owns_iff ho).2 hy
    exact ih y hxy (h.has_of_owns hxy) fun z hz => hf z (.head hxy hz)

theorem alike_refl (h : t.WellFormed) (ha : t.Has a) : t.Alike t a a := by
  refine alike_of_renumbered (f := id) h ha fun x _ => ?_
  obtain hx | ⟨o, hx⟩ := (t.object? x).eq_none_or_eq_some
  · rw [id, hx, Option.map_none]
  · rw [id, hx, Option.map_some, Object.mapOwned_id]

/-! ## The comparison -/

variable {root root' : ObjectId} {seen seen' : List ObjectId} {same : ObjectId × ObjectId → Bool}
  {ps : List (ObjectId × ObjectId)}

theorem alike_iff_pairs (ho : t.object? x = some o) (hp : u.object? y = some p) :
    t.Alike u x y ↔ ∃ l, o.pairs p = some l ∧ ∀ q ∈ l, t.Alike u q.1 q.2 := by
  rw [alike_iff ho hp, List.forall₂_iff_zip]
  constructor
  · rintro ⟨hself, hlen, hall⟩
    exact ⟨_, Object.pairs_eq_some_iff.2 ⟨hself, hlen, rfl⟩, fun q hq => hall hq⟩
  · rintro ⟨l, hl, hall⟩
    obtain ⟨hself, hlen, rfl⟩ := Object.pairs_eq_some_iff.1 hl
    exact ⟨hself, hlen, fun hq => hall _ hq⟩

theorem map_fst_of_pairs {l : List (ObjectId × ObjectId)} (h : o.pairs p = some l) :
    l.map Prod.fst = o.owned := by
  obtain ⟨-, hlen, rfl⟩ := Object.pairs_eq_some_iff.1 h
  exact List.map_fst_zip hlen.le

/-- With fuel for all objects that are not seen yet, what is compared is what is alike. -/
theorem equalPairs_iff (h : t.WellFormed) (hroot : t.Has root)
    (hsame : ∀ a b, t.Has a → same (a, b) → t.Alike u a b) {fuel : Nat}
    (hm : t.Met root seen (ps.map Prod.fst)) (hfuel : t.size ≤ seen.length + fuel) :
    t.equalPairs u same fuel ps ↔ ∀ q ∈ ps, t.Alike u q.1 q.2 := by
  induction fuel generalizing seen ps with
  | zero =>
    have hle := hm.length_le h hroot
    obtain rfl : ps = [] := by
      rw [List.length_map] at hle
      exact List.eq_nil_of_length_eq_zero (by omega)
    simp [equalPairs]
  | succ fuel ih =>
    obtain _ | ⟨⟨x, y⟩, rest⟩ := ps
    · simp [equalPairs]
    have hx : t.Has x := has_of_reaches h hroot (hm.reached x (by simp))
    rw [equalPairs, List.forall_mem_cons]
    split
    · rename_i hxy
      rw [ih hm.skip (by rw [List.length_cons]; omega), iff_and_self]
      exact fun _ => hsame x y hx hxy
    · obtain ⟨m, hxm⟩ := has_iff_node?.1 hx
      have hx' := object?_eq hxm
      cases hyn : u.node? y with
      | none =>
        have hnot : ¬t.Alike u x y := by
          rintro ⟨-, hp, -, -⟩
          exact absurd (has_iff_node?.1 (has_of_object? hp)) (by simp [hyn])
        simp [hxm, hnot]
      | some n =>
        rw [alike_iff_pairs hx' (object?_eq hyn)]
        cases hpairs : m.object.pairs n.object with
        | none => simp [hxm, hpairs]
        | some found =>
          have hstep : t.Met root (x :: seen) ((found ++ rest).map Prod.fst) := by
            rw [List.map_append, map_fst_of_pairs hpairs, ← owned_eq hx']
            exact hm.step h
          simp only [hxm, hpairs, Option.some.injEq, exists_eq_left']
          rw [ih hstep (by rw [List.length_cons]; omega), List.forall_mem_append]

theorem equalIn_iff (h : t.WellFormed) (ha : t.Has a) : t.equalIn u a b ↔ t.Alike u a b := by
  rw [equalIn, equalPairs_iff h ha (fun _ _ _ hsame => by cases hsame) (.start t a) (by simp),
    List.forall_mem_singleton]

theorem equal_iff (h : t.WellFormed) (ha : t.Has a) : t.equal a b ↔ t.Alike t a b := by
  rw [equal, equalPairs_iff h ha (fun x y hx hxy => ?_) (.start t a) (by simp),
    List.forall_mem_singleton]
  exact beq_iff_eq.1 hxy ▸ alike_refl h hx

/-! ## Fingerprints -/

theorem fingerprints_nil (fuel : Nat) : t.fingerprints fuel [] = [] := by
  cases fuel <;> rfl

/-- Lists of objects that are alike in pairs have the same fingerprints, each with fuel for all
objects of its tree that are not seen yet. -/
theorem fingerprints_eq (h : t.WellFormed) (hu : u.WellFormed) (hroot : t.Has root)
    (hroot' : u.Has root') {fuel fuel' : Nat} {as bs : List ObjectId}
    (hab : List.Forall₂ (t.Alike u) as bs) (hm : t.Met root seen as) (hm' : u.Met root' seen' bs)
    (hfuel : t.size ≤ seen.length + fuel) (hfuel' : u.size ≤ seen'.length + fuel') :
    t.fingerprints fuel as = u.fingerprints fuel' bs := by
  have hlen := hm.length_le h hroot
  have hlen' := hm'.length_le hu hroot'
  induction fuel generalizing fuel' seen seen' as bs with
  | zero =>
    obtain rfl : as = [] := List.eq_nil_of_length_eq_zero (by omega)
    cases hab
    rw [fingerprints_nil, fingerprints_nil]
  | succ fuel ih =>
    cases hab with
    | nil => rw [fingerprints_nil, fingerprints_nil]
    | @cons x y as bs hxy hrest =>
      obtain ⟨fuel', rfl⟩ : ∃ n, fuel' = n + 1 :=
        ⟨fuel' - 1, by rw [List.length_cons] at hlen'; omega⟩
      obtain ⟨ho, hp, hself, howned⟩ := hxy
      obtain ⟨m, hxm, rfl⟩ := Option.map_eq_some_iff.1 ho
      obtain ⟨n, hyn, rfl⟩ := Option.map_eq_some_iff.1 hp
      have hstep : t.Met root (x :: seen) (m.object.owned ++ as) := owned_eq ho ▸ hm.step h
      have hstep' : u.Met root' (y :: seen') (n.object.owned ++ bs) := owned_eq hp ▸ hm'.step hu
      have hrel : List.Forall₂ (t.Alike u) (m.object.owned ++ as) (n.object.owned ++ bs) :=
        List.rel_append howned hrest
      have hfuel : t.size ≤ (x :: seen).length + fuel := by rw [List.length_cons]; omega
      have hfuel' : u.size ≤ (y :: seen').length + fuel' := by rw [List.length_cons]; omega
      simp only [fingerprints, hxm, hyn, hself.data_eq, howned.length_eq]
      rw [ih hrel hstep hstep' hfuel hfuel' (hstep.length_le h hroot) (hstep'.length_le hu hroot')]

theorem Alike.fingerprint_eq (h : t.WellFormed) (hu : u.WellFormed) (hab : t.Alike u a b) :
    t.fingerprint a = u.fingerprint b :=
  fingerprints_eq h hu (has_of_alike hab) (has_of_alike (hab.symm h)) (.cons hab .nil)
    (.start t a) (.start u b) (by simp) (by simp)

/-! ## Trees that are built -/

/-- Of objects of trees that are built by operations, the comparison, across trees or within one,
decides whether they have the same shape. That is an equivalence, which holds between an object and
whatever stands for it and all that it owns under other numbers; and it implies the same fingerprint.
-/
theorem equality_of_built {ops ops' : List Operation} (ht : performAll {} ops = t)
    (hu : performAll {} ops' = u) (ha : t.Has a) :
    (∀ b, t.equalIn u a b ↔ t.Alike u a b) ∧
    (∀ b, t.equal a b ↔ t.Alike t a b) ∧
    t.Alike t a a ∧
    (∀ b, t.Alike u a b → u.Alike t b a) ∧
    (∀ w b c, t.Alike u a b → u.Alike w b c → t.Alike w a c) ∧
    (∀ f : ObjectId → ObjectId, (∀ x, ReflTransGen t.Owns a x →
      u.object? (f x) = (t.object? x).map (·.mapOwned f)) → t.Alike u a (f a)) ∧
    (∀ b, t.Alike u a b → t.fingerprint a = u.fingerprint b) := by
  have h := wellFormed_of_built ht
  refine ⟨fun b => equalIn_iff h ha, fun b => equal_iff h ha, alike_refl h ha, fun b => Alike.symm h,
    fun w b c => Alike.trans h, fun f => alike_of_renumbered h ha, fun b => ?_⟩
  exact Alike.fingerprint_eq h (wellFormed_of_built hu)

/-- The sets that hold the twins are alike, though all that they own has other numbers, and so are
the twins themselves; a twin and its value are not. -/
theorem twins_alike : (performAll {} twins).Has ⟨2⟩ ∧ (performAll {} twins).Has ⟨0⟩ ∧
    (performAll {} twins).Alike (performAll {} twins) ⟨2⟩ ⟨3⟩ ∧
    (performAll {} twins).Alike (performAll {} twins) ⟨4⟩ ⟨0⟩ ∧
    ¬(performAll {} twins).Alike (performAll {} twins) ⟨0⟩ ⟨1⟩ ∧
    (performAll {} twins).fingerprint ⟨2⟩ = (performAll {} twins).fingerprint ⟨3⟩ := by
  have hset : (performAll {} twins).Has ⟨2⟩ := by decide +kernel
  have htwin : (performAll {} twins).Has ⟨0⟩ := by decide +kernel
  obtain ⟨-, hequal, -, -, -, -, hprint⟩ :=
    equality_of_built (Eq.refl (performAll {} twins)) (Eq.refl (performAll {} twins)) hset
  obtain ⟨hacross, hwithin, -, hsymm, -, -, -⟩ :=
    equality_of_built (Eq.refl (performAll {} twins)) (Eq.refl (performAll {} twins)) htwin
  have hsets := (hequal ⟨3⟩).1 (by decide +kernel)
  have htwins := (hacross ⟨4⟩).1 (by decide +kernel)
  have hvalue : ¬(performAll {} twins).equal ⟨0⟩ ⟨1⟩ := by decide +kernel
  exact ⟨hset, htwin, hsets, hsymm _ htwins, fun h => hvalue ((hwithin _).2 h), hprint _ hsets⟩

end Tree

end Schemata
