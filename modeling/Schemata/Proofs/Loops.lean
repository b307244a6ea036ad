import Mathlib.Data.Finset.Card
import Mathlib.Data.Finset.Range
import Schemata.Proofs.Operations

/-!
# Loops

An object leads to what it owns and to what it refers to (`Tree.Leads`). The operations that attach
objects look at the ancestors only, and the one that makes references looks at other references
only. So neither ownership nor references alone ever lead back to an object, and yet both together
may: an element can refer to one that it is below. A tree is without loops if and only if no
reference leads back to its holder (`loopless_iff`), and it stays without loops as long as every
link that is made leads forward (`Operation.LeadsForward`).

In a tree without loops an object leads to more others than whatever it leads to does (`rank_lt`),
so that everything that follows the links ends.
-/

namespace Schemata

open Relation

/-! ## Adding links -/

/-- One element may lead to more than before, as long as nothing of that leads back to it. -/
theorem not_transGen_of_added {α : Type} {r r' : α → α → Prop} {c : α} {new : α → Prop}
    (hadd : ∀ a b, r' a b → r a b ∨ a = c ∧ new b) (hr : ∀ a, ¬TransGen r a a)
    (hnew : ∀ b, new b → ¬ReflTransGen r b c) (a : α) : ¬TransGen r' a a := by
  -- a way to `c` need not take a new link, as it would be at `c` before
  have hto : ∀ b, ReflTransGen r' b c → ReflTransGen r b c := by
    intro b hb
    induction hb using ReflTransGen.head_induction_on with
    | refl => exact .refl
    | head hab _ ih =>
      rcases hadd _ _ hab with hab | ⟨rfl, -⟩
      · exact .head hab ih
      · exact .refl
  have hfrom : ∀ b, TransGen r' a b →
      TransGen r a b ∨ ReflTransGen r' a c ∧ ∃ d, new d ∧ ReflTransGen r' d b := by
    intro b hb
    induction hb with
    | single hab =>
      rcases hadd _ _ hab with hab | ⟨rfl, hb⟩
      · exact Or.inl (.single hab)
      · exact Or.inr ⟨.refl, _, hb, .refl⟩
    | tail hab hbd ih =>
      rcases ih with ih | ⟨hac, d, hd, hdb⟩
      · rcases hadd _ _ hbd with hbd | ⟨rfl, hd⟩
        · exact Or.inl (ih.tail hbd)
        · exact Or.inr ⟨hab.to_reflTransGen, _, hd, .refl⟩
      · exact Or.inr ⟨hac, d, hd, hdb.tail hbd⟩
  intro haa
  rcases hfrom a haa with haa | ⟨hac, d, hd, hda⟩
  · exact hr a haa
  · exact hnew d hd (hto d (hda.trans hac))

namespace Tree

variable {t t' t₁ : Tree} {child parent owner root a x y : ObjectId} {order : List ObjectId}
  {given old new : Option ObjectId} {o : Object} {f : Object → Object} {op : Operation}

/-! ## What an object leads to -/

/-- One object owns another one, or refers to it. -/
def Leads (t : Tree) (x y : ObjectId) : Prop := t.Owns x y ∨ t.target? x = some y

instance (t : Tree) (x y : ObjectId) : Decidable (t.Leads x y) :=
  inferInstanceAs (Decidable (_ ∨ _))

/-- No object leads back to itself. -/
def Loopless (t : Tree) : Prop := ∀ x, ¬TransGen t.Leads x x

theorem leads_congr (hobj : ∀ x, t'.object? x = t.object? x) : t'.Leads = t.Leads := by
  ext x y
  simp only [Leads, Owns, owned, target?, hobj]

theorem has_of_leads (hxy : t.Leads x y) : t.Has x :=
  hxy.elim has_of_owns has_of_target?

theorem WellFormed.has_of_leads (h : t.WellFormed) (hxy : t.Leads x y) : t.Has y :=
  hxy.elim h.has_of_owns h.has_of_target

/-- What an object leads to is among any objects that lead nowhere else. -/
theorem mem_of_reaches {s : List ObjectId}
    (hs : ∀ a ∈ s, ∀ b ∈ t.owned a ++ (t.target? a).toList, b ∈ s) (hx : x ∈ s)
    (hxy : ReflTransGen t.Leads x y) : y ∈ s := by
  induction hxy with
  | refl => exact hx
  | @tail a b _ hab ih =>
    refine hs a ih b (List.mem_append.2 (hab.imp_right fun hb => ?_))
    rw [hb]
    exact List.mem_singleton_self b

/-- In a loop, some object leads to the holder of a reference that leads back to the object. -/
theorem exists_reference_of_transGen (h : t.WellFormed) (hx : TransGen t.Leads x x) :
    ∃ y z, ReflTransGen t.Leads x y ∧ t.target? y = some z ∧ ReflTransGen t.Leads z x := by
  have hpath : ∀ w, TransGen t.Leads x w → TransGen t.Owns x w ∨
      ∃ y z, ReflTransGen t.Leads x y ∧ t.target? y = some z ∧ ReflTransGen t.Leads z w := by
    intro w hw
    induction hw with
    | single hxb =>
      rcases hxb with hxb | hxb
      · exact Or.inl (.single hxb)
      · exact Or.inr ⟨_, _, .refl, hxb, .refl⟩
    | tail hxb hbc ih =>
      rcases ih with ih | ⟨y, z, hxy, hyz, hzb⟩
      · rcases hbc with hbc | hbc
        · exact Or.inl (ih.tail hbc)
        · exact Or.inr ⟨_, _, hxb.to_reflTransGen, hbc, .refl⟩
      · exact Or.inr ⟨y, z, hxy, hyz, hzb.tail hbc⟩
  rcases hpath x hx with hown | hfound
  · obtain ⟨y, hxy, hyx⟩ := TransGen.head'_iff.1 hown
    exact absurd hxy (h.not_owns_of_reaches hyx)
  · exact hfound

/-- There are no loops if and only if no reference leads back to its holder. -/
theorem loopless_iff (h : t.WellFormed) :
    t.Loopless ↔ ∀ x y, t.target? x = some y → ¬ReflTransGen t.Leads y x := by
  constructor
  · intro hl x y hxy hyx
    exact hl x (.head' (Or.inr hxy) hyx)
  · intro hback x hx
    obtain ⟨y, z, hxy, hyz, hzx⟩ := exists_reference_of_transGen h hx
    exact hback y z hyz (hzx.trans hxy)

/-! ## Ranks -/

open Classical in
/-- The numbers of the objects that an object leads to, directly or not. -/
noncomputable def reached (t : Tree) (x : ObjectId) : Finset Nat :=
  (Finset.range t.size).filter fun i => TransGen t.Leads x ⟨i⟩

/-- How many objects an object leads to, directly or not. -/
noncomputable def rank (t : Tree) (x : ObjectId) : Nat := (t.reached x).card

theorem mem_reached (h : t.WellFormed) : y.index ∈ t.reached x ↔ TransGen t.Leads x y := by
  simp only [reached, Finset.mem_filter, Finset.mem_range]
  refine and_iff_right_of_imp fun hxy => ?_
  obtain ⟨z, -, hzy⟩ := TransGen.tail'_iff.1 hxy
  exact h.has_of_leads hzy

open Classical in
theorem reached_subset (t : Tree) (x : ObjectId) : t.reached x ⊆ Finset.range t.size :=
  Finset.filter_subset _ _

theorem rank_le_size (t : Tree) (x : ObjectId) : t.rank x ≤ t.size := by
  have hcard := Finset.card_le_card (t.reached_subset x)
  rwa [Finset.card_range] at hcard

namespace Loopless

variable (hl : t.Loopless) (h : t.WellFormed)

include hl h

/-- An object does not lead to itself, and so to fewer objects than there are. -/
theorem rank_lt_size (hx : t.Has x) : t.rank x < t.size := by
  have hss : t.reached x ⊂ Finset.range t.size := by
    refine Finset.ssubset_iff_subset_ne.2 ⟨t.reached_subset x, fun heq => hl x ?_⟩
    rw [← mem_reached h, heq, Finset.mem_range]
    exact hx
  have hcard := Finset.card_lt_card hss
  rwa [Finset.card_range] at hcard

/-- What an object leads to leads to less. -/
theorem rank_lt (hxy : TransGen t.Leads x y) : t.rank y < t.rank x := by
  have hmem : y.index ∈ t.reached x := (mem_reached h).2 hxy
  apply Finset.card_lt_card
  refine Finset.ssubset_iff_subset_ne.2 ⟨fun i hi => ?_, fun heq => hl y ?_⟩
  · have hyi : TransGen t.Leads y ⟨i⟩ := (mem_reached h).1 hi
    exact (mem_reached (y := ⟨i⟩) h).2 (hxy.trans hyi)
  · rwa [← mem_reached h, heq]

end Loopless

/-! ## Copies and attached objects -/

/-- The links of a root, or of a copy, are above links of the tree: the copy leads where the
original does. -/
theorem Frees.exists_original (h : t.WellFormed) (hchild : t.Has child)
    (hf : t.Frees child a t₁) : ∃ above : ObjectId → ObjectId,
      (∀ x y, t₁.Leads x y → t.Leads (above x) (above y)) ∧ (∀ x, t.Has x → above x = x) ∧
      above a = child := by
  cases hf with
  | root => exact ⟨id, fun _ _ => id, fun _ _ => rfl, rfl⟩
  | @copy order _ hs =>
    refine ⟨t.original order, fun x y hxy => ?_, fun x => original_of_has, ?_⟩
    · exact hxy.imp (owns_original h hchild hs) (target?_original h hchild hs)
    · exact original_of_copyOf hs (copyOf_root hs)

theorem Attaches.exists_original (h : t.WellFormed) (ha : t.Attaches child parent a t') :
    ∃ above : ObjectId → ObjectId,
      (∀ x y, t'.Leads x y → t.Leads (above x) (above y)) ∧ (∀ x, t.Has x → above x = x) ∧
      above a = child := by
  obtain ⟨t₁, hf, rfl⟩ := ha.result
  rw [leads_congr fun x => object?_withParent _]
  exact hf.exists_original h ha.has_child

theorem Supplies.exists_original (h : t.WellFormed) (hs : t.Supplies owner given new t₁) :
    ∃ above : ObjectId → ObjectId,
      (∀ x y, t₁.Leads x y → t.Leads (above x) (above y)) ∧ (∀ x, t.Has x → above x = x) ∧
      ∀ y, new = some y → given = some (above y) := by
  cases hs with
  | nothing => exact ⟨id, fun _ _ => id, fun _ _ => rfl, fun y hy => by cases hy⟩
  | attached ha =>
    obtain ⟨above, hleads, hfix, hchild⟩ := ha.exists_original h
    refine ⟨above, hleads, hfix, fun y hy => ?_⟩
    rw [← Option.some.inj hy, hchild]

theorem Supplies.has_owner (hs : t.Supplies owner given new t₁) (hnew : new = some y) :
    t.Has owner := by
  cases hs with
  | nothing => cases hnew
  | attached ha => exact ha.has_parent

/-! ## Steps -/

/-- In an exchange only the owner comes to lead to something else. -/
theorem leads_exchanged (ho : t.object? owner = some o) (hex : o.Exchanges old new (f o))
    (hxy : (t.exchanged owner old f).Leads x y) :
    t.Leads x y ∨ x = owner ∧ (new = some y ∨ (f o).target? = some y) := by
  rcases hxy with hxy | hxy
  · rw [owns_exchanged ho hex] at hxy
    split at hxy
    · rcases hxy with ⟨hxy, -⟩ | hy
      · exact Or.inl (Or.inl hxy)
      · exact Or.inr ⟨‹_›, Or.inl hy⟩
    · exact Or.inl (Or.inl hxy)
  · by_cases hx : x = owner
    · subst x
      rw [target?_eq (object?_exchanged_self ho)] at hxy
      exact Or.inr ⟨rfl, Or.inr hxy⟩
    · rw [target?_exchanged_of_ne hx] at hxy
      exact Or.inl (Or.inr hxy)

/-- A step that makes no link back to where it came from makes no loop. -/
theorem Step.loopless (h : t.WellFormed) (hl : t.Loopless)
    (hlink : ∀ x y, op.link? t = some (x, y) → ¬ReflTransGen t.Leads y x)
    (hstep : t.Step op t') : t'.Loopless := by
  cases hstep with
  | keep => exact hl
  | @create o howned htarget =>
    intro x hx
    refine hl x (TransGen.mono (fun a b hab => ?_) _ _ hx)
    rw [Leads, Owns, owned, target?, object?_push] at hab
    split at hab
    · simp [howned, htarget] at hab
    · exact hab
  | place =>
    intro x hx
    rw [leads_congr fun y => object?_withSpan _] at hx
    exact hl x hx
  | attach _ ha =>
    obtain ⟨above, hleads, -, -⟩ := ha.exists_original h
    exact fun x hx => hl _ (hx.lift above hleads)
  | @exchange owner given old new o f t₁ hs hgiven ho hex hold htarget =>
    obtain ⟨above, hleads, hfix, hnew⟩ := hs.exists_original h
    have hadd : ∀ x y, (t₁.exchanged owner old f).Leads x y → t₁.Leads x y ∨ x = owner ∧
        (new = some y ∨ (f o).target? = some y) := fun x y => leads_exchanged ho hex
    have hl₁ : t₁.Loopless := fun x hx => hl _ (hx.lift above hleads)
    refine not_transGen_of_added hadd hl₁ ?_
    rintro y (hy | hy) hback
    · have hback' : ReflTransGen t.Leads (above y) (above owner) := hback.lift above hleads
      rw [hfix owner (hs.has_owner hy)] at hback'
      exact hlink _ _ (hgiven _ (hnew y hy)) hback'
    · cases htarget.symm.trans hy
  | @refer holder target old o f hforward ho hex hold htarget =>
    have hadd : ∀ x y, (t.exchanged holder old f).Leads x y → t.Leads x y ∨ x = holder ∧
        (none = some y ∨ (f o).target? = some y) := fun x y => leads_exchanged ho hex
    refine not_transGen_of_added hadd hl ?_
    rintro y (hy | hy) hback
    · cases hy
    · obtain rfl := Option.some.inj (htarget.symm.trans hy)
      exact hlink _ _ hforward hback

end Tree

/-! ## Runs -/

/-- The link that an operation makes does not lead back. -/
def Operation.LeadsForward (t : Tree) (op : Operation) : Prop :=
  ∀ x y, op.link? t = some (x, y) → ¬ReflTransGen t.Leads y x

/-- Every operation that is accepted leads forward in the tree in which it is performed. -/
def Tree.LeadsForward : Tree → List Operation → Prop
  | _, [] => True
  | t, op :: ops =>
    (∀ result, (t.perform op).1 = .ok result → op.LeadsForward t) ∧
      (t.perform op).2.LeadsForward ops

namespace Tree

variable {t : Tree}

theorem loopless_empty : ({} : Tree).Loopless := by
  intro x hx
  obtain ⟨y, hxy, -⟩ := TransGen.head'_iff.1 hx
  exact Nat.not_lt_zero _ (has_of_leads hxy)

theorem loopless_perform (h : t.WellFormed) (hl : t.Loopless) {op : Operation}
    (hop : ∀ result, (t.perform op).1 = .ok result → op.LeadsForward t) :
    (t.perform op).2.Loopless := by
  rcases attempts_perform h op with ⟨fault, hrun⟩ | ⟨result, t', hrun, hstep⟩
  · rw [perform, hrun]
    exact hl
  · have hforward := hop result (by rw [perform, hrun])
    rw [perform, hrun]
    exact hstep.loopless h hl hforward

theorem loopless_performAll {ops : List Operation} (h : t.WellFormed) (hl : t.Loopless)
    (hops : t.LeadsForward ops) : (t.performAll ops).Loopless := by
  induction ops generalizing t with
  | nil => exact hl
  | cons op ops ih =>
    exact ih (wellFormed_perform h op) (loopless_perform h hl hops.1) hops.2

end Tree

end Schemata
