import Schemata.Proofs.Effects
import Schemata.Proofs.Shapes

/-!
# Copies go their own way

An object that has a parent is attached as a copy (`Tree.CopiesTo`): its subtree consists of new
objects only, which are what the originals are, at the same places, and refer to the same targets.
Everything else stays as it is, apart from the container and what that gives away.

From then on neither subtree is changed through the other one. A mutation that is applied to the one,
and does not write through a reference, leaves whatever only the other one owns (`Tree.Spares`), in
every later tree. As long as mutations keep to the one and attach nothing that the other one is in,
the two stay apart, and the other one stays as it is altogether (`KeptTo.node?_eq`).
-/

namespace Schemata

open Relation

namespace Operation

/-- The object that an operation is applied to, where it has one: to make a new object or to give a
parent to a root is to write to none that is there. -/
def subject? : Operation → Option ObjectId
  | .setSpan id _ => some id
  | .setAttributes owner _ | .setChildren owner _ | .addAttribute owner _ | .addChild owner _
  | .setValue owner _ | .setReference owner _ => some owner
  | _ => none

/-- An operation is applied to an object of a subtree and does not write through a reference. -/
structure KeepsTo (op : Operation) (t : Tree) (a : ObjectId) : Prop where
  applied : ∀ id, op.subject? = some id → ReflTransGen t.Owns a id
  direct : ∀ holder value, op = .setValue holder value → t.target? holder = none

end Operation

namespace Tree

variable {t t' t₁ u : Tree} {op : Operation} {a b c child container parent x y z : ObjectId}
  {r : Option ObjectId} {f : ObjectId → ObjectId}

/-- A subtree of a later tree is a copy of one of an earlier tree: the objects correspond to those of
the earlier one, are what they are and where they are, and are new. -/
structure CopiesTo (t t' : Tree) (child a : ObjectId) (f : ObjectId → ObjectId) : Prop where
  root : f child = a
  fresh : ∀ x, ReflTransGen t.Owns child x → ¬t.Has (f x)
  object : ∀ x, ReflTransGen t.Owns child x → t'.object? (f x) = (t.object? x).map (·.mapOwned f)
  span : ∀ x, ReflTransGen t.Owns child x → t'.span? (f x) = t.span? x

/-- What becomes of a tree when a child is attached to a container: `a` is what stands for the child,
and `old` is what the container gave away for it. -/
structure Attachment (t t' : Tree) (container child a : ObjectId) (old : Option ObjectId) : Prop where
  parent : t'.parent? a = some container
  moved : t.parent? child = none → a = child ∧ t'.size = t.size
  copied : t.parent? child ≠ none → (∃ f, t.CopiesTo t' child a f) ∧
    (∀ y, ReflTransGen t'.Owns a y → ¬t.Has y) ∧ t'.equal child a ∧
    ∀ x, ReflTransGen t.Owns child x → t'.node? x = t.node? x
  others : ∀ x, t.Has x → x ≠ a → x ≠ container → old ≠ some x → t'.node? x = t.node? x
  place : t'.parent? container = t.parent? container ∧ t'.span? container = t.span? container
  displaced : ∀ x, old = some x → t.Owns container x ∧ ¬t'.Owns container x ∧
    t'.object? x = t.object? x ∧ t'.span? x = t.span? x ∧ t'.parent? x = none

/-- Mutations that are applied to one subtree change no object that only another one owns. -/
def Spares (t : Tree) (a b : ObjectId) : Prop :=
  ∀ op : Operation, op.KeepsTo t a → ∀ x, TransGen t.Owns b x → ¬ReflTransGen t.Owns a x →
    (t.perform op).2.node? x = t.node? x

/-- Two subtrees have no object in common. -/
def Apart (t : Tree) (a b : ObjectId) : Prop :=
  ∀ x, ReflTransGen t.Owns a x → ¬ReflTransGen t.Owns b x

/-- Operations that are applied one after the other, all to one subtree; and none attaches an object
that another one is in. -/
inductive KeptTo (a b : ObjectId) : Tree → List Operation → Prop
  | nil {t : Tree} : KeptTo a b t []
  | cons {t : Tree} {op : Operation} {ops : List Operation} (hop : op.KeepsTo t a)
    (hchild : ∀ c, op.child? = some c → ¬ReflTransGen t.Owns c b)
    (rest : KeptTo a b (t.perform op).2 ops) : KeptTo a b t (op :: ops)

/-! ## Subtrees -/

theorem mem_ancestors_of_reaches (h : t.WellFormed) (hxy : ReflTransGen t.Owns x y) :
    x ∈ y :: t.ancestors y := by
  refine (trail_ancestors h y).mem_iff.2 (reflTransGen_swap.1 ?_)
  exact ReflTransGen.mono (fun _ _ howns => h.parent_of_owns _ _ howns) _ _ hxy

/-- Of two objects that an object is below, one is below the other one. -/
theorem reaches_total (h : t.WellFormed) (hx : ReflTransGen t.Owns a x)
    (hx' : ReflTransGen t.Owns b x) : ReflTransGen t.Owns a b ∨ ReflTransGen t.Owns b a := by
  have hunique : Relator.RightUnique (Function.swap t.Owns) := fun y z z' hz hz' =>
    Option.some.inj ((h.parent_of_owns z y hz).symm.trans (h.parent_of_owns z' y hz'))
  rcases (reflTransGen_swap.2 hx).total_of_right_unique hunique (reflTransGen_swap.2 hx') with hab | hba
  · exact Or.inr (reflTransGen_swap.1 hab)
  · exact Or.inl (reflTransGen_swap.1 hba)

theorem parent?_ne_none_of_reaches (h : t.WellFormed) (hx : ReflTransGen t.Owns a x) (hne : x ≠ a) :
    t.parent? x ≠ none := by
  rcases hx.cases_tail with rfl | ⟨y, -, hyx⟩
  · exact absurd rfl hne
  · rw [h.parent_of_owns y x hyx]
    exact Option.some_ne_none y

/-- A subtree whose objects are what they were is the same. -/
theorem reaches_congr (hsame : ∀ x, ReflTransGen t.Owns a x → t'.node? x = t.node? x) :
    ReflTransGen t'.Owns a x ↔ ReflTransGen t.Owns a x := by
  constructor
  · intro hx
    induction hx with
    | refl => exact .refl
    | tail _ hyz ih =>
      refine ih.tail ((owns_congr ?_).1 hyz)
      rw [object?, hsame _ ih, object?]
  · intro hx
    induction hx with
    | refl => exact .refl
    | tail hy hyz ih =>
      refine ih.tail ((owns_congr ?_).2 hyz)
      rw [object?, hsame _ hy, object?]

/-! ## Copies -/

/-- All of a copy corresponds to what the original owns. -/
theorem CopiesTo.exists_of_reaches (hc : t.CopiesTo t' child a f) (hy : ReflTransGen t'.Owns a y) :
    ∃ x, ReflTransGen t.Owns child x ∧ f x = y := by
  induction hy with
  | refl => exact ⟨child, .refl, hc.root⟩
  | tail _ hyz ih =>
    obtain ⟨x, hx, rfl⟩ := ih
    obtain ⟨p, hp⟩ := has_iff_object?.1 (has_of_owns hyz)
    have hobject := hc.object x hx
    rw [hp] at hobject
    obtain ⟨o, ho, rfl⟩ := Option.map_eq_some_iff.1 hobject.symm
    rw [owns_iff hp, Object.owned_mapOwned, List.mem_map] at hyz
    obtain ⟨z, hz, rfl⟩ := hyz
    exact ⟨z, hx.tail ((owns_iff ho).2 hz), rfl⟩

theorem CopiesTo.not_has (hc : t.CopiesTo t' child a f) (hy : ReflTransGen t'.Owns a y) :
    ¬t.Has y := by
  obtain ⟨x, hx, rfl⟩ := hc.exists_of_reaches hy
  exact hc.fresh x hx

theorem CopiesTo.congr (hc : t.CopiesTo t₁ child a f)
    (hobject : ∀ y, ¬t.Has y → t'.object? y = t₁.object? y)
    (hspan : ∀ y, t'.span? y = t₁.span? y) : t.CopiesTo t' child a f where
  root := hc.root
  fresh := hc.fresh
  object x hx := (hobject _ (hc.fresh x hx)).trans (hc.object x hx)
  span x hx := (hspan _).trans (hc.span x hx)

/-- If the original stays, the copy is alike. -/
theorem CopiesTo.alike (hc : t.CopiesTo t' child a f) (h' : t'.WellFormed) (hchild : t.Has child)
    (hsame : ∀ x, ReflTransGen t.Owns child x → t'.node? x = t.node? x) : t'.Alike t' child a := by
  have hchild' : t'.Has child := by
    rwa [has_iff_node?, hsame child .refl, ← has_iff_node?]
  refine hc.root ▸ alike_of_renumbered h' hchild' fun x hx => ?_
  have hx' := (reaches_congr hsame).1 hx
  rw [hc.object x hx', object?, object?, hsame x hx']

theorem Subtree.mem_of_reaches {order : List ObjectId} (hs : t.Subtree child order)
    (hx : ReflTransGen t.Owns child x) : x ∈ order := by
  induction hx with
  | refl => exact List.mem_of_mem_head? hs.first
  | tail _ hyz ih => exact hs.closed _ ih _ hyz

/-- What is attached for an object that has a parent is a copy. -/
theorem Attaches.exists_copiesTo (h : t.WellFormed) (ha : t.Attaches child parent a t')
    (hp : t.parent? child ≠ none) : ∃ f, t.CopiesTo t' child a f := by
  obtain ⟨t₁, hf, rfl⟩ := ha.result
  cases hf with
  | root hroot => exact absurd hroot hp
  | @copy order _ hs =>
    have hcopy : ∀ x, ReflTransGen t.Owns child x →
        t.CopyOf order x ((copyId order t.size x).getD x) := by
      intro x hx
      obtain ⟨c, hc⟩ := exists_copyOf hs (hs.mem_of_reaches hx)
      rw [CopyOf] at hc ⊢
      rw [hc, Option.getD_some]
    refine ⟨fun z => (copyId order t.size z).getD z, ?_, fun x hx => ?_, fun x hx => ?_,
      fun x hx => ?_⟩
    · exact Option.some.inj ((hcopy child .refl).symm.trans (copyOf_root hs))
    · exact not_has_of_copyOf hs (hcopy x hx)
    · rw [object?_withParent, object?_copied_of_copyOf h ha.has_child hs (hcopy x hx)]
    · rw [withParent, span?_modify _ (by exact fun _ => rfl), span?,
        node?_copied_of_copyOf h ha.has_child hs (hcopy x hx), Option.bind_map]
      rfl

/-- What an operation that attaches a child has done, apart from what it has written into the
container: the child, or a copy of it, got its parent, and what the container gave away lost it. -/
theorem Effect.attached (h : t.WellFormed) (he : t.Effect op r t')
    (hop : op.attaches? t = some (container, child)) : ∃ a t₁ old, r = some a ∧
      t.Attaches child container a t₁ ∧ (∀ y, y ≠ container → t'.object? y = t₁.object? y) ∧
      (∀ y, t'.span? y = t₁.span? y) ∧ t'.size = t₁.size ∧
      (∀ y, t'.parent? y = if old = some y then none else t₁.parent? y) ∧
      (∀ y, t.Owns container y ∧ ¬t'.Owns container y ↔ old = some y) ∧ old ≠ some child := by
  obtain ⟨hchild, hcontainer⟩ := Operation.attaches?_eq_some hop
  cases he with
  | keep hnone | create hnone | place hnone => cases hnone.symm.trans hop
  | attach hop' ha =>
    subst hop'
    cases hop
    refine ⟨_, _, none, rfl, ha, fun _ _ => rfl, fun _ => rfl, rfl, fun _ => rfl, fun y => ?_, nofun⟩
    rw [owns_congr (ha.object?_of_has h ha.has_parent)]
    simp
  | @exchange owner old _ o f t₁ hid hs ho hex hold =>
    obtain rfl : owner = container := by
      rcases hcontainer with rfl | hcontainer
      · cases hid
      · exact Option.some.inj (hid.symm.trans hcontainer)
    rw [hchild] at hs hold
    have ho₁ := hs.object?_eq h ho
    have hgone : ∀ y, t.Owns owner y ∧ ¬(t₁.exchanged owner old f).Owns owner y ↔ old = some y := by
      intro y
      rw [owns_exchanged ho₁ hex, if_pos rfl, owns_iff ho, owns_iff ho₁]
      have hnew := hs.not_mem_owned h ho (y := y)
      have hy := hold y
      tauto
    have hparent := fun y => parent?_exchanged (x := y) (f := f) ho₁ (fun y hy => (hold y hy).1)
      (hs.wellFormed h)
    cases hs with
    | attached ha =>
      exact ⟨_, t₁, old, rfl, ha, fun y hy => object?_exchanged_of_ne hy, fun _ => span?_exchanged,
        size_exchanged, hparent, hgone, fun hc => (hold child hc).2 rfl⟩

/-! ## Later mutations -/

/-- A holder that refers to nothing is the one that is written to. -/
theorem eq_of_effective {holder owner : ObjectId} (he : t.effective holder = .ok owner)
    (hd : t.target? holder = none) : owner = holder := by
  rw [effective, followReferences] at he
  simp only [List.contains_nil, Bool.false_eq_true, if_false] at he
  cases hs : t.slot holder with
  | error fault =>
    rw [hs] at he
    cases he
  | ok s =>
    obtain ⟨v, rfl⟩ := exists_direct hs hd
    rw [hs] at he
    exact (Except.ok.inj he).symm

theorem written?_of_keepsTo (hk : op.KeepsTo t a) (hw : op.written? t = some x) :
    ReflTransGen t.Owns a x := by
  cases op with
  | setSpan | setAttributes | setChildren | addAttribute | addChild | setReference =>
    exact hk.applied x hw
  | setValue holder value =>
    cases he : t.effective holder with
    | error fault =>
      rw [Operation.written?, he] at hw
      cases hw
    | ok owner =>
      rw [Operation.written?_setValue he] at hw
      obtain rfl := Option.some.inj hw
      obtain rfl := eq_of_effective he (hk.direct holder value rfl)
      exact hk.applied owner rfl
  | _ => cases hw

/-- An operation that keeps to one subtree leaves what is not in it, apart from a root that it
attaches. -/
theorem node?_perform_of_keepsTo (h : t.WellFormed) (hk : op.KeepsTo t a) (hx : t.Has x)
    (hnot : ¬ReflTransGen t.Owns a x) (hroot : op.child? = some x → t.parent? x ≠ none) :
    (t.perform op).2.node? x = t.node? x := by
  rcases perform_cases h op with heq | ⟨r, t', hrun, he⟩
  · rw [heq]
  · rw [hrun]
    refine he.node?_eq h hx (fun hw => hnot (written?_of_keepsTo hk hw)) (fun w hw hwx => ?_) hroot
    exact absurd ((written?_of_keepsTo hk hw).tail hwx) hnot

theorem spares (h : t.WellFormed) (a b : ObjectId) : t.Spares a b := by
  intro op hk x hx hnot
  obtain ⟨y, -, hyx⟩ := TransGen.tail'_iff.1 hx
  refine node?_perform_of_keepsTo h hk (h.has_of_owns hyx) hnot fun _ => ?_
  rw [h.parent_of_owns y x hyx]
  exact Option.some_ne_none y

section Step

variable (h : t.WellFormed) (hb : t.Has b) (hapart : t.Apart a b) (hk : op.KeepsTo t a)
  (hchild : ∀ c, op.child? = some c → ¬ReflTransGen t.Owns c b)

include h hb hapart hk hchild

theorem node?_perform_of_apart (hx : ReflTransGen t.Owns b x) :
    (t.perform op).2.node? x = t.node? x := by
  refine node?_perform_of_keepsTo h hk (has_of_reaches h hb hx) (fun hx' => hapart x hx' hx) ?_
  intro hc
  refine parent?_ne_none_of_reaches h hx ?_
  rintro rfl
  exact hchild x hc .refl

theorem apart_perform : (t.perform op).2.Apart a b := by
  have h' := wellFormed_perform h op
  have hsame := fun x => node?_perform_of_apart (x := x) h hb hapart hk hchild
  -- nothing comes to be above the other subtree, as what is attached is not above it
  have habove : ∀ y, ReflTransGen (t.perform op).2.Owns y b → ReflTransGen t.Owns y b := by
    intro y hy
    induction hy using ReflTransGen.head_induction_on with
    | refl => exact .refl
    | @head y z hyz _ ih =>
      have hz : t.Has z := by
        rcases ih.cases_head with rfl | ⟨w, hzw, -⟩
        · exact hb
        · exact has_of_owns hzw
      rcases owns_of_perform h hyz hz with howns | hc
      · exact .head howns ih
      · exact absurd ih (hchild z hc)
  intro x hax hbx
  rcases reaches_total h' hax hbx with hab | hba
  · exact hapart b (habove a hab) .refl
  · exact hapart a .refl ((reaches_congr hsame).1 hba)

end Step

/-- As long as mutations keep to one subtree and attach nothing that another one is in, that other
one stays as it is. -/
theorem KeptTo.node?_eq {ops : List Operation} (hkept : KeptTo a b t ops) (h : t.WellFormed)
    (hb : t.Has b) (hapart : t.Apart a b) (hx : ReflTransGen t.Owns b x) :
    (t.performAll ops).node? x = t.node? x := by
  induction hkept with
  | nil => rfl
  | @cons t op ops hk hchild _ ih =>
    have hsame := fun y => node?_perform_of_apart (x := y) h hb hapart hk hchild
    have hb' : (t.perform op).2.Has b := by
      rw [has_iff_node?, hsame b .refl, ← has_iff_node?]
      exact hb
    exact (ih (wellFormed_perform h op) hb' (apart_perform h hb hapart hk hchild)
      ((reaches_congr hsame).2 hx)).trans (hsame x hx)

/-! ## Objects that are attached -/

theorem Attaches.eq_child_of_root (ha : t.Attaches child parent a t') (hp : t.parent? child = none) :
    a = child ∧ t'.size = t.size := by
  obtain ⟨t₁, hf, rfl⟩ := ha.result
  cases hf with
  | root => exact ⟨rfl, size_modify ..⟩
  | copy hp' => exact absurd hp hp'

section Attached

variable (h : t.WellFormed) (he : t.Effect op r t')
  (hop : op.attaches? t = some (container, child))

include hop in
theorem eq_of_written? (hw : op.written? t = some x) : x = container := by
  obtain ⟨-, rfl | hcontainer⟩ := Operation.attaches?_eq_some hop
  · cases hw
  · exact Option.some.inj (hw.symm.trans hcontainer)

include h he hop

/-- The subtree of a child that is copied stays as it is. -/
theorem node?_of_reaches_child (hp : t.parent? child ≠ none) (hx : ReflTransGen t.Owns child x) :
    t'.node? x = t.node? x := by
  obtain ⟨a, t₁, old, -, ha, -, -, -, -, hgone, hkept⟩ := he.attached h hop
  have hne : ∀ y, ReflTransGen t.Owns child y → y ≠ container := by
    rintro y hy rfl
    exact ha.apart (mem_ancestors_of_reaches h hy)
  refine he.node?_eq h (has_of_reaches h ha.has_child hx)
    (fun hw => hne x hx (eq_of_written? hop hw)) (fun w hw hwx => ?_) fun hc => ?_
  · obtain rfl := eq_of_written? hop hw
    rcases hx.cases_tail with rfl | ⟨y, hy, hyx⟩
    · by_contra hnot
      exact hkept ((hgone _).1 ⟨hwx, hnot⟩)
    · -- the parent of the object is in the subtree, so it is not the container
      have hpar := (h.parent_of_owns y x hyx).symm.trans (h.parent_of_owns w x hwx)
      exact absurd (Option.some.inj hpar) (hne y hy)
  · obtain rfl := Option.some.inj ((Operation.attaches?_eq_some hop).1.symm.trans hc)
    exact hp

theorem exists_attachment (h' : t'.WellFormed) :
    ∃ a old, r = some a ∧ t.Attachment t' container child a old := by
  obtain ⟨a, t₁, old, rfl, ha, hobject, hspan, hsize, hparent, hgone, hkept⟩ := he.attached h hop
  have hnew : ∀ y, t.Has y → t.parent? y ≠ none → y ≠ a := by
    rintro y hy hp rfl
    obtain ⟨rfl, hroot⟩ := ha.eq_child_of_has hy
    exact hp hroot
  have hold : ∀ y, old = some y → t.Owns container y := fun y hy => ((hgone y).2 hy).1
  have hcontainer : container ≠ a := by
    rintro rfl
    obtain ⟨rfl, -⟩ := ha.eq_child_of_has ha.has_parent
    exact ha.apart List.mem_cons_self
  have hnode : t₁.node? container = t.node? container :=
    ha.node?_of_ne h ha.has_parent hcontainer
  refine ⟨a, old, rfl, ?_, fun hp => ?_, fun hp => ?_, fun x hx hxa hxc hxo => ?_, ⟨?_, ?_⟩,
    fun x hx => ?_⟩
  · rw [hparent, if_neg, ha.parent?_eq h]
    intro ha'
    have hp := h.parent_of_owns container a (hold a ha')
    exact hnew a (has_of_parent? hp) (by simp [hp]) rfl
  · exact (ha.eq_child_of_root hp).imp_right hsize.trans
  · obtain ⟨f, hf⟩ := ha.exists_copiesTo h hp
    have hf' := hf.congr (fun y hy => hobject y fun e => hy (e ▸ ha.has_parent)) hspan
    have hsame := fun x => node?_of_reaches_child (x := x) h he hop hp
    refine ⟨⟨f, hf'⟩, fun y => hf'.not_has, ?_, hsame⟩
    have halike := hf'.alike h' ha.has_child hsame
    exact (equal_iff h' (has_of_alike halike)).2 halike
  · refine he.node?_eq h hx (fun hw => hxc (eq_of_written? hop hw)) (fun w hw hwx => ?_) fun hc hp => ?_
    · obtain rfl := eq_of_written? hop hw
      by_contra hnot
      exact hxo ((hgone x).1 ⟨hwx, hnot⟩)
    · obtain rfl := Option.some.inj ((Operation.attaches?_eq_some hop).1.symm.trans hc)
      exact hxa (ha.eq_child_of_root hp).1.symm
  · have hself : old ≠ some container := fun hc =>
      h.not_owns_of_reaches .refl (hold container hc)
    rw [hparent, if_neg hself, parent?, hnode, parent?]
  · rw [hspan, span?, hnode, span?]
  · have hown := hold x hx
    have hp := h.parent_of_owns container x hown
    have hxa := hnew x (has_of_parent? hp) (by simp [hp])
    have hxc : x ≠ container := by
      rintro rfl
      exact h.not_owns_of_reaches .refl hown
    have hxnode := ha.node?_of_ne h (has_of_parent? hp) hxa
    refine ⟨hown, ((hgone x).2 hx).2, ?_, ?_, ?_⟩
    · rw [hobject x hxc, object?, hxnode, object?]
    · rw [hspan, span?, hxnode, span?]
    · rw [hparent, if_pos hx]

end Attached

/-- An operation on a tree that was built, which attaches a child to a container, moves a root and adds
nothing, or attaches a copy of an object that has a parent: all of the copy is new, it equals what it
is a copy of, and everything else stays, apart from the container and what that gives away.

After that, whatever happens, mutations applied to the child's subtree change no object that only the
copy owns, and the other way round; and if all that happens is applied to the one, and nothing is
attached that the other one is in, that one stays as it is. -/
theorem attachment_of_built {ops : List Operation} (ht : performAll {} ops = t)
    (hop : op.attaches? t = some (container, child)) (hrun : t.perform op = (.ok r, t')) :
    ∃ a old, r = some a ∧ t.Attachment t' container child a old ∧
      (t.parent? child ≠ none → ∀ later : List Operation,
        (t'.performAll later).Spares child a ∧ (t'.performAll later).Spares a child ∧
        (KeptTo child a t' later →
          ∀ x, ReflTransGen t'.Owns a x → (t'.performAll later).node? x = t'.node? x) ∧
        (KeptTo a child t' later →
          ∀ x, ReflTransGen t'.Owns child x → (t'.performAll later).node? x = t'.node? x)) := by
  have h := wellFormed_of_built ht
  have h' : t'.WellFormed := by
    have := wellFormed_perform h op
    rwa [hrun] at this
  obtain ⟨a, old, rfl, hattached⟩ := exists_attachment h ((attempts_effect h op).of_ok hrun) hop h'
  refine ⟨a, old, rfl, hattached, fun hp later => ?_⟩
  obtain ⟨-, hnew, -, hsame⟩ := hattached.copied hp
  have hlater := wellFormed_performAll later h'
  have hchild : t.Has child := by
    obtain ⟨p, hp⟩ := Option.ne_none_iff_exists'.1 hp
    exact has_of_parent? hp
  have hchild' : t'.Has child := by
    rwa [has_iff_node?, hsame child .refl, ← has_iff_node?]
  have hapart : t'.Apart child a := fun x hx hx' =>
    hnew x hx' (has_of_reaches h hchild ((reaches_congr hsame).1 hx))
  refine ⟨spares hlater child a, spares hlater a child, fun hkept x hx => ?_, fun hkept x hx => ?_⟩
  · exact hkept.node?_eq h' (has_of_parent? hattached.parent) hapart hx
  · exact hkept.node?_eq h' hchild' (fun x hx hx' => hapart x hx' hx) hx

/-- A twin that is attached once more is copied, equals its copy, and stays as it is when the copy
gives its value away. -/
theorem triplet_copied :
    (Operation.addChild ⟨3⟩ ⟨0⟩).attaches? (performAll {} twins) = some (⟨3⟩, ⟨0⟩) ∧
    ∃ t', (performAll {} twins).perform (.addChild ⟨3⟩ ⟨0⟩) = (.ok (some ⟨6⟩), t') ∧
      (performAll {} twins).parent? ⟨0⟩ ≠ none ∧ t'.equal ⟨0⟩ ⟨6⟩ ∧
      KeptTo ⟨6⟩ ⟨0⟩ t' [.setValue ⟨6⟩ none] ∧
      (t'.performAll [.setValue ⟨6⟩ none]).node? ⟨0⟩ = t'.node? ⟨0⟩ := by
  have hop : (Operation.addChild ⟨3⟩ ⟨0⟩).attaches? (performAll {} twins) = some (⟨3⟩, ⟨0⟩) := rfl
  have hrun : ((performAll {} twins).perform (.addChild ⟨3⟩ ⟨0⟩)).1 = .ok (some ⟨6⟩) := by
    decide +kernel
  have hp : (performAll {} twins).parent? ⟨0⟩ ≠ none := by decide +kernel
  have hdirect : ((performAll {} twins).perform (.addChild ⟨3⟩ ⟨0⟩)).2.target? ⟨6⟩ = none := by
    decide +kernel
  obtain ⟨a, old, ha, hattached, hlater⟩ :=
    attachment_of_built (Eq.refl (performAll {} twins)) hop (Prod.ext hrun rfl)
  obtain rfl := Option.some.inj ha
  obtain ⟨-, -, hequal, -⟩ := hattached.copied hp
  have hkept : KeptTo ⟨6⟩ ⟨0⟩ ((performAll {} twins).perform (.addChild ⟨3⟩ ⟨0⟩)).2
      [.setValue ⟨6⟩ none] := by
    refine .cons ⟨fun id hid => ?_, fun holder value heq => ?_⟩ nofun .nil
    · obtain rfl := Option.some.inj hid
      exact .refl
    · cases heq
      exact hdirect
  obtain ⟨-, -, -, hstays⟩ := hlater hp [.setValue ⟨6⟩ none]
  exact ⟨hop, _, Prod.ext hrun rfl, hp, hequal, hkept, hstays hkept _ .refl⟩

end Tree

end Schemata
