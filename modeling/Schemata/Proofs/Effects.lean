import Schemata.Proofs.Operations

/-!
# What operations change

An operation writes to one object at most (`Operation.written?`), and attaches one at most
(`Operation.child?`). `Tree.Effect` says what it comes to: a new object, another place, a child that
is attached, or an object that takes what was attached to it in place of what it owned.

So a tree after an operation differs from the one before in few objects (`Effect.node?_eq`): the one
that is written to, what that gives away, and a root that is attached. Nobody owns more of the objects
that there were than before, apart from the one that is attached (`Effect.owns`).
-/

namespace Schemata

namespace Operation

/-- The object that an operation writes to. One that makes a new object or only gives a parent writes
to none of those that there are. -/
def written? (t : Tree) : Operation → Option ObjectId
  | .setSpan id _ => some id
  | .setAttributes owner _ | .setChildren owner _ | .addAttribute owner _ | .addChild owner _
  | .setReference owner _ => some owner
  | .setValue holder _ => (t.effective holder).toOption
  | _ => none

/-- The object that an operation is to attach. -/
def child? : Operation → Option ObjectId
  | .setParent child _ | .setAttributes _ child | .setChildren _ child | .addAttribute _ child
  | .addChild _ child => some child
  | .setValue _ value => value
  | _ => none

/-- The container and the child that an operation attaches to it. What an owner holds already is not
attached to it again, but sets and lists take another copy. -/
def attaches? (t : Tree) : Operation → Option (ObjectId × ObjectId)
  | .setParent child parent => some (parent, child)
  | .addAttribute container child | .addChild container child => some (container, child)
  | op =>
    match op.written? t, op.child? with
    | some owner, some child => if t.Owns owner child then none else some (owner, child)
    | _, _ => none

theorem attaches?_eq_some {op : Operation} {t : Tree} {container child : ObjectId}
    (h : op.attaches? t = some (container, child)) : op.child? = some child ∧
      (op = .setParent child container ∨ op.written? t = some container) := by
  unfold attaches? at h
  split at h
  · cases h
    exact ⟨rfl, Or.inl rfl⟩
  · cases h
    exact ⟨rfl, Or.inr rfl⟩
  · cases h
    exact ⟨rfl, Or.inr rfl⟩
  · split at h
    · rename_i hw hc
      split at h
      · cases h
      · cases h
        exact ⟨hc, Or.inr hw⟩
    · cases h

theorem written?_setValue {t : Tree} {holder owner : ObjectId} {value : Option ObjectId}
    (heff : t.effective holder = .ok owner) :
    (Operation.setValue holder value).written? t = some owner := by
  rw [written?, heff]
  rfl

end Operation

namespace Tree

variable {t t' t₁ : Tree} {op : Operation} {owner child parent a x y : ObjectId}
  {given old new r : Option ObjectId} {o : Object} {f : Object → Object}

/-! ## Nodes and places after each way to write -/

theorem node?_withParent_of_ne (hx : x ≠ a) (p : Option ObjectId) :
    (t.withParent a p).node? x = t.node? x := by
  rw [withParent, node?_modify, if_neg hx]

theorem span?_modify {id : ObjectId} (f : Node → Node) (hf : ∀ n, (f n).span = n.span) :
    (t.modify id f).span? x = t.span? x := by
  rw [span?, node?_modify, span?]
  split
  · rw [Option.bind_map]
    exact congrArg (Option.bind _) (funext hf)
  · rfl

theorem node?_exchanged_of_ne (hx : x ≠ owner) (hold : old ≠ some x) :
    (t.exchanged owner old f).node? x = t.node? x := by
  rw [exchanged, withObject, node?_modify, if_neg hx]
  cases old with
  | none => rfl
  | some y =>
    refine node?_withParent_of_ne (fun e => hold ?_) none
    rw [e]

theorem span?_exchanged : (t.exchanged owner old f).span? x = t.span? x := by
  rw [exchanged, withObject, span?_modify _ (by exact fun _ => rfl)]
  cases old with
  | none => rfl
  | some y => exact span?_modify _ fun _ => rfl

/-- What stands for the child is the child itself if that is a root, and new otherwise. -/
theorem Attaches.eq_child_of_has (ha : t.Attaches child parent a t') (hold : t.Has a) :
    a = child ∧ t.parent? child = none := by
  obtain ⟨t₁, hf, -⟩ := ha.result
  cases hf with
  | root hroot => exact ⟨rfl, hroot⟩
  | copy => exact absurd hold (Nat.lt_irrefl _)

theorem size_exchanged : (t.exchanged owner old f).size = t.size := by
  rw [exchanged, withObject, size_modify]
  cases old with
  | none => rfl
  | some y => exact size_modify ..

section Attached

variable (h : t.WellFormed)

include h

theorem Frees.node?_of_has (hchild : t.Has child) (hf : t.Frees child a t₁) (hx : t.Has x) :
    t₁.node? x = t.node? x := by
  cases hf with
  | root => rfl
  | copy _ hs => exact node?_copied_of_has h hchild hs hx

theorem Attaches.node?_of_ne (ha : t.Attaches child parent a t') (hx : t.Has x) (hne : x ≠ a) :
    t'.node? x = t.node? x := by
  obtain ⟨t₁, hf, rfl⟩ := ha.result
  rw [node?_withParent_of_ne hne, hf.node?_of_has h ha.has_child hx]

/-- Whoever is older than the copies owns what it did, and the copies own copies. -/
theorem Attaches.owns_of_has (ha : t.Attaches child parent a t') (hxy : t'.Owns x y)
    (hy : t.Has y) : t.Owns x y := by
  obtain ⟨t₁, hf, rfl⟩ := ha.result
  rw [owns_congr (object?_withParent _)] at hxy
  cases hf with
  | root => exact hxy
  | @copy order _ hs =>
    rcases exists_of_has_copied h ha.has_child hs (has_of_owns hxy) with hx | ⟨x₀, hx⟩
    · rwa [owns_congr (object?_copied_of_has h ha.has_child hs hx)] at hxy
    · obtain ⟨_, -, hy'⟩ := (owns_copied_of_copyOf h ha.has_child hs hx).1 hxy
      exact absurd hy (not_has_of_copyOf hs hy')

end Attached

/-! ## Effects -/

/-- What an operation comes to, with the object that it returns. -/
inductive Effect (t : Tree) (op : Operation) : Option ObjectId → Tree → Prop
  | keep {r : Option ObjectId} (hop : op.attaches? t = none) : Effect t op r t
  | create {o : Object} (hop : op.attaches? t = none) (howned : o.owned = []) :
    Effect t op (some ⟨t.size⟩) (t.push { object := o }).2
  | place {id : ObjectId} {span : Span} (hop : op.attaches? t = none)
    (hw : op.written? t = some id) : Effect t op none (t.withSpan id span)
  | attach {child parent a : ObjectId} {t' : Tree} (hop : op = .setParent child parent)
    (ha : t.Attaches child parent a t') : Effect t op (some a) t'
  | exchange {owner : ObjectId} {old new : Option ObjectId} {o : Object} {f : Object → Object}
    {t₁ : Tree} (hw : op.written? t = some owner) (hs : t.Supplies owner op.child? new t₁)
    (ho : t.object? owner = some o) (hex : o.Exchanges old new (f o))
    (hold : ∀ y, old = some y → y ∈ o.owned ∧ op.child? ≠ some y) :
    Effect t op new (t₁.exchanged owner old f)

theorem attempts_effect_replace (h : t.WellFormed) (ho : t.object? owner = some o)
    (hold : ∀ y, old = some y → y ∈ o.owned) {write : ObjectId → Object → Object}
    (hex : ∀ a, a ∉ o.owned → o.Exchanges old (some a) (write a o))
    (hw : op.written? t = some owner) (hc : op.child? = some child)
    (hkeep : t.Owns owner child → op.attaches? t = none) :
    t.Attempts (Edit.replace owner child old write) fun a t' => t.Effect op (some a) t' := by
  refine (attempts_replace_exchanged h ho hold).mono ?_
  rintro a _ (⟨rfl, -, rfl⟩ | ⟨hne, t₁, ha, rfl⟩)
  · exact .keep (hkeep ((owns_iff ho).2 (hold child rfl)))
  · have hs : t.Supplies owner (some child) (some a) t₁ := .attached ha
    refine .exchange hw (hc ▸ hs) ho (hex a (hs.not_mem_owned h ho rfl)) fun y hy => ⟨hold y hy, ?_⟩
    exact fun hy' => hne (hy.trans (hy'.symm.trans hc))

theorem attempts_effect_append (h : t.WellFormed) (ho : t.object? owner = some o)
    (hi : o.items?.isSome) (hw : op.written? t = some owner) (hc : op.child? = some child) :
    t.Attempts (Edit.append owner child) fun a t' => t.Effect op (some a) t' := by
  refine (attempts_append_exchanged h ho).mono ?_
  rintro a _ ⟨t₁, ha, rfl⟩
  have hs : t.Supplies owner (some child) (some a) t₁ := .attached ha
  have hex := Object.exchanges_withItem hi (h.nodup_owned_of_object? ho) (hs.not_mem_owned h ho rfl)
  exact .exchange hw (hc ▸ hs) ho hex (by simp)

theorem attempts_effect_setAttributes (h : t.WellFormed) (complex set : ObjectId) :
    t.Attempts (Edit.setAttributes complex set)
      fun a t' => t.Effect (.setAttributes complex set) (some a) t' := by
  refine .check_bind attempts_expectSort fun _ _ => .check_bind attempts_complexParts ?_
  rintro ⟨as, cs⟩ ⟨n, ho⟩
  have hd := h.nodup_owned_of_object? ho
  refine attempts_effect_replace h ho (fun y hy => ?_)
    (fun a ha => Object.exchanges_withAttributes hd ha) rfl rfl fun hown => if_pos hown
  subst hy
  simp [Object.owned]

theorem attempts_effect_setChildren (h : t.WellFormed) (complex children : ObjectId) :
    t.Attempts (Edit.setChildren complex children)
      fun a t' => t.Effect (.setChildren complex children) (some a) t' := by
  refine .check_bind attempts_expectSort fun _ _ => .check_bind attempts_complexParts ?_
  rintro ⟨as, cs⟩ ⟨n, ho⟩
  have hd := h.nodup_owned_of_object? ho
  refine attempts_effect_replace h ho (fun y hy => ?_)
    (fun a ha => Object.exchanges_withChildren hd ha) rfl rfl fun hown => if_pos hown
  subst hy
  simp [Object.owned]

theorem attempts_effect_addAttribute (h : t.WellFormed) (set item : ObjectId) :
    t.Attempts (Edit.addAttribute set item)
      fun a t' => t.Effect (.addAttribute set item) (some a) t' := by
  refine .ask_bind fun o _ => ?_
  cases o with
  | attr =>
    refine .ask_bind fun o' ho' => ?_
    cases o' with
    | attributeSet items =>
      refine .ask_bind fun found _ => .require_bind fun _ => ?_
      exact attempts_effect_append h (get_eq_ok.1 ho') rfl rfl rfl
    | _ => exact .refuse
  | _ => exact .refuse

theorem attempts_effect_addChild (h : t.WellFormed) (container child : ObjectId) :
    t.Attempts (Edit.addChild container child)
      fun a t' => t.Effect (.addChild container child) (some a) t' := by
  refine .ask_bind fun c _ => .ask_bind fun o ho => ?_
  cases hc : Edit.childSorts o with
  | none => exact .refuse
  | some sorts =>
    refine .require_bind fun _ => ?_
    exact attempts_effect_append h (get_eq_ok.1 ho) (isSome_items?_of_childSorts hc) rfl rfl

theorem attempts_effect_setValue (h : t.WellFormed) (holder : ObjectId) (value : Option ObjectId) :
    t.Attempts (Edit.setValue holder value) (t.Effect (.setValue holder value)) := by
  refine (attempts_setValue_exchanged h holder value).mono ?_
  rintro new _ ⟨owner, o, s, heff, ho, hs, -, ⟨hkept, hsome, rfl, rfl⟩ | ⟨hne, t₁, hsup, rfl⟩⟩
  · obtain ⟨v, rfl⟩ := Option.isSome_iff_exists.1 hsome
    have hown := (owns_iff ho).2 (Object.mem_owned_of_slot? hs v hkept)
    refine .keep ?_
    simp [Operation.attaches?, Operation.written?_setValue heff, Operation.child?, hown]
  · have hd := h.nodup_owned_of_object? ho
    have hex := Object.exchanges_withSlot hs (.direct new) hd fun a ha => hsup.not_mem_owned h ho ha
    refine .exchange (Operation.written?_setValue heff) hsup ho hex fun y hy =>
      ⟨Object.mem_owned_of_slot? hs y hy, ?_⟩
    rintro rfl
    exact hne ⟨rfl, hy⟩

theorem attempts_effect_setReference (h : t.WellFormed) (holder target : ObjectId) :
    t.Attempts (Edit.setReference holder target)
      fun _ t' => t.Effect (.setReference holder target) none t' := by
  refine (attempts_setReference_exchanged h holder target).mono ?_
  rintro _ _ ⟨o, s, ho, hs, -, -, rfl⟩
  have hex := Object.exchanges_withSlot hs (.reference target) (h.nodup_owned_of_object? ho)
    fun a ha => by cases ha
  refine .exchange rfl .nothing ho hex fun y hy => ⟨Object.mem_owned_of_slot? hs y hy, ?_⟩
  exact nofun

theorem attempts_effect (h : t.WellFormed) (op : Operation) :
    t.Attempts op.perform (t.Effect op) := by
  cases op with
  | newSimple | newComplex | newAttribute | newElement | newAttributeSet | newChildSet
  | newChildList => exact .map (.of_completes ⟨_, _, rfl, .create rfl rfl⟩)
  | setSpan id span => exact .map (.ask_bind fun _ _ => .of_completes ⟨(), _, rfl, .place rfl rfl⟩)
  | setParent child parent =>
    exact .map ((attempts_setParent h child parent).mono fun _ _ ha => .attach rfl ha)
  | setAttributes complex set => exact .map (attempts_effect_setAttributes h complex set)
  | setChildren complex children => exact .map (attempts_effect_setChildren h complex children)
  | addAttribute set item => exact .map (attempts_effect_addAttribute h set item)
  | addChild container child => exact .map (attempts_effect_addChild h container child)
  | setValue holder value => exact attempts_effect_setValue h holder value
  | setReference holder target => exact .map (attempts_effect_setReference h holder target)

/-! ## What stays -/

namespace Effect

variable (h : t.WellFormed) (he : t.Effect op r t')

include h he

/-- An object stays as it is unless it is written to, is given away by the one that is, or is a root
and attached. -/
theorem node?_eq (hx : t.Has x) (hw : op.written? t ≠ some x)
    (hown : ∀ w, op.written? t = some w → t.Owns w x → t'.Owns w x)
    (hroot : op.child? = some x → t.parent? x ≠ none) : t'.node? x = t.node? x := by
  cases he with
  | keep => rfl
  | create =>
    rw [node?_push, if_neg]
    rintro rfl
    exact Nat.lt_irrefl _ hx
  | @place id span _ hid =>
    rw [withSpan, node?_modify, if_neg]
    rintro rfl
    exact hw hid
  | attach hop ha =>
    subst hop
    refine ha.node?_of_ne h hx ?_
    rintro rfl
    obtain ⟨rfl, hp⟩ := ha.eq_child_of_has hx
    exact hroot rfl hp
  | @exchange owner old _ o f t₁ hid hs ho hex hold =>
    have ho₁ := hs.object?_eq h ho
    have hne : x ≠ owner := by
      rintro rfl
      exact hw hid
    have hkept : old ≠ some x := by
      intro hx'
      have hox := (owns_iff ho).2 (hold x hx').1
      -- what is given away is owned again only if it is what is taken, which nobody owned
      have hox' := hown owner hid hox
      rw [owns_exchanged ho₁ hex, if_pos rfl] at hox'
      rcases hox' with ⟨-, hne'⟩ | hnew
      · exact hne' hx'
      · exact hs.not_owns h hnew owner ((owns_iff ho₁).2 (hold x hx').1)
    rw [node?_exchanged_of_ne hne hkept]
    generalize hgiven : op.child? = given at hs
    cases hs with
    | nothing => rfl
    | attached ha =>
      refine ha.node?_of_ne h hx ?_
      rintro rfl
      obtain ⟨rfl, hp⟩ := ha.eq_child_of_has hx
      exact hroot hgiven hp

/-- Of the objects that there were, nobody owns more than before, apart from the one that is
attached. -/
theorem owns (hxy : t'.Owns x y) (hy : t.Has y) : t.Owns x y ∨ op.child? = some y := by
  cases he with
  | keep => exact Or.inl hxy
  | @create o _ howned =>
    refine Or.inl ?_
    rw [Owns, owned, object?_push] at hxy
    split at hxy
    · rw [Option.elim_some, howned] at hxy
      cases hxy
    · exact hxy
  | place => exact Or.inl ((owns_congr (object?_withSpan _)).1 hxy)
  | attach _ ha => exact Or.inl (ha.owns_of_has h hxy hy)
  | @exchange owner old _ o f t₁ hid hs ho hex hold =>
    have ho₁ := hs.object?_eq h ho
    have hcases : t₁.Owns x y ∨ r = some y := by
      rw [owns_exchanged ho₁ hex] at hxy
      split at hxy
      · exact hxy.imp_left And.left
      · exact Or.inl hxy
    generalize hgiven : op.child? = given at hs
    cases hs with
    | nothing => exact hcases.imp_right fun hr => by cases hr
    | attached ha =>
      refine hcases.imp (fun hxy => ha.owns_of_has h hxy hy) fun hnew => ?_
      obtain rfl := Option.some.inj hnew
      exact congrArg some (ha.eq_child_of_has hy).1.symm

end Effect

/-- An operation is refused and leaves the tree, or has its effect. -/
theorem perform_cases (h : t.WellFormed) (op : Operation) :
    (t.perform op).2 = t ∨ ∃ r t', t.perform op = (.ok r, t') ∧ t.Effect op r t' := by
  rcases attempts_effect h op with ⟨fault, hrun⟩ | ⟨r, t', hrun, he⟩
  · exact Or.inl (by rw [perform, hrun])
  · exact Or.inr ⟨r, t', hrun, he⟩

theorem owns_of_perform (h : t.WellFormed) (hxy : (t.perform op).2.Owns x y) (hy : t.Has y) :
    t.Owns x y ∨ op.child? = some y := by
  rcases perform_cases h op with heq | ⟨r, t', hrun, he⟩
  · exact Or.inl (heq ▸ hxy)
  · rw [hrun] at hxy
    exact he.owns h hxy hy

end Tree

end Schemata
