import Schemata.Proofs.Derivation
import Schemata.Proofs.Facets

/-!
# Content that narrows other content

What it means that a type has no more than another one: `SimpleContent.Narrows` and
`ComplexContent.Narrows`. Attributes correspond by name. Members of a set correspond in order, and
by name; a set may lack members of the other one that it may do without. The relation on members has
the relation on elements as its parameter, so that it can say how elements correspond in other
respects as well.

The relation on complex content is a preorder in an ordered schema. Both relations last when the
schema grows.
-/

namespace Schemata

/-! ## Attributes -/

/-- An attribute that may stand where another one is declared. -/
structure Attribute.Narrows (s : Schema) (a b : Attribute) : Prop where
  name : a.name = b.name
  type : s.derives a.type b.type
  optional : a.isOptional → b.isOptional
  nullable : a.isNullable → b.isNullable

/-- Attributes that may stand where others are declared. Each of them narrows one of those, and none
of those that are required is missing. -/
structure Attribute.SetNarrows (s : Schema) (set base : List Attribute) : Prop where
  restricts : ∀ a ∈ set, ∃ b ∈ base, a.Narrows s b
  required : ∀ b ∈ base, b.isOptional = false → ∃ a ∈ set, a.Narrows s b

/-! ## Elements and members -/

/-- An element that may stand where another one is declared: a local one for a local one, and the
use of a global element for the use of one that it substitutes. -/
structure Element.Narrows (s : Schema) (e f : Element) : Prop where
  type : s.derives e.type f.type
  nullable : e.isNullable → f.isNullable
  inner : f.referenced = none →
    e.referenced = none ∧ e.fullName = f.fullName ∧ e.isAbstract = f.isAbstract
  reference : ∀ head, f.referenced = some head →
    ∃ id, e.referenced = some id ∧ s.substitutes id head

mutual

/-- A member that may stand where another one is declared, if `R` says so of the elements. -/
inductive Member.Narrows (R : Element → Element → Prop) : Member → Member → Prop
  | element {l l' : MemberLabel} {e e' : Element} {o o' : Bool} (name : l.name = l'.name)
      (element : R e e') (optional : o → o') :
      Member.Narrows R (.element l e o) (.element l' e' o')
  | set {l l' : MemberLabel} {k : SetKind} {ms ms' : List Member} {p p' : Option Span}
      (name : l.name = l'.name) (members : MembersNarrow R k ms ms')
      (kept : k = .choice → ms' ≠ [] → ms ≠ []) :
      Member.Narrows R (.set l k ms p) (.set l' k ms' p')
  | list {l l' : MemberLabel} {i i' : Member} {o o' : Occurs} (name : l.name = l'.name)
      (item : Member.Narrows R i i') (occurs : o.restricts o') :
      Member.Narrows R (.list l i o) (.list l' i' o')

/-- The members of a set that may stand where those of another set of its kind are declared. They
come in the order of those, and a sequence drops only what may be absent. -/
inductive MembersNarrow (R : Element → Element → Prop) :
    SetKind → List Member → List Member → Prop
  | nil {k : SetKind} : MembersNarrow R k [] []
  | keep {k : SetKind} {m m' : Member} {ms ms' : List Member} (member : Member.Narrows R m m')
      (rest : MembersNarrow R k ms ms') : MembersNarrow R k (m :: ms) (m' :: ms')
  | drop {k : SetKind} {m' : Member} {ms ms' : List Member}
      (optional : k = .sequence → m'.isOptional) (rest : MembersNarrow R k ms ms') :
      MembersNarrow R k ms (m' :: ms')

end

/-- Children that may stand where others are declared. -/
inductive Children.Narrow (s : Schema) : Option Children → Option Children → Prop
  | none : Children.Narrow s none none
  | simple {t u : TypeId} (type : s.derives t u) :
      Children.Narrow s (some (.simple t)) (some (.simple u))
  | set {k : SetKind} {ms ms' : List Member} {p p' : Option Span}
      (members : MembersNarrow (Element.Narrows s) k ms ms')
      (kept : k = .choice → ms' ≠ [] → ms ≠ []) :
      Children.Narrow s (some (.set ⟨k, ms, p⟩)) (some (.set ⟨k, ms', p'⟩))

/-- Content of a simple type whose values are among those of another one, patterns aside. -/
structure SimpleContent.Narrows (s : Schema) (c d : SimpleContent) : Prop where
  facets : (c.facets.getD {}).Narrows (d.facets.getD {})
  item : ∀ u, d.item = some u → ∃ t, c.item = some t ∧ s.derives t u

/-- Content of a complex type that may stand where other content is declared. -/
structure ComplexContent.Narrows (s : Schema) (c d : ComplexContent) : Prop where
  attributes : Attribute.SetNarrows s (c.attributes.getD []) (d.attributes.getD [])
  children : Children.Narrow s c.children d.children

/-! ## The relations on members -/

section Members

variable {R R' : Element → Element → Prop}

theorem Member.Narrows.name {m m' : Member} (h : m.Narrows R m') : m.name = m'.name := by
  cases h <;> assumption

mutual

theorem Member.Narrows.mono (h : ∀ e f, R e f → R' e f) {m m' : Member} (hm : m.Narrows R m') :
    m.Narrows R' m' := by
  cases hm with
  | element name element optional => exact .element name (h _ _ element) optional
  | set name members kept => exact .set name (MembersNarrow.mono h members) kept
  | list name item occurs => exact .list name (Member.Narrows.mono h item) occurs

theorem MembersNarrow.mono (h : ∀ e f, R e f → R' e f) {k : SetKind} {ms ms' : List Member}
    (hm : MembersNarrow R k ms ms') : MembersNarrow R' k ms ms' := by
  cases hm with
  | nil => exact .nil
  | keep member rest => exact .keep (Member.Narrows.mono h member) (MembersNarrow.mono h rest)
  | drop optional rest => exact .drop optional (MembersNarrow.mono h rest)

end

mutual

/-- What narrows a required member is required. -/
theorem Member.Narrows.isOptional {m m' : Member} (hm : m.Narrows R m') (ho : m.isOptional) :
    m'.isOptional := by
  cases hm with
  | element name element optional => exact optional ho
  | @set _ _ k _ _ _ _ name members kept =>
    cases k with
    | sequence => exact MembersNarrow.allOptional members rfl ho
    | choice => exact MembersNarrow.anyOptional members ho
  | list name item occurs =>
    simp only [Member.isOptional, Occurs.isEmptiable, Occurs.restricts, beq_iff_eq,
      Bool.and_eq_true, decide_eq_true_eq] at ho occurs ⊢
    omega

theorem MembersNarrow.allOptional {k : SetKind} {ms ms' : List Member}
    (hm : MembersNarrow R k ms ms') (hk : k = .sequence) (ho : Member.allOptional ms) :
    Member.allOptional ms' := by
  cases hm with
  | nil => rfl
  | keep member rest =>
    simp only [Member.allOptional, Bool.and_eq_true] at ho ⊢
    exact ⟨Member.Narrows.isOptional member ho.1, MembersNarrow.allOptional rest hk ho.2⟩
  | drop optional rest =>
    simp only [Member.allOptional, Bool.and_eq_true]
    exact ⟨optional hk, MembersNarrow.allOptional rest hk ho⟩

theorem MembersNarrow.anyOptional {k : SetKind} {ms ms' : List Member}
    (hm : MembersNarrow R k ms ms') (ho : Member.anyOptional ms) :
    Member.anyOptional ms' := by
  cases hm with
  | nil => exact ho
  | keep member rest =>
    simp only [Member.anyOptional, Bool.or_eq_true] at ho ⊢
    exact ho.imp (Member.Narrows.isOptional member) (MembersNarrow.anyOptional rest)
  | drop optional rest =>
    simp only [Member.anyOptional, Bool.or_eq_true]
    exact Or.inr (MembersNarrow.anyOptional rest ho)

end

theorem MembersNarrow.childSet_isOptional {k : SetKind} {ms ms' : List Member} {p p' : Option Span}
    (hm : MembersNarrow R k ms ms') (ho : ChildSet.isOptional ⟨k, ms, p⟩) :
    ChildSet.isOptional ⟨k, ms', p'⟩ := by
  cases k with
  | sequence =>
    simp only [ChildSet.isOptional, ← Member.allOptional_eq] at ho ⊢
    exact hm.allOptional rfl ho
  | choice =>
    simp only [ChildSet.isOptional, ← Member.anyOptional_eq] at ho ⊢
    exact hm.anyOptional ho

mutual

theorem Member.Narrows.refl (h : ∀ e, R e e) (m : Member) : m.Narrows R m := by
  cases m with
  | element l e o => exact .element rfl (h e) id
  | set l k ms p => exact .set rfl (MembersNarrow.refl h k ms) fun _ => id
  | list l i o => exact .list rfl (Member.Narrows.refl h i) (by simp [Occurs.restricts])

theorem MembersNarrow.refl (h : ∀ e, R e e) (k : SetKind) (ms : List Member) :
    MembersNarrow R k ms ms := by
  cases ms with
  | nil => exact .nil
  | cons m ms => exact .keep (Member.Narrows.refl h m) (MembersNarrow.refl h k ms)

end

mutual

theorem Member.Narrows.trans (h : ∀ e f g, R e f → R f g → R e g) {m m' m'' : Member}
    (hm : m.Narrows R m') (hm' : m'.Narrows R m'') : m.Narrows R m'' := by
  cases hm' with
  | element name' element' optional' =>
    cases hm with
    | element name element optional =>
      exact .element (name.trans name') (h _ _ _ element element') (optional' ∘ optional)
  | set name' members' kept' =>
    cases hm with
    | set name members kept =>
      exact .set (name.trans name') (MembersNarrow.trans h members members')
        fun hk hne => kept hk (kept' hk hne)
  | list name' item' occurs' =>
    cases hm with
    | list name item occurs =>
      refine .list (name.trans name') (Member.Narrows.trans h item item') ?_
      simp only [Occurs.restricts, Bool.and_eq_true, decide_eq_true_eq] at occurs occurs' ⊢
      omega

theorem MembersNarrow.trans (h : ∀ e f g, R e f → R f g → R e g) {k : SetKind}
    {ms ms' ms'' : List Member} (hm : MembersNarrow R k ms ms') (hm' : MembersNarrow R k ms' ms'') :
    MembersNarrow R k ms ms'' := by
  cases hm' with
  | nil =>
    cases hm with
    | nil => exact .nil
  | keep member' rest' =>
    cases hm with
    | keep member rest =>
      exact .keep (Member.Narrows.trans h member member') (MembersNarrow.trans h rest rest')
    | drop optional rest =>
      exact .drop (fun hk => Member.Narrows.isOptional member' (optional hk))
        (MembersNarrow.trans h rest rest')
  | drop optional' rest' => exact .drop optional' (MembersNarrow.trans h hm rest')

end

/-- The position of a member does not matter. -/
theorem Member.Narrows.atOrder {m m' : Member} (h : m.Narrows R m') (i : Nat) :
    (m.atOrder i).Narrows R m' := by
  cases h with
  | element name element optional => exact .element name element optional
  | set name members kept => exact .set name members kept
  | list name item occurs => exact .list name item occurs

theorem MembersNarrow.atOrder {k : SetKind} {ms ms' : List Member} (h : MembersNarrow R k ms ms')
    (order : Nat → Nat) : MembersNarrow R k (ms.mapIdx fun i m => m.atOrder (order i)) ms' := by
  induction ms' generalizing ms order with
  | nil =>
    cases h
    exact .nil
  | cons m' ms' ih =>
    cases h with
    | keep member rest =>
      rw [List.mapIdx_cons]
      exact .keep (member.atOrder _) (ih rest fun i => order (i + 1))
    | drop optional rest => exact .drop optional (ih rest order)

/-- The names of the members that are left are names of those that there were, in their order. -/
theorem MembersNarrow.names {k : SetKind} {ms ms' : List Member} (h : MembersNarrow R k ms ms') :
    (ms.map Member.name).Sublist (ms'.map Member.name) := by
  induction ms' generalizing ms with
  | nil =>
    cases h
    exact .refl _
  | cons m' ms' ih =>
    cases h with
    | keep member rest =>
      rw [List.map_cons, List.map_cons, member.name]
      exact (ih rest).cons_cons _
    | drop optional rest => exact (ih rest).cons _

end Members

/-! ## The relations on content -/

section Content

variable {s s' : Schema}

theorem SimpleContent.Narrows.refl (s : Schema) (c : SimpleContent) : c.Narrows s c :=
  ⟨.refl _, fun u h => ⟨u, h, s.derives_refl u⟩⟩

theorem SimpleContent.narrows_empty (s : Schema) (c : SimpleContent) : c.Narrows s {} :=
  ⟨FacetSet.narrows_empty _, fun _ h => by cases h⟩

theorem SimpleContent.Narrows.mono (hs : s.Extends s') {c d : SimpleContent}
    (h : c.Narrows s d) : c.Narrows s' d where
  facets := h.facets
  item u hu := by
    obtain ⟨t, ht, htu⟩ := h.item u hu
    exact ⟨t, ht, hs.derives htu⟩

theorem Attribute.Narrows.refl (s : Schema) (a : Attribute) : a.Narrows s a :=
  ⟨rfl, s.derives_refl a.type, id, id⟩

theorem Attribute.Narrows.trans (ho : s.Ordered) {a b c : Attribute} (h : a.Narrows s b)
    (h' : b.Narrows s c) : a.Narrows s c :=
  ⟨h.name.trans h'.name, Schema.derives_trans ho h.type h'.type, h'.optional ∘ h.optional,
    h'.nullable ∘ h.nullable⟩

theorem Attribute.Narrows.mono (hs : s.Extends s') {a b : Attribute} (h : a.Narrows s b) :
    a.Narrows s' b :=
  { h with type := hs.derives h.type }

theorem Attribute.SetNarrows.refl (s : Schema) (set : List Attribute) :
    Attribute.SetNarrows s set set :=
  ⟨fun a ha => ⟨a, ha, .refl s a⟩, fun b hb _ => ⟨b, hb, .refl s b⟩⟩

theorem Attribute.SetNarrows.trans (ho : s.Ordered) {as bs cs : List Attribute}
    (h : Attribute.SetNarrows s as bs) (h' : Attribute.SetNarrows s bs cs) :
    Attribute.SetNarrows s as cs where
  restricts a ha := by
    obtain ⟨b, hb, hab⟩ := h.restricts a ha
    obtain ⟨c, hc, hbc⟩ := h'.restricts b hb
    exact ⟨c, hc, hab.trans ho hbc⟩
  required c hc hr := by
    obtain ⟨b, hb, hbc⟩ := h'.required c hc hr
    have hbr : b.isOptional = false := by
      by_contra ho
      simp [hbc.optional (by simpa using ho)] at hr
    obtain ⟨a, ha, hab⟩ := h.required b hb hbr
    exact ⟨a, ha, hab.trans ho hbc⟩

theorem Attribute.SetNarrows.mono (hs : s.Extends s') {as bs : List Attribute}
    (h : Attribute.SetNarrows s as bs) : Attribute.SetNarrows s' as bs where
  restricts a ha := by
    obtain ⟨b, hb, hab⟩ := h.restricts a ha
    exact ⟨b, hb, hab.mono hs⟩
  required b hb hr := by
    obtain ⟨a, ha, hab⟩ := h.required b hb hr
    exact ⟨a, ha, hab.mono hs⟩

theorem Element.Narrows.refl (s : Schema) (e : Element) : e.Narrows s e :=
  ⟨s.derives_refl e.type, id, fun h => ⟨h, rfl, rfl⟩, fun head h => ⟨head, h, s.substitutes_refl _⟩⟩

theorem Element.Narrows.trans (ho : s.Ordered) {e f g : Element} (h : e.Narrows s f)
    (h' : f.Narrows s g) : e.Narrows s g where
  type := Schema.derives_trans ho h.type h'.type
  nullable := h'.nullable ∘ h.nullable
  inner hg := by
    obtain ⟨hf, hname, habs⟩ := h'.inner hg
    obtain ⟨he, hname', habs'⟩ := h.inner hf
    exact ⟨he, hname'.trans hname, habs'.trans habs⟩
  reference head hg := by
    obtain ⟨id, hf, hid⟩ := h'.reference head hg
    obtain ⟨id', he, hid'⟩ := h.reference id hf
    exact ⟨id', he, Schema.substitutes_trans ho hid' hid⟩

theorem Element.Narrows.mono (hs : s.Extends s') {e f : Element} (h : e.Narrows s f) :
    e.Narrows s' f where
  type := hs.derives h.type
  nullable := h.nullable
  inner := h.inner
  reference head hf := by
    obtain ⟨id, he, hid⟩ := h.reference head hf
    exact ⟨id, he, hs.substitutes hid⟩

theorem Children.Narrow.refl (s : Schema) (c : Option Children) : Children.Narrow s c c := by
  match c with
  | Option.none => exact .none
  | some (.simple t) => exact .simple (s.derives_refl t)
  | some (.set ⟨k, ms, p⟩) =>
    exact .set (MembersNarrow.refl (Element.Narrows.refl s) k ms) fun _ => id

theorem Children.Narrow.trans (ho : s.Ordered) {c d e : Option Children}
    (h : Children.Narrow s c d) (h' : Children.Narrow s d e) : Children.Narrow s c e := by
  cases h with
  | none => exact h'
  | simple type =>
    cases h' with
    | simple type' => exact .simple (Schema.derives_trans ho type type')
  | set members kept =>
    cases h' with
    | set members' kept' =>
      exact .set (members.trans (fun _ _ _ h h' => h.trans ho h') members')
        fun hk hne => kept hk (kept' hk hne)

theorem Children.Narrow.mono (hs : s.Extends s') {c d : Option Children}
    (h : Children.Narrow s c d) : Children.Narrow s' c d := by
  cases h with
  | none => exact .none
  | simple type => exact .simple (hs.derives type)
  | set members kept => exact .set (members.mono fun _ _ h => h.mono hs) kept

theorem ComplexContent.Narrows.refl (s : Schema) (c : ComplexContent) : c.Narrows s c :=
  ⟨.refl s _, .refl s _⟩

theorem ComplexContent.Narrows.trans (ho : s.Ordered) {c d e : ComplexContent}
    (h : c.Narrows s d) (h' : d.Narrows s e) : c.Narrows s e :=
  ⟨h.attributes.trans ho h'.attributes, h.children.trans ho h'.children⟩

theorem ComplexContent.Narrows.mono (hs : s.Extends s') {c d : ComplexContent}
    (h : c.Narrows s d) : c.Narrows s' d where
  attributes := h.attributes.mono hs
  children := h.children.mono hs

end Content

end Schemata
