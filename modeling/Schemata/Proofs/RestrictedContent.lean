import Schemata.Proofs.Extension

/-!
# What restricting blocks keep

What an entry of a restricting block makes of what it restricts can be told from the finished
schema: `AttributeItem.RestrictsEach` for a block of attributes, `ChildItem.Restricts` and
`ChildItem.RestrictsEach` for the items of a child set, which nest. Where a compilation ends without
an error, its runs follow these rules (`Takes.restrictsEachAttribute`, `Takes.restrictsEachMember`).

An entry that deletes only has to speak of a name of the base. It takes nothing away of what entries
before it keep, and no entry behind it may keep the name.
-/

namespace Schemata

/-! ## Entries -/

/-- What an entry of a restricting block says: to keep, as it is declared anew, or to delete what
the base has under a name. -/
inductive Entry
  | keeps (name : String)
  | deletes (name : String)
  deriving DecidableEq

/-- The name that an entry speaks of. -/
def Entry.name : Entry → String
  | .keeps n => n
  | .deletes n => n

/-- What an entry of a block of attributes says. -/
def AttributeItem.entry : AttributeItem → Entry
  | .declared d => .keeps d.name.text
  | .reference u => .keeps u.reference.name.text
  | .delete d => .deletes d.name.text

/-- What an item at a position says. -/
def ChildItem.entry (order : Nat) (item : ChildItem) : Entry :=
  match item with
  | .delete d => .deletes d.name.text
  | _ => .keeps (item.memberName order)

theorem ChildItem.entry_of_not_delete {order : Nat} {item : ChildItem}
    (h : ∀ d, item = .delete d → False) : item.entry order = .keeps (item.memberName order) := by
  cases item with
  | delete d => exact (h d rfl).elim
  | _ => rfl

/-- What items say, the first of which stands at a position. -/
def ChildItem.entries (order : Nat) : List ChildItem → List Entry
  | [] => []
  | item :: rest => item.entry order :: entries (order + 1) rest

/-- What is kept of attributes. -/
def Attribute.kept (base made : List Attribute) : List Attribute :=
  base.filterMap fun a => Attribute.find? made a.name

theorem Attribute.isIn_concat {made : List Attribute} {a : Attribute} {n : String} :
    Attribute.isIn (made ++ [a]) n ↔ Attribute.isIn made n ∨ a.name = n := by
  simp [Attribute.isIn]

theorem Member.isIn_concat {made : List Member} {m : Member} {n : String} :
    Member.isIn (made ++ [m]) n ↔ Member.isIn made n ∨ m.name = n := by
  simp [Member.isIn]

/-- What is kept of members, each at its position. -/
def Member.kept (base made : List Member) : List Member :=
  (base.filterMap fun m => Member.find? made m.name).mapIdx fun i m => m.atOrder i

theorem Attribute.isIn_of_deletionFaults {base : List Attribute} {n : String}
    (h : attributeDeletionFaults base n = []) : Attribute.isIn base n := by
  rw [← Attribute.isSome_find?]
  unfold attributeDeletionFaults at h
  split at h
  · cases h
  · rename_i ha
    rw [ha]
    rfl

theorem Member.isIn_of_deletionFaults {kind : SetKind} {base : List Member} {n : String}
    (h : memberDeletionFaults kind base n = []) : Member.isIn base n := by
  unfold memberDeletionFaults at h
  split at h
  · cases h
  · rename_i m hm
    exact Member.isIn_iff.2 ⟨m, hm⟩

/-- Every attribute that is required is made anew. -/
def Attribute.Completes (base made : List Attribute) : Prop :=
  ∀ n a, Attribute.find? base n = some a → a.isOptional = false → Attribute.isIn made n

/-- Every member that is required is made anew, where the members are those of a sequence. -/
def Member.Completes (kind : SetKind) (base made : List Member) : Prop :=
  ∀ n m, Member.find? base n = some m → kind = .sequence → m.isOptional = false →
    Member.isIn made n

/-- What an item with some bounds is held against: the item of a list, or the member itself. -/
def Member.held (base : Member) (occurs : Occurs) : RestrictedMember :=
  match base with
  | .list _ target _ => ⟨target, false, some occurs⟩
  | _ => ⟨base, occurs.least == 0, none⟩

/-- The member of a list takes its name from the list, and any other keeps its own. -/
theorem Member.name_wrap {base m : Member} {occurs : Occurs} (span : Option Span)
    (h : m.name = (base.held occurs).target.name) :
    ((base.held occurs).wrap base span m).name = base.name := by
  cases base with
  | list label item bounds => rfl
  | _ => exact h

section

variable (s : Schema) (c : Catalog) (scope : Scope)

/-- The attributes that the entries of a block make, the last of them first, when some names were
spoken of before. -/
inductive AttributeItem.RestrictsEach (base : List Attribute) :
    List String → List AttributeItem → List Attribute → Prop
  | nil {mentioned : List String} : RestrictsEach base mentioned [] []
  | delete {mentioned : List String} {d : Deletion} {rest : List AttributeItem}
    {made : List Attribute} (allowed : attributeDeletionFaults base d.name.text = [])
    (others : RestrictsEach base (d.name.text :: mentioned) rest made) :
    RestrictsEach base mentioned (.delete d :: rest) made
  | keep {mentioned : List String} {item : AttributeItem} {rest : List AttributeItem}
    {a : Attribute} {made : List Attribute} (makes : item.attribute? s c scope = some a)
    (fresh : a.name ∉ mentioned) (known : Attribute.isIn base a.name)
    (others : RestrictsEach base (a.name :: mentioned) rest made) :
    RestrictsEach base mentioned (item :: rest) (made ++ [a])

mutual

/-- The member that an item makes of the one that it is held against. -/
inductive ChildItem.Restricts : Member → Bool → ChildItem → Member → Prop
  | element {label : MemberLabel} {e : Element} {o isOptional : Bool} {d : ElementDecl} {t : TypeId}
    (type : s.referent? c scope d.type = some (.type t)) :
    ChildItem.Restricts (.element label e o) isOptional (.element d)
      (.element { label with span := (ChildItem.element d).span }
        { e with type := t, isNullable := d.isNullable, span := (ChildItem.element d).span }
        isOptional)
  | reference {label : MemberLabel} {e g : Element} {o isOptional : Bool} {u : ElementUse}
    {i : ElementId} (referent : s.referent? c scope u.reference = some (.element i))
    (element : s.element? i = some g) :
    ChildItem.Restricts (.element label e o) isOptional (.reference u)
      (.element { label with span := (ChildItem.reference u).span }
        (g.asReference i (ChildItem.reference u).span) isOptional)
  | set {label : MemberLabel} {members made : List Member} {place span : Option Span}
    {isOptional : Bool} {name : Option Ident} {kind : SetKind} {items : List ChildItem}
    {bounds : Option OccursDecl} (each : ChildItem.RestrictsEach kind members [] 0 items made)
    (complete : Member.Completes kind members made) :
    ChildItem.Restricts (.set label kind members place) isOptional
      (.set name kind items span bounds)
      (.set { label with span } kind (Member.kept members made) (span.or place))

/-- The members that the items of a set make, the last of them first, when some names were spoken of
before. -/
inductive ChildItem.RestrictsEach :
    SetKind → List Member → List String → Nat → List ChildItem → List Member → Prop
  | nil {kind : SetKind} {base : List Member} {mentioned : List String} {order : Nat} :
    ChildItem.RestrictsEach kind base mentioned order [] []
  | delete {kind : SetKind} {base : List Member} {mentioned : List String} {order : Nat}
    {d : Deletion} {rest : List ChildItem} {made : List Member}
    (allowed : memberDeletionFaults kind base d.name.text = [])
    (others : ChildItem.RestrictsEach kind base (d.name.text :: mentioned) (order + 1) rest made) :
    ChildItem.RestrictsEach kind base mentioned order (.delete d :: rest) made
  | keep {kind : SetKind} {base : List Member} {mentioned : List String} {order : Nat}
    {item : ChildItem} {rest : List ChildItem} {inherited m : Member} {occurs : Occurs}
    {made : List Member} (fresh : item.memberName order ∉ mentioned)
    (found : Member.find? base (item.memberName order) = some inherited)
    (bounds : item.bounds? = some occurs)
    (single : ChildItem.Restricts (inherited.held occurs).target (inherited.held occurs).isOptional
      item m)
    (others : ChildItem.RestrictsEach kind base (item.memberName order :: mentioned) (order + 1)
      rest made) :
    ChildItem.RestrictsEach kind base mentioned order (item :: rest)
      (made ++ [(inherited.held occurs).wrap inherited item.span m])

end

theorem ChildItem.Restricts.name_eq {s : Schema} {c : Catalog} {scope : Scope} {base m : Member}
    {isOptional : Bool} {item : ChildItem} (h : item.Restricts s c scope base isOptional m) :
    m.name = base.name := by
  cases h <;> rfl

/-- What a restriction declares of attributes, if it declares any. -/
inductive Attribute.Restriction (base : Option (List Attribute)) :
    Option AttributeBlock → Option (List Attribute) → Prop
  | unspoken : Restriction base none base
  | block {d : AttributeBlock} {made : List Attribute}
    (each : AttributeItem.RestrictsEach s c scope (base.getD []) [] d.items made)
    (complete : Attribute.Completes (base.getD []) made) :
    Restriction base (some d) (some (Attribute.kept (base.getD []) made))

/-- What a restriction declares of children, if it declares any. -/
inductive Children.Restriction (base : Option Children) :
    Option ChildrenDecl → Option Children → Prop
  | unspoken : Restriction base none base
  | simple {r : NameRef} {span : Option Span} {up t : TypeId} (inherited : base = some (.simple up))
    (named : s.referent? c scope r = some (.type t)) :
    Restriction base (some (.simple r span)) (some (.simple t))
  | set {d : ChildSetDecl} {inherited : ChildSet} {made : List Member}
    (inherits : base = some (.set inherited)) (kind : inherited.kind = d.kind)
    (each : ChildItem.RestrictsEach s c scope inherited.kind inherited.members [] 0 d.items made)
    (complete : Member.Completes inherited.kind inherited.members made) :
    Restriction base (some (.set d))
      (some (.set ⟨inherited.kind, Member.kept inherited.members made, d.span.or inherited.span⟩))

/-- What the content of a base becomes in a restriction. -/
structure ComplexContent.Restriction (base : ComplexContent) (attributes : Option AttributeBlock)
    (children : Option ChildrenDecl) (x : ComplexContent) : Prop where
  attributes : Attribute.Restriction s c scope base.attributes attributes x.attributes
  children : Children.Restriction s c scope base.children children x.children

end

namespace Builder

variable {c : Catalog} {limits : Limits} {s : Schema} {b b' e : Builder}

namespace Takes

variable (he : e.Becomes c s)

include he

/-! ## Attributes -/

theorem restrictsEachAttribute (scope : Scope) (base : List Attribute)
    (items : List AttributeItem) (r : RestrictedAttributes) :
    b.Takes c limits .all (Schemata.restrictEachAttribute c limits scope base items r)
      fun r' b₁ => b₁.Lasts e → ∃ made,
        AttributeItem.RestrictsEach s c scope base r.mentioned items made ∧
        r'.found = made ++ r.found ∧
        ∀ n ∈ r'.mentioned, n ∈ r.mentioned ∨ Attribute.isIn made n ∨
          attributeDeletionFaults base n = [] := by
  induction items generalizing b r with
  | nil => exact .pure fun _ => ⟨[], .nil, rfl, fun _ => .inl⟩
  | cons item rest ih =>
    unfold Schemata.restrictEachAttribute
    split
    · rename_i d
      extract_lets name
      refine (noteFaults _ _).bind fun _ b₁ _ ⟨_, hfaults⟩ =>
        (ih _).mono fun r' b₂ hl hrest hlast => ?_
      obtain ⟨made, hmade, hfound, hspoken⟩ := hrest hlast
      have hallowed := hfaults ((hl.trans hlast).clean he.clean)
      refine ⟨made, .delete hallowed hmade, hfound, fun n hn => ?_⟩
      rcases hspoken n hn with hn | hn
      · rcases List.mem_cons.1 hn with rfl | hn
        · exact .inr (.inr hallowed)
        · exact .inl hn
      · exact .inr hn
    · rename_i hitem
      refine (makesAttribute he scope hitem).bind fun m b₁ _ hm => ?_
      cases m with
      | none =>
        refine (ih r).mono fun _ b₂ hl _ hlast => ?_
        obtain ⟨a, ha, -⟩ := hm (hl.trans hlast)
        cases ha
      | some a =>
        dsimp only
        split
        · exact fault_bind he fun _ => ih r
        · rename_i hfresh
          split
          · exact fault_bind he fun _ => ih _
          · rename_i inherited hinherited
            refine .schema_bind ?_
            refine (noteFaults _ _).bind fun _ b₂ hl₁ _ =>
              (ih _).mono fun r' b₃ hl hrest hlast => ?_
            obtain ⟨made, hmade, hfound, hspoken⟩ := hrest hlast
            obtain ⟨_, ⟨⟩, ha⟩ := hm (hl₁.trans (hl.trans hlast))
            refine ⟨made ++ [a], .keep ha (by simpa using hfresh) ?_ hmade, ?_, fun n hn => ?_⟩
            · rw [← Attribute.isSome_find?, hinherited]
              rfl
            · rw [hfound, List.append_assoc, List.singleton_append]
            · rw [Attribute.isIn_concat]
              rcases hspoken n hn with hn | hn | hn
              · rcases List.mem_cons.1 hn with rfl | hn
                · exact .inr (.inl (.inr rfl))
                · exact .inl hn
              · exact .inr (.inl (.inl hn))
              · exact .inr (.inr hn)

theorem restrictsAttributes (scope : Scope) (base : List Attribute) (block : AttributeBlock) :
    b.Takes c limits .all (Schemata.restrictAttributes c limits scope base block) fun set b₁ =>
      b₁.Lasts e → ∃ made, AttributeItem.RestrictsEach s c scope base [] block.items made ∧
        Attribute.Completes base made ∧ set = Attribute.kept base made := by
  unfold Schemata.restrictAttributes
  refine (restrictsEachAttribute he scope base block.items {}).bind fun r b₁ _ hr => ?_
  refine (noteEach _ (fun _ => rfl) _).bind fun _ b₂ hl ⟨_, hfaults⟩ => .pure fun hlast => ?_
  obtain ⟨made, hmade, hfound, hspoken⟩ := hr (hl.trans hlast)
  rw [List.append_nil] at hfound
  have hnone := hfaults (hlast.clean he.clean)
  refine ⟨made, hmade, fun n a ha hrequired => ?_, by rw [Attribute.kept, hfound]⟩
  by_contra hnot
  have hspoken : n ∉ r.mentioned := fun hn => by
    rcases hspoken n hn with hn | hn | hn
    · cases hn
    · exact hnot hn
    · simp [attributeDeletionFaults, ha, hrequired] at hn
  have hleft : a ∈ leftOutAttributes base r := by
    obtain rfl := Attribute.name_of_find? ha
    refine List.mem_filter.2 ⟨Attribute.mem_of_find? ha, ?_⟩
    simp [hfound, hnot, hspoken, hrequired]
  rw [hnone] at hleft
  cases hleft

/-! ## Members -/

theorem holdsMember (base : Member) (item : ChildItem) :
    b.Takes c limits .all (Schemata.restrictOccurs base item) fun r b₁ => b₁.Lasts e →
      ∃ occurs, item.bounds? = some occurs ∧ r = some (base.held occurs) := by
  unfold Schemata.restrictOccurs
  refine bounds_bind he item fun occurs hbounds b₁ => ?_
  split
  · exact (require _ _ _).bind fun _ b₂ _ _ => (require _ _ _).bind fun _ b₃ _ _ =>
      .pure fun _ => ⟨occurs, hbounds, rfl⟩
  · rename_i hlist
    split
    · exact fault_pure he
    · refine (require _ _ _).bind fun _ b₂ _ _ => .pure fun _ => ⟨occurs, hbounds, ?_⟩
      cases base with
      | list label target bounds => exact (hlist label target bounds rfl).elim
      | _ => rfl

theorem keepsShape (base : Member) (span : Option Span) {Q : Option Member → Prop} :
    b.Takes c limits .all (Schemata.shapeDiffers base span) fun r b₁ => b₁.Lasts e → Q r :=
  fault_pure he

theorem restrictsElement (scope : Scope) (base : Element) (d : ElementDecl) (span : Option Span) :
    b.Takes c limits .all (Schemata.restrictInnerElement c limits scope base d span)
      fun e' b₁ => b₁.Lasts e → ∃ t, s.referent? c scope d.type = some (.type t) ∧
        e' = { base with type := t, isNullable := d.isNullable, span } := by
  unfold Schemata.restrictInnerElement
  refine (typeOf scope d.type).bind fun t b₁ _ hnames => .schema_bind ?_
  exact (require _ _ _).bind fun _ b₂ hl₁ _ => (require _ _ _).bind fun _ b₃ hl₂ _ =>
    .pure fun hlast => ⟨t, he.referent_type (hl₁.trans (hl₂.trans hlast)) hnames, rfl⟩

theorem restrictsReference (scope : Scope) (base : ElementId) (r : NameRef)
    (span : Option Span) :
    b.Takes c limits .all (Schemata.restrictReference c limits scope base r span)
      fun e' b₁ => b₁.Lasts e → ∃ i g, s.referent? c scope r = some (.element i) ∧
        s.element? i = some g ∧ e' = g.asReference i span := by
  unfold Schemata.restrictReference
  refine (elementReference scope r span).bind fun ⟨i, e'⟩ b₁ _ ⟨hnames, g, hg, he'⟩ =>
    .schema_bind ?_
  extract_lets baseName
  refine (require _ _ _).bind fun _ b₂ hl _ => .pure fun hlast => ⟨i, g, ?_, ?_, he'⟩
  · exact he.referent_element (hl.trans hlast) hnames
  · exact (he.element? i).trans ((hl.trans hlast).schema.element i g hg)

omit he in
theorem keepsMembers (kind : SetKind) (base : List Member) (span : Option Span)
    (r : RestrictedMembers) :
    b.Takes c limits .all (Schemata.finishRestriction kind base span r) fun ms b₁ =>
      ms = Member.kept base r.found ∧ (b₁.Clean → leftOutMembers kind base r = []) := by
  unfold Schemata.finishRestriction
  refine (noteEach _ (fun m => Fault.isError_diagnostic _ _) _).bind
    fun _ b₁ _ ⟨_, hfaults⟩ => ?_
  extract_lets members
  exact (require _ _ _).bind fun _ b₂ hl _ => .pure ⟨rfl, fun hclean => hfaults (hl.clean hclean)⟩

omit he in
/-- If no required member is left out, then all of them are made. -/
theorem completesMembers {kind : SetKind} {base made : List Member} {r : RestrictedMembers}
    (hfound : r.found = made)
    (hspoken : ∀ n ∈ r.mentioned, n ∈ ([] : List String) ∨ Member.isIn made n ∨
      memberDeletionFaults kind base n = [])
    (hleft : leftOutMembers kind base r = []) : Member.Completes kind base made := by
  intro n m hm hkind hrequired
  by_contra hnot
  have hspoken : n ∉ r.mentioned := fun hn => by
    rcases hspoken n hn with hn | hn | hn
    · cases hn
    · exact hnot hn
    · simp [memberDeletionFaults, hm, hkind, hrequired] at hn
  have hmem : m ∈ leftOutMembers kind base r := by
    obtain rfl := Member.name_of_find? hm
    refine List.mem_filter.2 ⟨Member.mem_of_find? hm, ?_⟩
    simp [hfound, hnot, hspoken, hkind, hrequired]
  rw [hleft] at hmem
  cases hmem

mutual

theorem restrictsSingle {b : Builder} (scope : Scope) (base : Member) (isOptional : Bool)
    (item : ChildItem) :
    b.Takes c limits .all (Schemata.restrictSingle c limits scope base isOptional item)
      fun r b₁ => b₁.Lasts e → ∃ m, r = some m ∧ item.Restricts s c scope base isOptional m := by
  unfold Schemata.restrictSingle
  cases item with
  | element d =>
    cases base with
    | element label e' o =>
      dsimp only
      split
      · exact keepsShape he _ _
      · refine (restrictsElement he scope e' d _).bind fun e'' b₁ _ he'' => .pure fun hlast => ?_
        obtain ⟨t, ht, rfl⟩ := he'' hlast
        exact ⟨_, rfl, .element ht⟩
    | set label kind members p => exact keepsShape he _ _
    | list label i o => exact keepsShape he _ _
  | reference u =>
    cases base with
    | element label e' o =>
      dsimp only
      split
      · exact keepsShape he _ _
      · refine (restrictsReference he scope _ u.reference _).bind fun e'' b₁ _ he'' =>
          .pure fun hlast => ?_
        obtain ⟨i, g, hi, hg, rfl⟩ := he'' hlast
        exact ⟨_, rfl, .reference hi hg⟩
    | set label kind members p => exact keepsShape he _ _
    | list label i o => exact keepsShape he _ _
  | set name kind items span bounds =>
    cases base with
    | element label e' o => exact keepsShape he _ _
    | set label baseKind members p =>
      dsimp only
      split
      · rename_i hkind
        subst hkind
        refine (restrictsEachMember scope kind members 0 items {}).bind fun r b₁ _ hr => ?_
        refine (keepsMembers kind members span r).bind
          fun ms b₂ hl ⟨hms, hleft⟩ => .pure fun hlast => ?_
        obtain ⟨made, hmade, hfound, hspoken⟩ := hr (hl.trans hlast)
        rw [List.append_nil] at hfound
        rw [hms, hfound]
        exact ⟨_, rfl, .set hmade (completesMembers hfound hspoken (hleft (hlast.clean he.clean)))⟩
      · exact keepsShape he _ _
    | list label i o => exact keepsShape he _ _
  | delete d => exact keepsShape he _ _

theorem restrictsEachMember {b : Builder} (scope : Scope) (kind : SetKind) (base : List Member)
    (order : Nat) (items : List ChildItem) (r : RestrictedMembers) :
    b.Takes c limits .all (Schemata.restrictEachMember c limits scope kind base order items r)
      fun r' b₁ => b₁.Lasts e → ∃ made,
        ChildItem.RestrictsEach s c scope kind base r.mentioned order items made ∧
        r'.found = made ++ r.found ∧
        ∀ n ∈ r'.mentioned, n ∈ r.mentioned ∨ Member.isIn made n ∨
          memberDeletionFaults kind base n = [] := by
  cases items with
  | nil =>
    unfold Schemata.restrictEachMember
    exact .pure fun _ => ⟨[], .nil, rfl, fun _ => .inl⟩
  | cons item rest =>
    unfold Schemata.restrictEachMember
    extract_lets name mentioned
    split
    · rename_i d
      refine (noteFaults _ _).bind fun _ b₁ _ ⟨_, hfaults⟩ =>
        (restrictsEachMember scope kind base (order + 1) rest _).mono
          fun r' b₂ hl hrest hlast => ?_
      obtain ⟨made, hmade, hfound, hspoken⟩ := hrest hlast
      have hallowed := hfaults ((hl.trans hlast).clean he.clean)
      refine ⟨made, .delete hallowed hmade, hfound, fun n hn => ?_⟩
      rcases hspoken n hn with hn | hn
      · rcases List.mem_cons.1 hn with rfl | hn
        · exact .inr (.inr hallowed)
        · exact .inl hn
      · exact .inr hn
    · split
      · exact fault_bind he fun _ => restrictsEachMember scope kind base (order + 1) rest _
      · rename_i hfresh
        split
        · exact fault_bind he fun _ => restrictsEachMember scope kind base (order + 1) rest _
        · rename_i inherited hinherited
          refine (holdsMember he inherited item).bind fun plan b₁ _ hplan => ?_
          cases plan with
          | none =>
            refine (restrictsEachMember scope kind base (order + 1) rest _).mono
              fun r' b₂ hl _ hlast => ?_
            obtain ⟨occurs, -, hnone⟩ := hplan (hl.trans hlast)
            cases hnone
          | some plan =>
            refine (restrictsSingle scope plan.target plan.isOptional item).bind
              fun m b₂ hl₂ hm => ?_
            cases m with
            | none =>
              refine (restrictsEachMember scope kind base (order + 1) rest _).mono
                fun r' b₃ hl _ hlast => ?_
              obtain ⟨m, hnone, -⟩ := hm (hl.trans hlast)
              cases hnone
            | some m =>
              refine (restrictsEachMember scope kind base (order + 1) rest _).mono
                fun r' b₃ hl hrest hlast => ?_
              obtain ⟨made, hmade, hfound, hspoken⟩ := hrest hlast
              obtain ⟨_, ⟨⟩, hm⟩ := hm (hl.trans hlast)
              obtain ⟨occurs, hbounds, hplan⟩ := hplan (hl₂.trans (hl.trans hlast))
              cases hplan
              refine ⟨made ++ [(inherited.held occurs).wrap inherited item.span m],
                .keep (by simpa using hfresh) hinherited hbounds hm hmade, ?_, fun n hn => ?_⟩
              · rw [hfound, List.append_assoc, List.singleton_append]
                rfl
              · rw [Member.isIn_concat, Member.name_wrap _ hm.name_eq,
                  Member.name_of_find? hinherited]
                rcases hspoken n hn with hn | hn | hn
                · rcases List.mem_cons.1 hn with rfl | hn
                  · exact .inr (.inl (.inr rfl))
                  · exact .inl hn
                · exact .inr (.inl (.inl hn))
                · exact .inr (.inr hn)

end

/-! ## Content -/

theorem restrictsChildren (scope : Scope) (base : Option Children) (d : ChildrenDecl) :
    b.Takes c limits .all (Schemata.restrictChildren c limits scope base d) fun x b₁ =>
      b₁.Lasts e → Children.Restriction s c scope base (some d) x := by
  unfold Schemata.restrictChildren
  split
  · exact fault_pure he
  · rename_i up r span
    refine (simpleTypeOf scope r).bind fun t b₁ _ ⟨hnames, _⟩ => .schema_bind ?_
    split
    · exact .pure fun hlast => .simple rfl (he.referent_type hlast hnames)
    · exact fault_pure he
  · rename_i inherited d
    split
    · rename_i hkind
      refine (restrictsEachMember he scope _ inherited.members 0 d.items {}).bind
        fun r b₁ _ hr => ?_
      refine (keepsMembers _ _ _ r).bind fun ms b₂ hl ⟨hms, hleft⟩ => .pure fun hlast => ?_
      obtain ⟨made, hmade, hfound, hspoken⟩ := hr (hl.trans hlast)
      rw [List.append_nil] at hfound
      rw [hms, hfound]
      exact .set rfl hkind hmade (completesMembers hfound hspoken (hleft (hlast.clean he.clean)))
    · exact fault_pure he
  · exact fault_pure he

theorem restrictsContent (scope : Scope) (base : ComplexContent) (facets : Option FacetBlock)
    (attributes : Option AttributeBlock) (children : Option ChildrenDecl) :
    b.Takes c limits .all
      (Schemata.restrictionContent c limits scope base facets attributes children) fun x b₁ =>
        b₁.Lasts e → base.Restriction s c scope attributes children x := by
  unfold Schemata.restrictionContent
  extract_lets jp jp'
  have hjp : ∀ r (b₁ : Builder),
      (b₁.Lasts e → Attribute.Restriction s c scope base.attributes attributes r) →
      b₁.Takes c limits .all (jp r) fun x b₂ => b₂.Lasts e →
        base.Restriction s c scope attributes children x := by
    intro r b₁ hr
    dsimp only [jp]
    cases children with
    | none => exact .pure fun hlast => ⟨hr hlast, .unspoken⟩
    | some d =>
      exact (restrictsChildren he scope base.children d).bind fun x b₂ hl hx =>
        .pure fun hlast => ⟨hr (hl.trans hlast), hx hlast⟩
  have hjp' : ∀ u (b₁ : Builder), b₁.Takes c limits .all (jp' u) fun x b₂ => b₂.Lasts e →
      base.Restriction s c scope attributes children x := by
    intro u b₁
    dsimp only [jp']
    cases attributes with
    | none => exact hjp _ b₁ fun _ => .unspoken
    | some block =>
      refine (restrictsAttributes he scope (base.attributes.getD []) block).map_bind
        fun r b₂ _ hr => hjp (some r) b₂ fun hlast => ?_
      obtain ⟨made, hmade, hcomplete, rfl⟩ := hr hlast
      exact .block hmade hcomplete
  cases facets with
  | none => exact hjp' () b
  | some block => exact fault_bind he fun b₁ => hjp' () b₁

end Takes

end Builder

end Schemata
