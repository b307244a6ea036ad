import Schemata.Proofs.Attributes

/-!
# Members of child sets

The sets that are made are sound at every level: names are distinct, and uses of global elements
are faithful. A restricted set narrows the set that it restricts unless an error is recorded. Items
nest, so the statements about one item and about several are proved together, by recursion on the
items; `Builder.GoodMembers` is what is known while the items of one set are gone through.
-/

namespace Schemata

namespace Member

theorem name_of_find? {members : List Member} {name : String} {m : Member}
    (h : find? members name = some m) : m.name = name := by
  simpa using List.find?_some h

theorem mem_of_find? {members : List Member} {name : String} {m : Member}
    (h : find? members name = some m) : m ∈ members :=
  List.mem_of_find?_eq_some h

theorem isIn_iff {members : List Member} {name : String} :
    isIn members name ↔ ∃ m, find? members name = some m := by
  rw [isIn, find?, ← Option.isSome_iff_exists, List.find?_isSome, List.any_eq_true]

theorem not_isIn_iff {members : List Member} {name : String} :
    isIn members name = false ↔ name ∉ members.map Member.name := by
  simp [isIn]

theorem Sound.atOrder {s : Schema} {m : Member} (h : m.Sound s) (order : Nat) :
    (m.atOrder order).Sound s := by
  cases m <;> exact h

theorem setSound_nil (s : Schema) : SetSound s [] :=
  ⟨List.nodup_nil, by simp⟩

theorem SetSound.mapIdx {s : Schema} {ms : List Member} (h : SetSound s ms) :
    SetSound s (ms.mapIdx fun i m => m.atOrder i) where
  names := by
    have hnames : (ms.mapIdx fun i m => m.atOrder i).map Member.name = ms.map Member.name :=
      List.ext_getElem (by simp) fun i _ _ => by simp [name_atOrder]
    rw [hnames]
    exact h.names
  members m hm := by
    obtain ⟨i, hi, rfl⟩ := List.mem_mapIdx.1 hm
    exact (h.members _ (List.getElem_mem hi)).atOrder i

theorem SetSound.concat {s : Schema} {ms : List Member} (h : SetSound s ms) {m : Member}
    (hm : m.Sound s) (hin : isIn ms m.name = false) : SetSound s (ms ++ [m]) where
  names := by
    rw [List.map_append, List.nodup_append_comm, List.map_singleton, List.singleton_append,
      List.nodup_cons]
    exact ⟨not_isIn_iff.1 hin, h.names⟩
  members x hx := by
    rcases List.mem_append.1 hx with hx | hx
    · exact h.members x hx
    · obtain rfl := List.mem_singleton.1 hx
      exact hm

end Member

theorem sound_elementMember {s : Schema} {label : MemberLabel} {e : Element} {occurs : Occurs}
    (he : e.Faithful s) (hl : e.referenced = none → label.name = e.name) :
    (elementMember label e occurs).Sound s := by
  unfold elementMember
  split <;> exact ⟨he, hl⟩

theorem sound_setMember {s : Schema} {label : MemberLabel} {kind : SetKind} {members : List Member}
    {span : Option Span} {occurs : Occurs} (h : Member.SetSound s members) :
    (setMember label kind members span occurs).Sound s := by
  unfold setMember
  split
  · exact Member.sound_set.2 h
  · exact (Member.sound_set (l := { label with order := 0 }) (k := kind) (p := span)).2 h

theorem faithful_of_inner {s : Schema} {e : Element} (h : e.referenced = none) : e.Faithful s := by
  intro id hid
  cases h.symm.trans hid

theorem faithful_asReference {s : Schema} {id : ElementId} {g : Element} {span : Option Span}
    (h : s.element? id = some g) : (g.asReference id span).Faithful s := by
  rintro _ ⟨⟩
  exact ⟨g, h, rfl⟩

/-- The member that comes of the one made under a plan, which is a list again if the base is. -/
def RestrictedMember.wrap (plan : RestrictedMember) (base : Member) (span : Option Span)
    (m : Member) : Member :=
  match plan.repeated with
  | none => m
  | some occurs => .list { base.label with span } m occurs

namespace Builder

variable {c : Catalog} {b b' : Builder} {limits : Limits}

namespace Ensures

/-! ## Members that are declared -/

theorem occursOf (item : ChildItem) : b.Ensures c (occursOf item) fun r b₁ =>
    (∃ l, b₁ = { b with ledger := l }) ∧ (r = none → ¬b₁.Clean) := by
  unfold Schemata.occursOf
  split
  · exact .pure ⟨⟨b.ledger, rfl⟩, fun h => by cases h⟩
  · extract_lets occurs
    split
    · exact .pure ⟨⟨b.ledger, rfl⟩, fun h => by cases h⟩
    · exact (note _).bind fun _ b₁ _ _ h => .pure ⟨h.1, fun _ => h.2 (Fault.isError_diagnostic _ _)⟩

theorem innerElement (scope : Scope) (d : ElementDecl) (span : Option Span) :
    b.Ensures c (innerElement c limits scope d span) fun e _ =>
      e.referenced = none ∧ e.name = d.name.text := by
  unfold Schemata.innerElement
  exact (typeOf scope d.type).bind fun _ _ _ _ _ => .pure ⟨rfl, rfl⟩

mutual

theorem makeMember {b : Builder} (scope : Scope) (order : Nat) (item : ChildItem) :
    b.Ensures c (makeMember c limits scope order item) fun r b₁ =>
      ∀ m, r = some m → m.Sound b₁.schema := by
  unfold Schemata.makeMember
  cases item with
  | element d =>
    refine (occursOf _).bind fun o b₁ _ _ _ => ?_
    cases o with
    | none => exact .pure fun _ h => by cases h
    | some occurs =>
      refine (innerElement scope d _).bind fun e b₂ _ _ ⟨he, hname⟩ => .pure ?_
      rintro _ ⟨⟩
      exact sound_elementMember (faithful_of_inner he) fun _ => hname.symm
  | reference u =>
    refine (occursOf _).bind fun o b₁ _ _ _ => ?_
    cases o with
    | none => exact .pure fun _ h => by cases h
    | some occurs =>
      refine (elementReference scope u.reference _).bind fun ⟨id, e⟩ b₂ _ _ ⟨g, hg, he⟩ => .pure ?_
      rintro _ ⟨⟩
      change e = _ at he
      rw [he]
      exact sound_elementMember (faithful_asReference hg) nofun
  | set name kind items span bounds =>
    refine (occursOf _).bind fun o b₁ _ _ _ => ?_
    cases o with
    | none => exact .pure fun _ h => by cases h
    | some occurs =>
      refine (addMembers scope items (Member.setSound_nil _)).bind
        fun members b₂ _ _ hm => .pure ?_
      rintro _ ⟨⟩
      exact sound_setMember hm
  | delete d => exact .pure fun _ h => by cases h

theorem addMembers {b : Builder} (scope : Scope) (items : List ChildItem) {members : List Member}
    (hm : Member.SetSound b.schema members) :
    b.Ensures c (addMembers c limits scope items members) fun r b₁ =>
      Member.SetSound b₁.schema r := by
  cases items with
  | nil =>
    unfold Schemata.addMembers
    exact .pure hm
  | cons item rest =>
    unfold Schemata.addMembers
    split
    · exact (note _).bind fun _ b₁ hg _ _ => addMembers scope rest (hm.mono hg.schema)
    · refine (makeMember scope members.length item).bind fun r b₁ hg _ hr => ?_
      have hm₁ := hm.mono hg.schema
      cases r with
      | none => exact addMembers scope rest hm₁
      | some m =>
        dsimp only
        split
        · exact (note _).bind fun _ b₂ hg₂ _ _ => addMembers scope rest (hm₁.mono hg₂.schema)
        · rename_i hin
          exact addMembers scope rest (hm₁.concat (hr m rfl) (by simpa using hin))

end

end Ensures

/-! ## Members that restrict others -/

/-- What an item is held against: the items of a list, within the bounds of the list, or the member
itself, which is absent only where it may be absent. -/
inductive Restricted (b : Builder) : Member → RestrictedMember → Prop
  | item {label : MemberLabel} {item : Member} {bounds occurs : Occurs}
      (within : b.Clean → occurs.restricts bounds) :
      Restricted b (.list label item bounds) ⟨item, false, some occurs⟩
  | self {base : Member} {isOptional : Bool} (optional : b.Clean → isOptional → base.isOptional) :
      Restricted b base ⟨base, isOptional, none⟩

theorem Restricted.target_sound {base : Member} {p : RestrictedMember} (h : b.Restricted base p)
    {s : Schema} (hs : base.Sound s) : p.target.Sound s := by
  cases h with
  | item within => exact hs
  | self optional => exact hs

namespace Ensures

theorem restrictOccurs (base : Member) (item : ChildItem) :
    b.Ensures c (restrictOccurs base item) fun r b₁ =>
      (r = none → ¬b₁.Clean) ∧ ∀ p, r = some p → b₁.Restricted base p := by
  unfold Schemata.restrictOccurs
  refine (occursOf item).bind fun o b₁ _ _ ⟨_, hnone⟩ => ?_
  cases o with
  | none => exact .pure ⟨fun _ => hnone rfl, fun _ h => by cases h⟩
  | some occurs =>
    dsimp only
    split
    · rename_i l target bounds
      refine (require _ _ _).bind fun _ b₂ _ _ ⟨_, hleast⟩ => ?_
      refine (require _ _ _).bind fun _ b₃ hg _ ⟨_, hmost⟩ => .pure ?_
      refine ⟨nofun, ?_⟩
      rintro _ ⟨⟩
      refine .item fun hc => ?_
      rw [Occurs.restricts, Bool.and_eq_true]
      exact ⟨hleast (hg.clean hc), hmost hc⟩
    · split
      · exact (note _).bind fun _ b₂ _ _ ⟨_, hne⟩ =>
          .pure ⟨fun _ => hne (Fault.isError_diagnostic _ _), fun _ h => by cases h⟩
      · refine (require _ _ _).bind fun _ b₂ _ _ ⟨_, hopt⟩ => .pure ⟨nofun, ?_⟩
        rintro _ ⟨⟩
        refine .self fun hc ho => ?_
        have hor := hopt hc
        rw [Bool.or_eq_true, Bool.not_eq_true', show (occurs.least == 0) = true from ho] at hor
        simpa using hor

theorem shapeDiffers (base : Member) (span : Option Span) :
    b.Ensures c (shapeDiffers base span) fun r b₁ => r = none ∧ ¬b₁.Clean := by
  unfold Schemata.shapeDiffers
  exact (note _).bind fun _ _ _ _ ⟨_, hne⟩ => .pure ⟨rfl, hne (Fault.isError_diagnostic _ _)⟩

theorem restrictInnerElement (scope : Scope) {base : Element} (hbase : base.referenced = none)
    (d : ElementDecl) (span : Option Span) :
    b.Ensures c (restrictInnerElement c limits scope base d span) fun e b₁ =>
      e.referenced = none ∧ e.name = base.name ∧ (b₁.Clean → e.Narrows b₁.schema base) := by
  unfold Schemata.restrictInnerElement
  refine (typeOf scope d.type).bind fun t b₁ _ _ _ => .schema_bind ?_
  refine (require _ _ _).bind fun _ b₂ hg₂ _ ⟨_, hnull⟩ => ?_
  refine (require _ _ _).bind fun _ b₃ hg₃ _ ⟨_, htype⟩ =>
    .pure ⟨hbase, rfl, fun hc => ?_⟩
  constructor
  · exact (hg₂.schema.trans hg₃.schema).derives (htype hc)
  · intro h
    have hor := hnull (hg₃.clean hc)
    rw [Bool.or_eq_true, Bool.not_eq_true', show d.isNullable = true from h] at hor
    simpa using hor
  · exact fun h => ⟨h, rfl, rfl⟩
  · intro head h
    cases hbase.symm.trans h

theorem restrictReference (scope : Scope) {base : Element} (hbase : base.Faithful b.schema)
    {id : ElementId} (hid : base.referenced = some id) (r : NameRef) (span : Option Span) :
    b.Ensures c (restrictReference c limits scope id r span) fun e b₁ =>
      e.Faithful b₁.schema ∧ e.referenced ≠ none ∧
        (b₁.Clean → e.Narrows b₁.schema base) := by
  unfold Schemata.restrictReference
  refine (elementReference scope r span).bind fun ⟨id', e⟩ b₁ hg₁ hb₁ ⟨g, hg, he⟩ => ?_
  change b₁.schema.element? id' = some g at hg
  change e = _ at he
  refine .schema_bind ?_
  extract_lets baseName
  refine (require _ _ _).bind fun _ b₂ hg₂ hb₂ ⟨_, hsub⟩ => .pure ?_
  have hg' := hg₂.schema.element id' g hg
  refine ⟨he ▸ faithful_asReference hg', by rw [he]; exact nofun, fun hc => ?_⟩
  obtain ⟨g₀, hg₀, hbase⟩ := hbase.mono (hg₁.schema.trans hg₂.schema) id hid
  have hs := hg₂.schema.substitutes (hsub hc)
  obtain ⟨htype, hnull⟩ := (hb₂.strict hc).of_substitutes hb₂ hs hg' hg₀
  rw [he, hbase]
  refine ⟨htype, hnull, nofun, ?_⟩
  rintro _ ⟨⟩
  exact ⟨id', rfl, hs⟩

end Ensures

/-- What is known while restricting items are gone through: what was found restricts the member of
its name in the base, and a name that was spoken of without anything found may be left out. -/
structure GoodMembers (b : Builder) (kind : SetKind) (base : List Member) (r : RestrictedMembers) :
    Prop where
  found : ∀ m ∈ r.found, m.Sound b.schema ∧ ∃ i, Member.find? base m.name = some i ∧
    (b.Clean → m.Narrows (Element.Narrows b.schema) i)
  mentioned : b.Clean → ∀ name ∈ r.mentioned, Member.isIn r.found name ∨
    ∀ i, Member.find? base name = some i → kind = .sequence → i.isOptional

namespace GoodMembers

variable {kind : SetKind} {base : List Member} {r : RestrictedMembers}

theorem start (b : Builder) (kind : SetKind) (base : List Member) : b.GoodMembers kind base {} :=
  ⟨by simp, by simp⟩

theorem mono (hg : b.Grows c b') (h : b.GoodMembers kind base r) : b'.GoodMembers kind base r where
  found m hm := by
    obtain ⟨hs, i, hi, hmi⟩ := h.found m hm
    exact ⟨hs.mono hg.schema, i, hi, fun hc =>
      (hmi (hg.clean hc)).mono fun _ _ h => h.mono hg.schema⟩
  mentioned hc := h.mentioned (hg.clean hc)

/-- A name may be spoken of without a result if an error is recorded or it may be left out. -/
theorem mention (h : b.GoodMembers kind base r) {name : String}
    (hname : b.Clean → ∀ i, Member.find? base name = some i → kind = .sequence → i.isOptional) :
    b.GoodMembers kind base { r with mentioned := name :: r.mentioned } where
  found := h.found
  mentioned hc := List.forall_mem_cons.2 ⟨Or.inr (hname hc), h.mentioned hc⟩

theorem add (h : b.GoodMembers kind base r) {m i : Member} (hs : m.Sound b.schema)
    (hi : Member.find? base m.name = some i)
    (hmi : b.Clean → m.Narrows (Element.Narrows b.schema) i) :
    b.GoodMembers kind base ⟨m.name :: r.mentioned, m :: r.found⟩ where
  found := List.forall_mem_cons.2 ⟨⟨hs, i, hi, hmi⟩, h.found⟩
  mentioned hc := by
    refine List.forall_mem_cons.2 ⟨Or.inl (by simp [Member.isIn]), fun name hname => ?_⟩
    refine (h.mentioned hc name hname).imp_left fun h => ?_
    simp only [Member.isIn, List.any_cons, Bool.or_eq_true] at h ⊢
    exact Or.inr h

end GoodMembers

end Builder

theorem mem_leftOutMembers {kind : SetKind} {base : List Member} {r : RestrictedMembers}
    {m : Member} : m ∈ leftOutMembers kind base r ↔ m ∈ base ∧ ¬Member.isIn r.found m.name ∧
      m.name ∉ r.mentioned ∧ kind = .sequence ∧ m.isOptional = false := by
  simp [leftOutMembers, and_assoc]

/-- Where each member has a counterpart or may be left out, the counterparts narrow the members. -/
theorem membersNarrow_filterMap {R : Element → Element → Prop} {kind : SetKind}
    {f : Member → Option Member} {ms : List Member} (hsome : ∀ m ∈ ms, ∀ x, f m = some x →
      x.Narrows R m) (hnone : ∀ m ∈ ms, f m = none → kind = .sequence → m.isOptional) :
    MembersNarrow R kind (ms.filterMap f) ms := by
  induction ms with
  | nil => exact .nil
  | cons m ms ih =>
    obtain ⟨hs, hsome⟩ := List.forall_mem_cons.1 hsome
    obtain ⟨hn, hnone⟩ := List.forall_mem_cons.1 hnone
    rw [List.filterMap_cons]
    cases h : f m with
    | none => exact .drop (hn h) (ih hsome hnone)
    | some x => exact .keep (hs x h) (ih hsome hnone)

namespace Builder.Ensures

variable {c : Catalog} {b : Builder} {limits : Limits}

theorem finishRestriction {kind : SetKind} {base : List Member} {r : RestrictedMembers}
    (hbase : (base.map Member.name).Nodup) (hr : b.GoodMembers kind base r)
    (span : Option Span) :
    b.Ensures c (finishRestriction kind base span r) fun ms b₁ => Member.SetSound b₁.schema ms ∧
      (b₁.Clean → MembersNarrow (Element.Narrows b₁.schema) kind ms base ∧
        (kind = .choice → base ≠ [] → ms ≠ [])) := by
  unfold Schemata.finishRestriction
  refine (noteEach _ (fun m => Fault.isError_diagnostic _ _) _).bind
    fun _ b₁ hg₁ _ ⟨_, hnil⟩ => ?_
  extract_lets members
  refine (require _ _ _).bind fun _ b₂ hg₂ _ ⟨_, hkept⟩ => .pure ?_
  have hr := (hr.mono hg₁.toGrows).mono hg₂.toGrows
  have hfind : ∀ i ∈ base, Member.find? base i.name = some i :=
    fun i hi => find?_name_of_mem Member.name hbase hi
  have hsound : Member.SetSound b₂.schema members := by
    refine ⟨(names_filterMap _ (fun i m h => Member.name_of_find? h) base).nodup hbase, ?_⟩
    intro m hm
    obtain ⟨i, -, hmi⟩ := List.mem_filterMap.1 hm
    exact (hr.found m (Member.mem_of_find? hmi)).1
  refine ⟨hsound.mapIdx, fun hc => ⟨?_, fun hk hne hempty => ?_⟩⟩
  · refine MembersNarrow.atOrder (membersNarrow_filterMap (fun i hi m hm => ?_)
      fun i hi hm hk => ?_) id
    · obtain ⟨-, j, hj, hmj⟩ := hr.found m (Member.mem_of_find? hm)
      rw [Member.name_of_find? hm, hfind i hi] at hj
      cases hj
      exact hmj hc
    · have hnot : ¬Member.isIn r.found i.name := by
        rw [Member.isIn_iff, hm]
        rintro ⟨_, ⟨⟩⟩
      by_contra hreq
      have hmem : i.name ∈ r.mentioned := by
        by_contra hleft
        have := mem_leftOutMembers.2 ⟨hi, hnot, hleft, hk, by simpa using hreq⟩
        rw [hnil (hg₂.clean hc)] at this
        cases this
      rcases hr.mentioned hc i.name hmem with h | h
      · exact hnot h
      · exact hreq (h i (hfind i hi) hk)
  · have := hkept hc
    have hm : members = [] := by simpa using congrArg List.length hempty
    simp [hk, hne, hm] at this

mutual

/-- The member that an item makes restricts a sound one, if it may be absent only where that may. -/
theorem restrictSingle {b : Builder} (scope : Scope) {base : Member} (hbase : base.Sound b.schema)
    (isOptional : Bool) (item : ChildItem) :
    b.Ensures c (restrictSingle c limits scope base isOptional item) fun r b₁ =>
      (r = none → ¬b₁.Clean) ∧ ∀ m, r = some m → m.Sound b₁.schema ∧ m.name = base.name ∧
        (b₁.Clean → (isOptional → base.isOptional) →
          m.Narrows (Element.Narrows b₁.schema) base) := by
  have hshape : ∀ {b : Builder} (span : Option Span), b.Ensures c (Schemata.shapeDiffers base span)
      fun r b₁ => (r = none → ¬b₁.Clean) ∧ ∀ m, r = some m → m.Sound b₁.schema ∧
        m.name = base.name ∧ (b₁.Clean → (isOptional → base.isOptional) →
          m.Narrows (Element.Narrows b₁.schema) base) := fun span =>
    (shapeDiffers base span).mono fun r b₁ _ _ ⟨hr, hne⟩ =>
      ⟨fun _ => hne, fun m hm => by cases hr.symm.trans hm⟩
  unfold Schemata.restrictSingle
  cases item with
  | element d =>
    cases base with
    | element label e o =>
      dsimp only
      split
      · exact hshape _
      · rename_i hnone
        refine (restrictInnerElement scope (by simpa using hnone) d _).bind
          fun e' b₁ _ _ ⟨hinner, hname, hn⟩ => .pure ⟨nofun, ?_⟩
        rintro _ ⟨⟩
        refine ⟨⟨faithful_of_inner hinner, fun _ => ?_⟩, rfl,
          fun hc ho => .element rfl (hn hc) ho⟩
        exact (hbase.2 (by simpa using hnone)).trans hname.symm
    | set label kind members p => exact hshape _
    | list label i o => exact hshape _
  | reference u =>
    cases base with
    | element label e o =>
      dsimp only
      split
      · exact hshape _
      · rename_i id hid
        refine (restrictReference scope hbase.1 hid u.reference _).bind
          fun e' b₁ _ _ ⟨hf, hsome, hn⟩ => .pure ⟨nofun, ?_⟩
        rintro _ ⟨⟩
        exact ⟨⟨hf, fun h => absurd h hsome⟩, rfl, fun hc ho => .element rfl (hn hc) ho⟩
    | set label kind members p => exact hshape _
    | list label i o => exact hshape _
  | set name kind items span bounds =>
    cases base with
    | element label e o => exact hshape _
    | set label baseKind members p =>
      dsimp only
      split
      · rename_i hk
        subst hk
        have hset := Member.sound_set.1 hbase
        refine (restrictEachMember scope hset 0 items (.start b kind members)).bind
          fun r b₁ _ _ hr => ?_
        refine (finishRestriction hset.names hr span).bind
          fun ms b₂ _ _ ⟨hs, hn⟩ => .pure ⟨nofun, ?_⟩
        rintro _ ⟨⟩
        exact ⟨Member.sound_set.2 hs, rfl, fun hc _ => .set rfl (hn hc).1 (hn hc).2⟩
      · exact hshape _
    | list label i o => exact hshape _
  | delete d => exact hshape _

theorem restrictEachMember {b : Builder} (scope : Scope) {kind : SetKind} {base : List Member}
    (hbase : Member.SetSound b.schema base) (order : Nat) (items : List ChildItem)
    {r : RestrictedMembers} (hr : b.GoodMembers kind base r) :
    b.Ensures c (restrictEachMember c limits scope kind base order items r) fun r b₁ =>
      b₁.GoodMembers kind base r := by
  cases items with
  | nil =>
    unfold Schemata.restrictEachMember
    exact .pure hr
  | cons item rest =>
    unfold Schemata.restrictEachMember
    extract_lets name mentioned
    split
    · refine (noteFaults _ _).bind fun _ b₁ hg _ ⟨_, hnil⟩ => ?_
      refine restrictEachMember scope (hbase.mono hg.schema) (order + 1) rest
        ((hr.mono hg.toGrows).mention fun hc i hi hk => ?_)
      have h := hnil hc
      simp only [memberDeletionFaults, hi] at h
      simpa [hk] using h
    · split
      · exact (note _).bind fun _ b₁ hg _ _ => restrictEachMember scope (hbase.mono hg.schema)
          (order + 1) rest (hr.mono hg.toGrows)
      · -- a name that an error is recorded for may be spoken of
        have hnote : ∀ {b₁ : Builder}, b.GrowsCalmly c b₁ → (¬b₁.Clean) → b₁.Ensures c
            (Schemata.restrictEachMember c limits scope kind base (order + 1) rest
              { r with mentioned }) fun r b₂ => b₂.GoodMembers kind base r :=
          fun hg hne => restrictEachMember scope (hbase.mono hg.schema) (order + 1) rest
            ((hr.mono hg.toGrows).mention fun hc => absurd hc hne)
        split
        · exact (note _).bind fun _ b₁ hg _ ⟨_, hne⟩ =>
            hnote hg (hne (Fault.isError_diagnostic _ _))
        · rename_i inherited hinherited
          have hin := hbase.members _ (Member.mem_of_find? hinherited)
          refine .of_inv fun hb => ?_
          refine (restrictOccurs inherited item).bind fun plan b₁ hg₁ hb₁ ⟨hnone, hplan⟩ => ?_
          cases plan with
          | none => exact hnote hg₁ (hnone rfl)
          | some plan =>
            have hplan := hplan plan rfl
            have htarget := hplan.target_sound (hin.mono hg₁.schema)
            refine (restrictSingle scope htarget plan.isOptional item).bind
              fun m b₂ hg₂ _ ⟨hnone₂, hm⟩ => ?_
            have hg := hg₁.trans hb hb₁ hg₂
            cases m with
            | none => exact hnote hg (hnone₂ rfl)
            | some m =>
              obtain ⟨hs, hname, hnarrow⟩ := hm m rfl
              have key : ∀ x : Member, x.Sound b₂.schema → x.name = inherited.name →
                  (b₂.Clean → x.Narrows (Element.Narrows b₂.schema) inherited) → b₂.Ensures c
                  (Schemata.restrictEachMember c limits scope kind base (order + 1) rest
                    ⟨mentioned, x :: r.found⟩) fun r b₃ => b₃.GoodMembers kind base r := by
                intro x hx hxname hxn
                have hxname := hxname.trans (Member.name_of_find? hinherited)
                apply restrictEachMember scope (hbase.mono hg.schema) (order + 1) rest
                have := (hr.mono hg.toGrows).add hx (hxname ▸ hinherited) hxn
                rwa [hxname] at this
              cases hplan with
              | item within =>
                refine key _ hs rfl fun hc => ?_
                exact .list rfl (hnarrow hc nofun) (within (hg₂.clean hc))
              | self optional =>
                exact key m hs hname fun hc => hnarrow hc (optional (hg₂.clean hc))

end

end Builder.Ensures

end Schemata
