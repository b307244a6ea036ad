import Schemata.Proofs.MemberRepeats
import Schemata.Proofs.Retention

/-!
# Deletions that are left out

A restriction drops what its block does not speak of. So a deletion may be left out where the rest of
the block does not keep the name: the run goes on as with it (`restrictEachMember_omit`,
`Takes.restrictAttributes_omit`), since what is found is the same and only the names that were spoken
of differ. One thing can come in between. A set without a name is named for its position, and where a
deletion before it is left out, it moves up and has another name. Members are therefore compared as
long as all items behind the deletion have names.

`ChildItem.Omits` and `TypeBody.Omits` say where a deletion is left out, at any level of a block.
-/

namespace Schemata

/-- An item has a name of its own, wherever it stands. -/
def ChildItem.IsNamed : ChildItem → Prop
  | .set none _ _ _ _ => False
  | _ => True

theorem ChildItem.IsNamed.memberName_eq {item : ChildItem} (h : item.IsNamed) (order order' : Nat) :
    item.memberName order = item.memberName order' := by
  cases item with
  | set name kind items span bounds =>
    cases name with
    | none => exact h.elim
    | some name => rfl
  | _ => rfl

theorem ChildItem.IsNamed.entry_eq {item : ChildItem} (h : item.IsNamed) (order order' : Nat) :
    item.entry order = item.entry order' := by
  cases item with
  | delete d => rfl
  | _ => exact congrArg Entry.keeps (h.memberName_eq order order')

/-- The items of a set say nothing of its name. -/
theorem ChildItem.memberName_set (name : Option Ident) (kind : SetKind) (items items' : List ChildItem)
    (span : Option Span) (bounds : Option OccursDecl) (order : Nat) :
    (ChildItem.set name kind items span bounds).memberName order =
      (ChildItem.set name kind items' span bounds).memberName order := by
  cases name <;> cases kind <;> rfl

theorem ChildItem.entries_eq {items : List ChildItem} (h : ∀ item ∈ items, item.IsNamed)
    (order order' : Nat) : entries order items = entries order' items := by
  induction items generalizing order order' with
  | nil => rfl
  | cons item rest ih =>
    obtain ⟨hitem, hrest⟩ := List.forall_mem_cons.1 h
    rw [entries, entries, hitem.entry_eq order order', ih hrest (order + 1) (order' + 1)]

theorem ChildItem.entries_append (order : Nat) (items rest : List ChildItem) :
    entries order (items ++ rest) = entries order items ++ entries (order + items.length) rest := by
  induction items generalizing order with
  | nil => rfl
  | cons item items ih =>
    rw [List.cons_append, entries, entries, ih, List.cons_append, List.length_cons,
      show order + (items.length + 1) = order + 1 + items.length by omega]

/-- The same names were spoken of, apart from one. -/
def AgreeBut (n : String) (names names' : List String) : Prop :=
  ∀ k, k ≠ n → (k ∈ names' ↔ k ∈ names)

namespace AgreeBut

variable {n : String} {names names' : List String}

theorem cons_self (n : String) (names : List String) : AgreeBut n names (n :: names) :=
  fun k hk => by rw [List.mem_cons, or_iff_right hk]

theorem symm (h : AgreeBut n names names') : AgreeBut n names' names := fun k hk => (h k hk).symm

theorem cons (h : AgreeBut n names names') (name : String) :
    AgreeBut n (name :: names) (name :: names') :=
  fun k hk => by rw [List.mem_cons, List.mem_cons, h k hk]

theorem contains_eq (h : AgreeBut n names names') {k : String} (hk : k ≠ n) :
    names'.contains k = names.contains k := by
  rw [Bool.eq_iff_iff, List.contains_iff_mem, List.contains_iff_mem, h k hk]

end AgreeBut

/-! ## The members of a set -/

/-- A member may be deleted from a set. -/
structure Member.Deletable (kind : SetKind) (base : List Member) (n : String) : Prop where
  known : isIn base n
  optional : ∀ m ∈ base, m.name = n → kind = .sequence → m.isOptional

theorem Member.Deletable.faults_eq_nil {kind : SetKind} {base : List Member} {n : String}
    (h : Member.Deletable kind base n) : memberDeletionFaults kind base n = [] := by
  obtain ⟨m, hm⟩ := Member.isIn_iff.1 h.known
  have hoptional := h.optional m (Member.mem_of_find? hm) (Member.name_of_find? hm)
  unfold memberDeletionFaults
  rw [hm]
  dsimp only
  rw [if_neg]
  rintro ⟨hkind, hnot⟩
  rw [hoptional hkind] at hnot
  cases hnot

section

variable {c : Catalog} {limits : Limits} {scope : Scope} {kind : SetKind} {base : List Member}
  {n : String}

theorem restrictEachMember_delete {order : Nat} {d : Deletion} {rest : List ChildItem}
    {r : RestrictedMembers} :
    restrictEachMember c limits scope kind base order (.delete d :: rest) r = (do
      (memberDeletionFaults kind base d.name.text).forM fun f =>
        Build.note (f.diagnostic (ChildItem.delete d).span)
      restrictEachMember c limits scope kind base (order + 1) rest
        { r with mentioned := d.name.text :: r.mentioned }) := by
  rw [restrictEachMember]
  rfl

theorem restrictEachMember_of_deletable {order : Nat} {d : Deletion} {rest : List ChildItem}
    {r : RestrictedMembers} (h : Member.Deletable kind base d.name.text) :
    restrictEachMember c limits scope kind base order (.delete d :: rest) r =
      restrictEachMember c limits scope kind base (order + 1) rest
        { r with mentioned := d.name.text :: r.mentioned } := by
  rw [restrictEachMember_delete, h.faults_eq_nil]
  rfl

/-- Items are gone through one part after the other. -/
theorem restrictEachMember_append {before rest : List ChildItem} {order : Nat}
    {r : RestrictedMembers} :
    restrictEachMember c limits scope kind base order (before ++ rest) r =
      restrictEachMember c limits scope kind base order before r >>=
        restrictEachMember c limits scope kind base (order + before.length) rest := by
  induction before generalizing order r with
  | nil =>
    rw [restrictEachMember]
    rfl
  | cons item before ih =>
    have hlength : order + (item :: before).length = order + 1 + before.length := by
      rw [List.length_cons]
      omega
    rw [List.cons_append, hlength]
    by_cases hitem : ∃ d, item = .delete d
    · obtain ⟨d, rfl⟩ := hitem
      rw [restrictEachMember_delete, restrictEachMember_delete, ih, bind_assoc]
    · have hitem : ∀ d, item ≠ .delete d := fun d hd => hitem ⟨d, hd⟩
      rw [restrictEachMember_cons hitem, restrictEachMember_cons hitem]
      dsimp only
      split
      · rw [ih, bind_assoc]
      · split
        · rw [ih, bind_assoc]
        · rw [bind_assoc]
          refine bind_congr fun plan => ?_
          cases plan with
          | none => exact ih
          | some plan =>
            dsimp only
            rw [bind_assoc]
            exact bind_congr fun m => ih

/-- Whether a name was spoken of does not matter to items that do not keep it. -/
theorem restrictEachMember_congr {α : Type} {items : List ChildItem}
    (hnamed : ∀ item ∈ items, item.IsNamed) {order order' : Nat}
    (hkeeps : .keeps n ∉ ChildItem.entries order items) {r : RestrictedMembers}
    {names : List String} (hr : AgreeBut n r.mentioned names) {k k' : RestrictedMembers → Build α}
    (hk : ∀ r names, AgreeBut n r.mentioned names → k r = k' { r with mentioned := names }) :
    restrictEachMember c limits scope kind base order items r >>= k =
      restrictEachMember c limits scope kind base order' items { r with mentioned := names } >>=
        k' := by
  induction items generalizing order order' r names with
  | nil =>
    rw [restrictEachMember, restrictEachMember, pure_bind, pure_bind]
    exact hk r names hr
  | cons item rest ih =>
    obtain ⟨hitem, hrest⟩ := List.forall_mem_cons.1 hnamed
    rw [ChildItem.entries, List.mem_cons, not_or] at hkeeps
    obtain ⟨hne, hkeeps⟩ := hkeeps
    have ih {r : RestrictedMembers} {names : List String} (hr : AgreeBut n r.mentioned names) :=
      @ih hrest (order + 1) (order' + 1) hkeeps r names hr
    by_cases hdelete : ∃ d, item = .delete d
    · obtain ⟨d, rfl⟩ := hdelete
      rw [restrictEachMember_delete, restrictEachMember_delete, bind_assoc, bind_assoc]
      exact bind_congr fun _ => ih (hr.cons d.name.text)
    · have hdelete : ∀ d, item ≠ .delete d := fun d hd => hdelete ⟨d, hd⟩
      rw [ChildItem.entry_of_not_delete hdelete, Entry.keeps.injEq] at hne
      rw [restrictEachMember_cons hdelete, restrictEachMember_cons hdelete]
      dsimp only
      rw [← hitem.memberName_eq order order', hr.contains_eq (Ne.symm hne)]
      split
      · rw [bind_assoc, bind_assoc]
        exact bind_congr fun _ => ih hr
      · split
        · rw [bind_assoc, bind_assoc]
          exact bind_congr fun _ => ih (hr.cons _)
        · rw [bind_assoc, bind_assoc]
          refine bind_congr fun plan => ?_
          cases plan with
          | none => exact ih (hr.cons _)
          | some plan =>
            dsimp only
            rw [bind_assoc, bind_assoc]
            exact bind_congr fun m => ih (hr.cons _)

theorem finishRestriction_congr (h : Member.Deletable kind base n) (span : Option Span)
    {r : RestrictedMembers} {names : List String} (hr : AgreeBut n r.mentioned names) :
    finishRestriction kind base span r =
      finishRestriction kind base span { r with mentioned := names } := by
  have hleft : leftOutMembers kind base { r with mentioned := names } =
      leftOutMembers kind base r := by
    unfold leftOutMembers
    refine List.filter_congr fun m hm => ?_
    by_cases hn : m.name = n
    · by_cases hkind : kind = .sequence
      · simp [h.optional m hm hn hkind]
      · simp [hkind]
    · rw [hr.contains_eq hn]
  unfold finishRestriction
  rw [hleft]

/-- A deletion is left out that the items behind it do not depend on. -/
theorem restrictMembers_delete (h : Member.Deletable kind base n) {before after : List ChildItem}
    {d : Deletion} (hd : d.name.text = n) (hnamed : ∀ item ∈ after, item.IsNamed)
    (hkeeps : .keeps n ∉ ChildItem.entries 0 (before ++ .delete d :: after)) (span : Option Span) :
    restrictEachMember c limits scope kind base 0 (before ++ .delete d :: after) {} >>=
        finishRestriction kind base span =
      restrictEachMember c limits scope kind base 0 (before ++ after) {} >>=
        finishRestriction kind base span := by
  rw [restrictEachMember_append, restrictEachMember_append, bind_assoc, bind_assoc]
  refine bind_congr fun r => ?_
  rw [restrictEachMember_of_deletable (hd ▸ h), hd]
  rw [ChildItem.entries_append, List.mem_append, not_or, ChildItem.entries, List.mem_cons,
    not_or] at hkeeps
  exact restrictEachMember_congr (r := { r with mentioned := n :: r.mentioned }) hnamed hkeeps.2.2
    (AgreeBut.cons_self n r.mentioned).symm fun r names hr => finishRestriction_congr h span hr

end

/-! ## Sets inside sets -/

/-- The set that names lead to from a set, one for each level. -/
def Member.reach? : SetKind × List Member → List String → Option (SetKind × List Member)
  | outer, [] => some outer
  | outer, name :: path => ((find? outer.2 name).bind innerSet?).bind (reach? · path)

/-- Items from which a deletion of a name is left out, in the set that names lead to. The rest of the
set does not keep what is deleted, and the items behind the deletion have names. -/
inductive ChildItem.Omits (n : String) : List String → List ChildItem → List ChildItem → Prop
  | here {before after : List ChildItem} {d : Deletion} (name : d.name.text = n)
    (unkept : .keeps n ∉ ChildItem.entries 0 (before ++ .delete d :: after))
    (named : ∀ item ∈ after, item.IsNamed) :
    Omits n [] (before ++ .delete d :: after) (before ++ after)
  | inside {before after items items' : List ChildItem} {name : Option Ident} {kind : SetKind}
    {span : Option Span} {bounds : Option OccursDecl} {path : List String}
    (omits : Omits n path items items') :
    Omits n ((ChildItem.set name kind items span bounds).memberName before.length :: path)
      (before ++ .set name kind items span bounds :: after)
      (before ++ .set name kind items' span bounds :: after)

section

variable {c : Catalog} {limits : Limits} {scope : Scope} {n : String}

/-- The bounds of an item decide nothing about the set that is restricted. -/
theorem restrictOccurs_bind_congr {α : Type} {base : Member} {item : ChildItem}
    {f f' : Option RestrictedMember → Build α} (hnone : f none = f' none)
    (hsome : ∀ plan, plan.target.innerSet? = base.innerSet? → f (some plan) = f' (some plan)) :
    restrictOccurs base item >>= f = restrictOccurs base item >>= f' := by
  unfold restrictOccurs
  rw [bind_assoc, bind_assoc]
  refine bind_congr fun occurs => ?_
  cases occurs with
  | none => exact hnone
  | some occurs =>
    dsimp only
    split
    · simp only [bind_assoc, pure_bind]
      rw [hsome _ rfl]
    · split
      · simp only [bind_assoc, pure_bind, hnone]
      · simp only [bind_assoc, pure_bind]
        rw [hsome _ rfl]

/-- The deletion may be left out at any level where it is allowed. -/
theorem restrictMembers_omit {path : List String} {items items' : List ChildItem}
    (h : ChildItem.Omits n path items items') {kind : SetKind} {base : List Member}
    (hreach : ∀ k ms, Member.reach? (kind, base) path = some (k, ms) → Member.Deletable k ms n)
    (span : Option Span) :
    restrictEachMember c limits scope kind base 0 items {} >>= finishRestriction kind base span =
      restrictEachMember c limits scope kind base 0 items' {} >>=
        finishRestriction kind base span := by
  induction h generalizing kind base span with
  | here name unkept named =>
    exact restrictMembers_delete (hreach kind base rfl) name named unkept span
  | @inside before after items items' name kind' place bounds path omits ih =>
    have hne (items : List ChildItem) : ∀ d, ChildItem.set name kind' items place bounds ≠ .delete d :=
      fun _ => nofun
    rw [restrictEachMember_append, restrictEachMember_append, bind_assoc, bind_assoc]
    refine bind_congr fun r => congrArg (fun m : Build RestrictedMembers => m >>= _) ?_
    rw [restrictEachMember_cons (hne items), restrictEachMember_cons (hne items')]
    dsimp only
    rw [ChildItem.memberName_set name kind' items' items]
    split
    · rfl
    · split
      · rfl
      · rename_i inherited hinherited
        refine restrictOccurs_bind_congr rfl fun plan hplan => ?_
        refine congrArg (fun m : Build (Option Member) => m >>= _) ?_
        unfold restrictSingle
        split
        · rename_i label baseKind members setSpan htarget
          split
          · rename_i hkind
            subst hkind
            rw [Nat.zero_add] at hinherited
            have hreach : ∀ k ms, Member.reach? (kind', members) path = some (k, ms) →
                Member.Deletable k ms n := fun k ms hms => hreach k ms <| by
              rw [Member.reach?, hinherited, Option.bind_some, ← hplan, htarget]
              exact hms
            rw [← bind_assoc, ← bind_assoc, ih hreach place]
          · rfl
        · rfl

end

/-! ## Attributes -/

/-- An attribute may be deleted. -/
structure Attribute.Deletable (base : List Attribute) (n : String) : Prop where
  known : isIn base n
  optional : ∀ a ∈ base, a.name = n → a.isOptional

theorem Attribute.Deletable.faults_eq_nil {base : List Attribute} {n : String}
    (h : Attribute.Deletable base n) : attributeDeletionFaults base n = [] := by
  obtain ⟨a, ha⟩ := Attribute.isIn_iff.1 h.known
  unfold attributeDeletionFaults
  rw [ha]
  dsimp only
  rw [if_pos (h.optional a (Attribute.mem_of_find? ha) (Attribute.name_of_find? ha))]

/-- The attributes that a block leaves out are the same ones. -/
theorem leftOutAttributes_congr {base : List Attribute} {n : String} (h : Attribute.Deletable base n)
    {r : RestrictedAttributes} {names : List String} (hr : AgreeBut n r.mentioned names) :
    leftOutAttributes base { r with mentioned := names } = leftOutAttributes base r := by
  unfold leftOutAttributes
  refine List.filter_congr fun a ha => ?_
  by_cases hn : a.name = n
  · simp [h.optional a ha hn]
  · rw [hr.contains_eq hn]

section

variable {c : Catalog} {limits : Limits} {scope : Scope} {base : List Attribute} {n : String}

theorem restrictEachAttribute_delete {d : Deletion} {rest : List AttributeItem}
    {r : RestrictedAttributes} :
    restrictEachAttribute c limits scope base (.delete d :: rest) r = (do
      (attributeDeletionFaults base d.name.text).forM fun f =>
        Build.note (f.diagnostic (AttributeItem.delete d).span)
      restrictEachAttribute c limits scope base rest
        { r with mentioned := d.name.text :: r.mentioned }) := rfl

/-- Entries are gone through one part after the other. -/
theorem restrictEachAttribute_append {before rest : List AttributeItem} {r : RestrictedAttributes} :
    restrictEachAttribute c limits scope base (before ++ rest) r =
      restrictEachAttribute c limits scope base before r >>=
        restrictEachAttribute c limits scope base rest := by
  induction before generalizing r with
  | nil => rfl
  | cons item before ih =>
    rw [List.cons_append]
    by_cases hitem : ∃ d, item = .delete d
    · obtain ⟨d, rfl⟩ := hitem
      rw [restrictEachAttribute_delete, restrictEachAttribute_delete, ih, bind_assoc]
    · have hitem : ∀ d, item ≠ .delete d := fun d hd => hitem ⟨d, hd⟩
      rw [restrictEachAttribute_cons hitem, restrictEachAttribute_cons hitem, bind_assoc]
      refine bind_congr fun m => ?_
      cases m with
      | none => exact ih
      | some a =>
        dsimp only
        split
        · rw [ih, bind_assoc]
        · split
          · rw [ih, bind_assoc]
          · simp only [ih, bind_assoc]

end

namespace Builder

variable {c : Catalog} {limits : Limits} {s : Schema} {b e : Builder} {n : String}

namespace Takes

/-- A run is one that comes to its end. -/
theorem and_run {α : Type} {k : Extent} {m : Build α} {Q : α → Builder → Prop}
    (h : b.Takes c limits k m Q) :
    b.Takes c limits k m fun a b₁ => Q a b₁ ∧ m.run b = .ok (a, b₁) := by
  intro hp
  refine ((h hp).and fun _ _ _ hrun => hrun).mono fun _ _ _ _ hQ => ?_
  exact ⟨hQ.1.1, hQ.1.2, hQ.2⟩

variable (he : e.Becomes c s) {scope : Scope}
  (hnames : ∀ (item : AttributeItem) a, item.attribute? s c scope = some a →
    item.entry = .keeps a.name)

include he hnames

/-- Whether a name was spoken of does not matter to entries that do not keep it. -/
theorem restrictEachAttribute_congr {base : List Attribute} {items : List AttributeItem}
    (hkeeps : .keeps n ∉ items.map AttributeItem.entry) {r : RestrictedAttributes}
    {names : List String} (hr : AgreeBut n r.mentioned names) :
    b.Takes c limits .all (Schemata.restrictEachAttribute c limits scope base items r) fun x b₁ =>
      b₁.Lasts e → ∃ names', AgreeBut n x.mentioned names' ∧
        (Schemata.restrictEachAttribute c limits scope base items { r with mentioned := names }).run
          b = .ok ({ x with mentioned := names' }, b₁) := by
  induction items generalizing b r names with
  | nil => exact .pure fun _ => ⟨names, hr, rfl⟩
  | cons item rest ih =>
    rw [List.map_cons, List.mem_cons, not_or] at hkeeps
    obtain ⟨hne, hkeeps⟩ := hkeeps
    by_cases hitem : ∃ d, item = .delete d
    · obtain ⟨d, rfl⟩ := hitem
      rw [restrictEachAttribute_delete, restrictEachAttribute_delete]
      refine (noteFaults _ _).and_run.bind fun _ b₁ _ ⟨_, hrun⟩ =>
        (ih hkeeps (hr.cons d.name.text)).mono fun x b₂ _ hx hlast => ?_
      obtain ⟨names', hagree, hx⟩ := hx hlast
      exact ⟨names', hagree, (run_bind_of_ok hrun).trans hx⟩
    · have hitem : ∀ d, item ≠ .delete d := fun d hd => hitem ⟨d, hd⟩
      simp only [restrictEachAttribute_cons hitem]
      refine (makesAttribute he scope hitem).and_run.bind fun m b₁ _ ⟨hm, hrun⟩ => ?_
      cases m with
      | none =>
        refine (ih hkeeps hr).mono fun _ b₂ hl _ hlast => ?_
        obtain ⟨a, ha, -⟩ := hm (hl.trans hlast)
        cases ha
      | some a =>
        -- what is made has the name that the entry keeps
        have hname (hlast : b₁.Lasts e) : a.name ≠ n := by
          obtain ⟨_, ⟨⟩, ha⟩ := hm hlast
          rintro rfl
          exact hne (hnames item a ha).symm
        dsimp only
        split
        · exact fault_bind he fun _ => ih hkeeps hr
        · rename_i hfresh
          split
          · exact fault_bind he fun _ => ih hkeeps (hr.cons a.name)
          · rename_i inherited hinherited
            refine .schema_bind ?_
            refine (noteFaults _ _).and_run.bind fun _ b₂ hl₁ ⟨_, hnote⟩ =>
              (ih hkeeps (hr.cons a.name)).mono fun x b₃ hl hx hlast => ?_
            obtain ⟨names', hagree, hx⟩ := hx hlast
            refine ⟨names', hagree, (run_bind_of_ok hrun).trans ?_⟩
            dsimp only
            rw [hr.contains_eq (hname (hl₁.trans (hl.trans hlast))), if_neg hfresh, hinherited]
            dsimp only
            rw [run_schema_bind]
            exact (run_bind_of_ok hnote).trans hx

/-- Blocks whose runs differ in what was spoken of behind some entries make the same attributes. -/
theorem restrictAttributes_congr {base : List Attribute} (h : Attribute.Deletable base n)
    {block block' : AttributeBlock} (hspan : block'.span = block.span)
    {before after : List AttributeItem} (hkeeps : .keeps n ∉ after.map AttributeItem.entry)
    {f f' : RestrictedAttributes → List String} (hf : ∀ r, AgreeBut n (f r) (f' r))
    (hblock : ∀ r, Schemata.restrictEachAttribute c limits scope base block.items r =
      Schemata.restrictEachAttribute c limits scope base before r >>= fun r =>
        Schemata.restrictEachAttribute c limits scope base after { r with mentioned := f r })
    (hblock' : ∀ r, Schemata.restrictEachAttribute c limits scope base block'.items r =
      Schemata.restrictEachAttribute c limits scope base before r >>= fun r =>
        Schemata.restrictEachAttribute c limits scope base after { r with mentioned := f' r }) :
    b.Takes c limits .all (Schemata.restrictAttributes c limits scope base block) fun set b₁ =>
      b₁.Lasts e →
        (Schemata.restrictAttributes c limits scope base block').run b = .ok (set, b₁) := by
  unfold Schemata.restrictAttributes
  rw [hblock, hblock', bind_assoc, bind_assoc, hspan]
  refine (restrictsEachAttribute he scope base before {}).and_run.bind fun r b₁ _ ⟨_, hrun⟩ => ?_
  refine (restrictEachAttribute_congr he hnames hkeeps (hf r)).bind fun x b₂ _ hx => ?_
  refine (noteEach _ (fun _ => rfl) _).and_run.bind fun _ b₃ hl ⟨_, hnote⟩ => .pure fun hlast => ?_
  obtain ⟨names, hagree, hx⟩ := hx (hl.trans hlast)
  refine (run_bind_of_ok hrun).trans ((run_bind_of_ok hx).trans ?_)
  dsimp only
  rw [leftOutAttributes_congr h hagree]
  exact run_bind_of_ok hnote

end Takes

end Builder

/-! ## Restrictions -/

/-- A part of the content of a type: its attributes, or the child set that names lead to. -/
inductive Site
  | attributes
  | members (path : List String)

/-- Restrictions that differ in one deletion of a name, which the second one leaves out. Nothing else
in the block keeps the name. -/
inductive TypeBody.Omits (n : String) : Site → TypeBody → TypeBody → Prop
  | attributes {r : NameRef} {facets : Option FacetBlock} {children : Option ChildrenDecl}
    {before after : List AttributeItem} {d : Deletion} {span : Option Span} (name : d.name.text = n)
    (unkept : .keeps n ∉ (before ++ .delete d :: after).map AttributeItem.entry) :
    Omits n .attributes
      (.restriction r facets (some ⟨before ++ .delete d :: after, span⟩) children)
      (.restriction r facets (some ⟨before ++ after, span⟩) children)
  | members {r : NameRef} {facets : Option FacetBlock} {attributes : Option AttributeBlock}
    {kind : SetKind} {items items' : List ChildItem} {span : Option Span} {path : List String}
    (omits : ChildItem.Omits n path items items') :
    Omits n (.members path)
      (.restriction r facets attributes (some (.set ⟨kind, items, span⟩)))
      (.restriction r facets attributes (some (.set ⟨kind, items', span⟩)))

/-- A name may be deleted from a part of the content of a type. -/
def ComplexContent.Deletable (x : ComplexContent) (n : String) : Site → Prop
  | .attributes => Attribute.Deletable (x.attributes.getD []) n
  | .members path => ∀ set, x.children = some (.set set) → ∀ kind ms,
      Member.reach? (set.kind, set.members) path = some (kind, ms) → Member.Deletable kind ms n

/-- The children are the same whether the deletion is there or not. -/
theorem restrictChildren_omit {c : Catalog} {limits : Limits} {scope : Scope} {n : String}
    {base : Option Children} {kind : SetKind} {path : List String} {items items' : List ChildItem}
    (h : ChildItem.Omits n path items items')
    (hsite : ∀ set, base = some (.set set) → ∀ kind ms,
      Member.reach? (set.kind, set.members) path = some (kind, ms) → Member.Deletable kind ms n)
    (span : Option Span) :
    restrictChildren c limits scope base (.set ⟨kind, items, span⟩) =
      restrictChildren c limits scope base (.set ⟨kind, items', span⟩) := by
  cases base with
  | none => rfl
  | some x =>
    cases x with
    | simple type => rfl
    | set inherited =>
      unfold restrictChildren
      dsimp only
      split
      · rw [← bind_assoc, ← bind_assoc, restrictMembers_omit h (hsite inherited rfl) span]
      · rfl

namespace Builder.Takes

variable {c : Catalog} {limits : Limits} {s : Schema} {b e : Builder} {n : String}
  (he : e.Becomes c s) {scope : Scope}
  (hnames : ∀ (item : AttributeItem) a, item.attribute? s c scope = some a →
    item.entry = .keeps a.name)

include he hnames

/-- The attributes are the same whether the deletion is there or not. -/
theorem restrictAttributes_omit {base : List Attribute} (h : Attribute.Deletable base n)
    {before after : List AttributeItem} {d : Deletion} (hd : d.name.text = n) {span : Option Span}
    (hkeeps : .keeps n ∉ (before ++ .delete d :: after).map AttributeItem.entry)
    {block block' : AttributeBlock}
    (hblocks : (block = ⟨before ++ .delete d :: after, span⟩ ∧ block' = ⟨before ++ after, span⟩) ∨
      (block = ⟨before ++ after, span⟩ ∧ block' = ⟨before ++ .delete d :: after, span⟩)) :
    b.Takes c limits .all (Schemata.restrictAttributes c limits scope base block) fun set b₁ =>
      b₁.Lasts e →
        (Schemata.restrictAttributes c limits scope base block').run b = .ok (set, b₁) := by
  have hafter : .keeps n ∉ after.map AttributeItem.entry := fun hmem => hkeeps <| by
    rw [List.map_append, List.map_cons]
    exact List.mem_append_right _ (List.mem_cons_of_mem _ hmem)
  have hwith (r : RestrictedAttributes) :
      Schemata.restrictEachAttribute c limits scope base (before ++ .delete d :: after) r =
        Schemata.restrictEachAttribute c limits scope base before r >>= fun r =>
          Schemata.restrictEachAttribute c limits scope base after
            { r with mentioned := n :: r.mentioned } := by
    rw [restrictEachAttribute_append]
    refine bind_congr fun r => ?_
    rw [restrictEachAttribute_delete, hd, h.faults_eq_nil]
    rfl
  have hwithout (r : RestrictedAttributes) :
      Schemata.restrictEachAttribute c limits scope base (before ++ after) r =
        Schemata.restrictEachAttribute c limits scope base before r >>= fun r =>
          Schemata.restrictEachAttribute c limits scope base after
            { r with mentioned := r.mentioned } := restrictEachAttribute_append
  have hspoken (r : RestrictedAttributes) : AgreeBut n r.mentioned (n :: r.mentioned) :=
    .cons_self n r.mentioned
  obtain ⟨rfl, rfl⟩ | ⟨rfl, rfl⟩ := hblocks
  · exact restrictAttributes_congr he hnames h rfl hafter (fun r => (hspoken r).symm) hwith hwithout
  · exact restrictAttributes_congr he hnames h rfl hafter hspoken hwithout hwith

omit hnames in
/-- What is made of attributes is followed by the same steps. -/
theorem restrictionContent_congr {base : ComplexContent} {facets : Option FacetBlock}
    {block block' : AttributeBlock} {children : Option ChildrenDecl}
    (hblocks : ∀ b : Builder, b.Takes c limits .all
      (Schemata.restrictAttributes c limits scope (base.attributes.getD []) block) fun set b₁ =>
        b₁.Lasts e → (Schemata.restrictAttributes c limits scope (base.attributes.getD [])
          block').run b = .ok (set, b₁)) :
    b.Takes c limits .all
      (Schemata.restrictionContent c limits scope base facets (some block) children) fun x b₁ =>
        b₁.Lasts e → (Schemata.restrictionContent c limits scope base facets (some block')
          children).run b = .ok (x, b₁) := by
  cases facets with
  | some f =>
    change b.Takes c limits .all (Build.note (Fault.facetsOnComplexType.diagnostic f.span) >>= fun _ =>
      Schemata.restrictionContent c limits scope base none (some block) children) _
    exact fault_bind he fun b₁ => restrictsContent he scope base none (some block) children
  | none =>
    -- the steps behind the attributes
    let rest (as : Option (List Attribute)) : Build ComplexContent :=
      children.elim (Pure.pure ⟨as, base.children⟩) fun d => do
        return ⟨as, ← Schemata.restrictChildren c limits scope base.children d⟩
    have hrest (as : Option (List Attribute)) (b : Builder) :
        b.Takes c limits .all (rest as) fun _ _ => True := by
      unfold rest
      cases children with
      | none => exact .pure trivial
      | some d => exact (restrictsChildren he scope _ d).bind fun _ _ _ _ => .pure trivial
    have hcontent (block : AttributeBlock) :
        Schemata.restrictionContent c limits scope base none (some block) children =
          Schemata.restrictAttributes c limits scope (base.attributes.getD []) block >>= fun as =>
            rest (some as) := by
      unfold rest
      cases children <;> exact bind_map_left _ _ _
    rw [hcontent, hcontent]
    refine (hblocks b).bind fun set b₁ _ hset => (hrest _ b₁).and_run.mono
      fun x b₂ hl ⟨_, hrun⟩ hlast => ?_
    exact (run_bind_of_ok (hset (hl.trans hlast))).trans hrun

/-- The content is the same whether the deletion is there or not. -/
theorem complexContent_omit {site : Site} {up : TypeId} {body body' : TypeBody}
    (h : body.Omits n site body' ∨ body'.Omits n site body)
    (hsite : ((b.schema.typeDef up).extended up).Deletable n site) :
    b.Takes c limits .all (Schemata.complexContent c limits scope up body) fun x b₁ =>
      b₁.Lasts e → (Schemata.complexContent c limits scope up body').run b = .ok (x, b₁) := by
  unfold Schemata.complexContent
  refine .schema_bind ?_
  simp only [run_schema_bind]
  rcases h with h | h
  all_goals
    cases h with
    | attributes name unkept =>
      exact restrictionContent_congr he fun b =>
        restrictAttributes_omit he hnames hsite name unkept (by tauto)
    | members omits =>
      refine (restrictsContent he scope _ _ _ _).and_run.mono fun x b₁ _ ⟨_, hrun⟩ _ => ?_
      unfold Schemata.restrictionContent at hrun ⊢
      simpa only [restrictChildren_omit omits hsite] using hrun

end Builder.Takes

end Schemata
