import Schemata.Proofs.Attachments
import Schemata.Proofs.Faces
import Schemata.Proofs.WellFormed

/-!
# What an operation does

`Tree.Step` says what an operation may do to a well-formed tree: it leaves the tree, adds an object,
changes the place of one, attaches one, lets an owner exchange what it owned for what has been
attached to it, or lets a holder refer to another one. The last two make the one link that the
operation asks for (`Operation.link?`).

Every operation is refused and leaves the tree, or makes such a step (`attempts_perform`). What
every tree has that is built by operations follows from the steps: they keep trees well-formed, and
complete unless an object is given a parent by itself.
-/

namespace Schemata

namespace Object

variable {o o' : Object} {a : ObjectId} {s : Slot} {old new : Option ObjectId}

/-! ## Writing objects -/

/-- One part of what an object owns gives way to another one. -/
theorem Exchanges.of_split {l r : List ObjectId} (hsort : o'.sort = o.sort)
    (hd : o.owned.Nodup) (hnew : ∀ a, new = some a → a ∉ o.owned)
    (ho : o.owned = l ++ (old.toList ++ r)) (ho' : o'.owned = l ++ (new.toList ++ r)) :
    o.Exchanges old new o' where
  sort_eq := hsort
  mem_owned y := by
    rw [ho, List.nodup_append, List.nodup_append] at hd
    obtain ⟨-, ⟨-, -, hr⟩, hl⟩ := hd
    have hapart : old = some y → y ∉ l ∧ y ∉ r := by
      rintro rfl
      exact ⟨fun h => hl y h y (by simp) rfl, fun h => hr y (by simp) y h rfl⟩
    simp only [ho, ho', List.mem_append, Option.mem_toList]
    grind
  nodup_owned := by
    have hlr : (l ++ r).Nodup := hd.sublist (by rw [ho]; simp)
    rw [ho']
    cases new with
    | none => exact hlr
    | some a =>
      refine List.nodup_middle.2 (List.nodup_cons.2 ⟨fun ha => hnew a rfl ?_, hlr⟩)
      rw [ho]
      exact List.Sublist.subset (by simp) ha

theorem owned_of_slot? (hs : o.slot? = some s) : o.owned = s.value?.toList := by
  cases o with
  | attr n s' => cases hs; cases s <;> rfl
  | element n s' => cases hs; cases s <;> rfl
  | _ => cases hs

theorem mem_owned_of_slot? (hs : o.slot? = some s) : ∀ y, s.value? = some y → y ∈ o.owned := by
  intro y hy
  rw [owned_of_slot? hs, hy]
  exact List.mem_singleton_self y

theorem slot?_withSlot (hs : o.slot? = some s) (s' : Slot) : (o.withSlot s').slot? = some s' := by
  cases o with
  | attr | element => rfl
  | _ => cases hs

/-- What is in a slot gives way to what is put there. -/
theorem exchanges_withSlot (hs : o.slot? = some s) (s' : Slot) (hd : o.owned.Nodup)
    (hnew : ∀ a, s'.value? = some a → a ∉ o.owned) :
    o.Exchanges s.value? s'.value? (o.withSlot s') := by
  refine .of_split (l := []) (r := []) (by cases o <;> rfl) hd hnew ?_ ?_
  · rw [owned_of_slot? hs]
    simp
  · rw [owned_of_slot? (slot?_withSlot hs s')]
    simp

theorem owned_withItem (hi : o.items?.isSome) : (o.withItem a).owned = o.owned ++ [a] := by
  cases o with
  | attributeSet | childSet | childList => rfl
  | _ => cases hi

theorem target?_withItem (hi : o.items?.isSome) : (o.withItem a).target? = none := by
  cases o with
  | attributeSet | childSet | childList => rfl
  | _ => cases hi

/-- One more item takes the place of nothing. -/
theorem exchanges_withItem (hi : o.items?.isSome) (hd : o.owned.Nodup) (ha : a ∉ o.owned) :
    o.Exchanges none (some a) (o.withItem a) := by
  refine .of_split (l := o.owned) (r := []) (by cases o <;> rfl) hd ?_ ?_ ?_
  · exact fun b hb => Option.some.inj hb ▸ ha
  · simp
  · rw [owned_withItem hi]
    simp

/-- An attribute set takes the place of the one that there was. -/
theorem exchanges_withAttributes {n : Option FullName} {as cs : Option ObjectId}
    (hd : (complex n as cs).owned.Nodup) (ha : a ∉ (complex n as cs).owned) :
    (complex n as cs).Exchanges as (some a) ((complex n as cs).withAttributes a) :=
  .of_split (l := []) rfl hd (fun _ hb => Option.some.inj hb ▸ ha) rfl rfl

/-- Children take the place of those that there were. -/
theorem exchanges_withChildren {n : Option FullName} {as cs : Option ObjectId}
    (hd : (complex n as cs).owned.Nodup) (ha : a ∉ (complex n as cs).owned) :
    (complex n as cs).Exchanges cs (some a) ((complex n as cs).withChildren a) := by
  refine .of_split (l := as.toList) (r := []) rfl hd (fun _ hb => Option.some.inj hb ▸ ha) ?_ ?_
  · simp [owned]
  · simp [owned, withChildren]

end Object

/-- The link that an operation makes: an object, and the one that it is to own or to refer to. -/
def Operation.link? (t : Tree) : Operation → Option (ObjectId × ObjectId)
  | .setAttributes owner child | .setChildren owner child | .addAttribute owner child
  | .addChild owner child | .setReference owner child => some (owner, child)
  | .setValue holder (some value) =>
    match t.effective holder with
    | .ok owner => some (owner, value)
    | .error _ => none
  | _ => none

namespace Tree

variable {t t' t₁ : Tree} {op : Operation} {owner child item holder target : ObjectId}
  {given old new : Option ObjectId} {o : Object} {f : Object → Object}

/-! ## Steps -/

/-- What an operation may do to a tree. -/
inductive Step (t : Tree) (op : Operation) : Tree → Prop
  | keep : Step t op t
  | create {o : Object} (howned : o.owned = []) (htarget : o.target? = none) :
    Step t op (t.push { object := o }).2
  | place {id : ObjectId} {span : Span} : Step t op (t.withSpan id span)
  | attach {child parent a : ObjectId} {t' : Tree} (hop : op = .setParent child parent)
    (ha : t.Attaches child parent a t') : Step t op t'
  | exchange {owner : ObjectId} {given old new : Option ObjectId} {o : Object}
    {f : Object → Object} {t₁ : Tree} (hs : t.Supplies owner given new t₁)
    (hgiven : ∀ y, given = some y → op.link? t = some (owner, y))
    (ho : t₁.object? owner = some o) (hex : o.Exchanges old new (f o))
    (hold : ∀ y, old = some y → y ∈ o.owned) (htarget : (f o).target? = none)
    (hface : (f o).face = o.face) (hfits : o.Admits t.face? given new (f o)) :
    Step t op (t₁.exchanged owner old f)
  | refer {holder target : ObjectId} {old : Option ObjectId} {o : Object} {f : Object → Object}
    (hlink : op.link? t = some (holder, target)) (ho : t.object? holder = some o)
    (hex : o.Exchanges old none (f o)) (hold : ∀ y, old = some y → y ∈ o.owned)
    (htarget : (f o).target? = some target) (hsort : t.sort? target = t.sort? holder)
    (hapart : ∃ l, Trail t.target? target l ∧ holder ∉ l) (hface : (f o).face = o.face) :
    Step t op (t.exchanged holder old f)

namespace Step

theorem wellFormed (h : t.WellFormed) (hstep : t.Step op t') : t'.WellFormed := by
  cases hstep with
  | keep => exact h
  | create howned htarget => exact h.create howned htarget
  | place => exact h.withSpan _
  | attach _ ha => exact ha.wellFormed h
  | @exchange owner given old new o f t₁ hs _ ho hex hold htarget =>
    refine WellFormed.exchanged ho hex hold (hs.wellFormed h) (fun y hy => ?_) fun g hg => ?_
    · have hnot := hs.not_owns h hy owner
      exact ⟨hs.parent?_eq h hy, fun hy' => hnot ((owns_iff ho).2 (hold y hy'))⟩
    · cases htarget.symm.trans hg
  | refer _ ho hex hold htarget hsort hapart =>
    refine WellFormed.exchanged ho hex hold h (fun y hy => by cases hy) fun g hg => ?_
    obtain rfl := Option.some.inj (htarget.symm.trans hg)
    exact ⟨hsort, hapart⟩

/-- A step leaves no child that its parent does not own, unless it only gives it that parent. -/
theorem complete (h : t.WellFormed) (hc : t.Complete)
    (hop : ∀ child parent, op ≠ .setParent child parent) (hstep : t.Step op t') : t'.Complete := by
  cases hstep with
  | keep => exact hc
  | create howned =>
    intro x y hxy
    rw [parent?_push] at hxy
    have hx := hc x y hxy
    have hne : x ≠ ⟨t.size⟩ := fun e => Nat.lt_irrefl _ (e ▸ has_of_owns hx)
    exact (owns_congr ((object?_push _).trans (if_neg hne))).2 hx
  | place =>
    intro x y hxy
    rw [parent?_withSpan] at hxy
    exact (owns_congr (object?_withSpan _)).2 (hc x y hxy)
  | attach hop' => exact absurd hop' (hop _ _)
  | exchange hs _ ho hex hold =>
    exact complete_exchanged ho hex hold (hs.wellFormed h)
      (fun x y hxy => hs.owns_of_parent? h hc hxy) fun y hy => hs.parent?_eq h hy
  | refer _ ho hex hold =>
    exact complete_exchanged ho hex hold h (fun x y hxy => Or.inr (hc x y hxy)) fun y hy => by
      cases hy

end Step

/-! ## Operations make steps -/

theorem attempts_create (howned : o.owned = []) (htarget : o.target? = none) :
    t.Attempts (some <$> Edit.create o) fun _ t' => t.Step op t' :=
  .map (.of_completes ⟨_, _, rfl, .create howned htarget⟩)

theorem attempts_setSpan (id : ObjectId) (span : Span) :
    t.Attempts (Edit.setSpan id span) fun _ t' => t.Step op t' :=
  .ask_bind fun _ _ => .of_completes ⟨(), _, rfl, .place⟩

theorem completes_detach (hhas : ∀ y, old = some y → t.Has y) :
    t.Completes (Edit.detach old) fun _ t' => t' = t.detached old := by
  cases old with
  | none => exact .pure rfl
  | some y => exact .change (hhas y rfl) rfl

section Exchange

variable (h : t.WellFormed) (hs : t.Supplies owner given new t₁) (ho : t₁.object? owner = some o)
  (hold : ∀ y, old = some y → y ∈ o.owned)

include h hs ho hold

theorem completes_detach_supplied :
    t₁.Completes (Edit.detach old) fun _ t' => t' = t₁.detached old := by
  apply completes_detach
  intro y hy
  exact (hs.wellFormed h).has_of_owns ((owns_iff ho).2 (hold y hy))

/-- What is displaced by an object that was just attached is another one. -/
theorem completes_displace :
    t₁.Completes (Edit.displace old new) fun _ t' => t' = t₁.detached old := by
  unfold Edit.displace
  split
  · rename_i heq
    cases hy : old with
    | none => exact .pure rfl
    | some y =>
      have hnot := hs.not_owns h (heq ▸ hy) owner
      exact absurd ((owns_iff ho).2 (hold y hy)) hnot
  · exact completes_detach_supplied h hs ho hold

end Exchange

theorem completes_changeObject (old : Option ObjectId) (ho : t.object? owner = some o) :
    (t.detached old).Completes (Edit.changeObject owner f)
      fun _ t' => t' = t.exchanged owner old f :=
  .change (has_of_object? ((object?_detached old).trans ho)) rfl

theorem completes_writeSlot {s : Slot} (ho : t.object? owner = some o) (hs : o.slot? = some s)
    (s' : Slot) : (t.detached old).Completes (Edit.writeSlot owner s')
      fun _ t' => t' = t.exchanged owner old (Object.withSlot s') :=
  .ask_bind (slot_eq_ok.2 ⟨o, (object?_detached old).trans ho, hs⟩) (completes_changeObject old ho)

/-- The owner has the child already, or the child is attached and nothing can keep the owner from
exchanging the old object for it. -/
theorem attempts_replace_exchanged (h : t.WellFormed) (ho : t.object? owner = some o)
    (hold : ∀ y, old = some y → y ∈ o.owned) {write : ObjectId → Object → Object} :
    t.Attempts (Edit.replace owner child old write) fun a t' =>
      (old = some child ∧ a = child ∧ t' = t) ∨ old ≠ some child ∧
        ∃ t₁, t.Attaches child owner a t₁ ∧ t' = t₁.exchanged owner old (write a) := by
  unfold Edit.replace
  split
  · exact .pure (Or.inl ⟨‹_›, rfl, rfl⟩)
  · rename_i hne
    refine (attempts_setParent h child owner).bind fun a t₁ ha => ?_
    have hs : t.Supplies owner (some child) (some a) t₁ := .attached ha
    have ho₁ := hs.object?_eq h ho
    refine (completes_displace h hs ho₁ hold).bind ?_
    rintro _ _ rfl
    refine (completes_changeObject old ho₁).bind ?_
    rintro _ _ rfl
    exact .pure (Or.inr ⟨hne, t₁, ha, rfl⟩)

theorem attempts_replace (h : t.WellFormed) (hlink : op.link? t = some (owner, child))
    (ho : t.object? owner = some o) (hold : ∀ y, old = some y → y ∈ o.owned)
    {write : ObjectId → Object → Object}
    (hex : ∀ a, a ∉ o.owned → o.Exchanges old (some a) (write a o))
    (htarget : ∀ a, (write a o).target? = none) (hface : ∀ a, (write a o).face = o.face)
    (hfits : ∀ a, o.Admits t.face? (some child) (some a) (write a o)) :
    t.Attempts (Edit.replace owner child old write) fun _ t' => t.Step op t' := by
  refine (attempts_replace_exchanged h ho hold).mono ?_
  rintro a _ (⟨-, -, rfl⟩ | ⟨-, t₁, ha, rfl⟩)
  · exact .keep
  · have hs : t.Supplies owner (some child) (some a) t₁ := .attached ha
    have hex' := hex a (hs.not_mem_owned h ho rfl)
    exact .exchange hs (fun y hy => Option.some.inj hy ▸ hlink) (hs.object?_eq h ho) hex' hold
      (htarget a) (hface a) (hfits a)

theorem attempts_append_exchanged (h : t.WellFormed) (ho : t.object? owner = some o) :
    t.Attempts (Edit.append owner item) fun a t' =>
      ∃ t₁, t.Attaches item owner a t₁ ∧ t' = t₁.exchanged owner none (Object.withItem a) := by
  refine (attempts_setParent h item owner).bind fun a t₁ ha => ?_
  have hs : t.Supplies owner (some item) (some a) t₁ := .attached ha
  -- nothing is displaced, so the tree as it is counts as the one without the old object
  have hwrite : t₁.Completes (Edit.changeObject owner (Object.withItem a))
      fun _ t' => t' = t₁.exchanged owner none (Object.withItem a) :=
    completes_changeObject none (hs.object?_eq h ho)
  refine hwrite.bind ?_
  rintro _ _ rfl
  exact .pure ⟨t₁, ha, rfl⟩

theorem attempts_append (h : t.WellFormed) (hlink : op.link? t = some (owner, item))
    (ho : t.object? owner = some o) (hi : o.items?.isSome)
    (hfits : ∀ a, o.Admits t.face? (some item) (some a) (o.withItem a)) :
    t.Attempts (Edit.append owner item) fun _ t' => t.Step op t' := by
  refine (attempts_append_exchanged h ho).mono ?_
  rintro a _ ⟨t₁, ha, rfl⟩
  have hs : t.Supplies owner (some item) (some a) t₁ := .attached ha
  have hd := h.nodup_owned_of_object? ho
  have hex := Object.exchanges_withItem hi hd (hs.not_mem_owned h ho rfl)
  exact .exchange hs (fun y hy => Option.some.inj hy ▸ hlink) (hs.object?_eq h ho) hex (by simp)
    (Object.target?_withItem hi) Object.face_withItem (hfits a)

theorem attempts_expectSort {id : ObjectId} {accepted : List ObjectSort} {expected : String} :
    t.Attempts (Edit.expectSort id accepted expected)
      fun _ t' => IsAmong t.face? accepted id ∧ t' = t := by
  refine .ask_bind fun o ho => (Attempts.require _ _).mono fun _ _ ht => ⟨?_, ht.2⟩
  exact isAmong_iff.2 ⟨o, ho, by simpa using ht.1⟩

theorem attempts_complexParts {id : ObjectId} :
    t.Attempts (Edit.complexParts id) fun parts t' =>
      (∃ n, t.object? id = some (.complex n parts.1 parts.2)) ∧ t' = t := by
  refine .ask_bind fun o ho => ?_
  rw [get_eq_ok] at ho
  cases o with
  | complex n as cs => exact .pure ⟨⟨n, ho⟩, rfl⟩
  | _ => exact .refuse

theorem attempts_setAttributes (h : t.WellFormed) (complex set : ObjectId) :
    t.Attempts (Edit.setAttributes complex set)
      fun _ t' => t.Step (.setAttributes complex set) t' := by
  refine .check_bind attempts_expectSort fun _ hsort => .check_bind attempts_complexParts ?_
  rintro ⟨as, cs⟩ ⟨n, ho⟩
  have hd := h.nodup_owned_of_object? ho
  refine attempts_replace h rfl ho (fun y hy => ?_)
    (fun a ha => Object.exchanges_withAttributes hd ha) (fun a => rfl) (fun a => rfl)
    fun a => Object.admits_withAttributes hsort
  subst hy
  simp [Object.owned]

theorem attempts_setChildren (h : t.WellFormed) (complex children : ObjectId) :
    t.Attempts (Edit.setChildren complex children)
      fun _ t' => t.Step (.setChildren complex children) t' := by
  refine .check_bind attempts_expectSort fun _ hsort => .check_bind attempts_complexParts ?_
  rintro ⟨as, cs⟩ ⟨n, ho⟩
  have hd := h.nodup_owned_of_object? ho
  refine attempts_replace h rfl ho (fun y hy => ?_)
    (fun a ha => Object.exchanges_withChildren hd ha) (fun a => rfl) (fun a => rfl)
    fun a => Object.admits_withChildren hsort
  subst hy
  simp [Object.owned]

theorem attempts_addAttribute (h : t.WellFormed) (set item : ObjectId) :
    t.Attempts (Edit.addAttribute set item) fun _ t' => t.Step (.addAttribute set item) t' := by
  refine .ask_bind fun o ho => ?_
  cases o with
  | attr name _ =>
    refine .ask_bind fun o' ho' => ?_
    cases o' with
    | attributeSet items =>
      refine .ask_bind fun found hfound => .require_bind fun hnone => ?_
      obtain rfl := Option.isNone_iff_eq_none.1 hnone
      exact attempts_append h rfl (get_eq_ok.1 ho') rfl fun a =>
        Object.admits_attribute (face?_eq (get_eq_ok.1 ho)) fun names heq =>
          not_mem_of_firstNamed heq hfound
    | _ => exact .refuse
  | _ => exact .refuse

theorem isSome_items?_of_childSorts {sorts : List ObjectSort}
    (hc : Edit.childSorts o = some sorts) : o.items?.isSome := by
  cases o with
  | childSet | childList => rfl
  | _ => cases hc

theorem attempts_addChild (h : t.WellFormed) (container child : ObjectId) :
    t.Attempts (Edit.addChild container child)
      fun _ t' => t.Step (.addChild container child) t' := by
  refine .ask_bind fun c hchild => .ask_bind fun o ho => ?_
  cases hc : Edit.childSorts o with
  | none => exact .refuse
  | some sorts =>
    exact .require_bind fun hsort =>
      attempts_append h rfl (get_eq_ok.1 ho) (isSome_items?_of_childSorts hc) fun a =>
        Object.admits_child hc (isAmong_iff.2 ⟨c, hchild, by simpa using hsort⟩)

theorem attempts_expectValue (value : Option ObjectId) :
    t.Attempts (Edit.expectValue holder target value) fun _ t' => (∀ v, value = some v →
      ∃ o p, t.object? target = some o ∧ t.face? v = some p ∧ Edit.acceptsValue o.sort p.sort) ∧
        t' = t := by
  cases value with
  | none => exact .pure ⟨nofun, rfl⟩
  | some v =>
    refine .ask_bind fun o ho => .ask_bind fun w hw => ?_
    refine (Attempts.require _ _).mono fun _ _ ht => ⟨?_, ht.2⟩
    intro _ hv
    obtain rfl := Option.some.inj hv
    exact ⟨o, w.face, get_eq_ok.1 ho, face?_eq (get_eq_ok.1 hw), w.sort_face ▸ ht.1⟩

/-- The object for a slot, if there is one, is attached. -/
theorem attempts_supply (h : t.WellFormed) (owner : ObjectId) (value : Option ObjectId) :
    t.Attempts (value.mapM fun v => Edit.setParent v owner) (t.Supplies owner value) := by
  cases value with
  | none => exact .pure .nothing
  | some v =>
    exact (attempts_setParent h v owner).bind fun a t₁ ha => .pure (.attached ha)

/-- The holder that is written to has the value already, or it takes what has been attached to it in
place of what it held. -/
theorem attempts_setValue_exchanged (h : t.WellFormed) (holder : ObjectId)
    (value : Option ObjectId) : t.Attempts (Edit.setValue holder value) fun new t' =>
      ∃ owner o s, t.effective holder = .ok owner ∧ t.object? owner = some o ∧ o.slot? = some s ∧
        (∀ v, value = some v → ∃ p, t.face? v = some p ∧ Edit.acceptsValue o.sort p.sort) ∧
        (s.value? = value ∧ value.isSome ∧ new = value ∧ t' = t ∨
          ¬(value.isSome ∧ s.value? = value) ∧ ∃ t₁, t.Supplies owner value new t₁ ∧
            t' = t₁.exchanged owner s.value? (Object.withSlot (.direct new))) := by
  refine .ask_bind fun owner heff => .check_bind (attempts_expectValue value) fun _ hvalue => ?_
  refine .ask_bind fun s hslot => ?_
  obtain ⟨o, ho, hs⟩ := slot_eq_ok.1 hslot
  have haccepts : ∀ v, value = some v →
      ∃ p, t.face? v = some p ∧ Edit.acceptsValue o.sort p.sort := by
    intro v hv
    obtain ⟨o', p, ho', hp, haccepts⟩ := hvalue v hv
    obtain rfl := Option.some.inj (ho.symm.trans ho')
    exact ⟨p, hp, haccepts⟩
  have hold := Object.mem_owned_of_slot? hs
  simp only
  split
  · rename_i hkept
    simp only [Bool.and_eq_true, decide_eq_true_eq] at hkept
    obtain ⟨hsome, rfl⟩ := hkept
    exact .pure ⟨owner, o, s, heff, ho, hs, haccepts, Or.inl ⟨rfl, hsome, rfl, rfl⟩⟩
  · rename_i hnew
    refine (attempts_supply h owner value).bind fun new t₁ hsup => ?_
    have ho₁ := hsup.object?_eq h ho
    refine (completes_displace h hsup ho₁ hold).bind ?_
    rintro _ _ rfl
    refine (completes_writeSlot ho₁ hs (.direct new)).bind ?_
    rintro _ _ rfl
    refine .pure ⟨owner, o, s, heff, ho, hs, haccepts, Or.inr ⟨?_, t₁, hsup, rfl⟩⟩
    rintro ⟨hsome, rfl⟩
    simp [hsome] at hnew

theorem attempts_setValue (h : t.WellFormed) (holder : ObjectId) (value : Option ObjectId) :
    t.Attempts (Edit.setValue holder value) fun _ t' => t.Step (.setValue holder value) t' := by
  refine (attempts_setValue_exchanged h holder value).mono ?_
  rintro new _ ⟨owner, o, s, heff, ho, hs, haccepts, ⟨-, -, -, rfl⟩ | ⟨-, t₁, hsup, rfl⟩⟩
  · exact .keep
  · have hd := h.nodup_owned_of_object? ho
    have hex := Object.exchanges_withSlot hs (.direct new) hd fun a ha => hsup.not_mem_owned h ho ha
    refine .exchange hsup (fun y hy => ?_) (hsup.object?_eq h ho) hex
      (Object.mem_owned_of_slot? hs) ?_ (Object.face_withSlot _)
      (Object.admits_value hs haccepts hsup.isSome_given)
    · rw [hy, Operation.link?, heff]
    · rw [Object.target?, Object.slot?_withSlot hs, Option.bind_some]

/-- The holder refers to an object of its sort that does not refer to it. -/
theorem attempts_setReference_exchanged (h : t.WellFormed) (holder target : ObjectId) :
    t.Attempts (Edit.setReference holder target) fun _ t' => ∃ o s, t.object? holder = some o ∧
      o.slot? = some s ∧ t.sort? target = t.sort? holder ∧
      (∃ l, Trail t.target? target l ∧ holder ∉ l) ∧
      t' = t.exchanged holder s.value? (Object.withSlot (.reference target)) := by
  refine .ask_bind fun o ho => .ask_bind fun o' ho' => .require_bind fun hsort => ?_
  refine .ask_bind fun found hfound => .require_bind fun hnot => .ask_bind fun s hslot => ?_
  rw [get_eq_ok] at ho ho'
  obtain ⟨o₁, ho₁, hs⟩ := slot_eq_ok.1 hslot
  obtain rfl := Option.some.inj (ho.symm.trans ho₁)
  obtain rfl : found = false := by simpa using hnot
  refine .of_completes ?_
  refine (completes_detach_supplied h .nothing ho (Object.mem_owned_of_slot? hs)).bind ?_
  rintro _ _ rfl
  refine (completes_writeSlot ho hs (.reference target)).mono ?_
  rintro _ _ rfl
  obtain ⟨l, hl⟩ := h.references_end target
  have hapart := not_mem_of_refersTo hl (length_trail_le h hl) hfound
  refine ⟨o, s, ho, hs, ?_, ⟨l, hl, hapart⟩, rfl⟩
  rw [sort?_eq ho, sort?_eq ho', Option.some.injEq]
  simp only [Bool.and_eq_true, beq_iff_eq] at hsort
  exact hsort.1.symm

theorem attempts_setReference (h : t.WellFormed) (holder target : ObjectId) :
    t.Attempts (Edit.setReference holder target)
      fun _ t' => t.Step (.setReference holder target) t' := by
  refine (attempts_setReference_exchanged h holder target).mono ?_
  rintro _ _ ⟨o, s, ho, hs, hsort, hapart, rfl⟩
  have hd := h.nodup_owned_of_object? ho
  have hex := Object.exchanges_withSlot hs (.reference target) hd fun a ha => by cases ha
  have hrefers : (o.withSlot (.reference target)).target? = some target :=
    Object.target?_eq_some.2 (Object.slot?_withSlot hs _)
  exact .refer rfl ho hex (Object.mem_owned_of_slot? hs) hrefers hsort hapart
    (Object.face_withSlot _)

/-- An operation on a well-formed tree is refused and leaves the tree, or makes a step. -/
theorem attempts_perform (h : t.WellFormed) (op : Operation) :
    t.Attempts op.perform fun _ t' => t.Step op t' := by
  cases op with
  | newSimple | newComplex | newAttribute | newElement | newAttributeSet | newChildSet
  | newChildList => exact attempts_create rfl rfl
  | setSpan id span => exact .map (attempts_setSpan id span)
  | setParent child parent =>
    exact .map ((attempts_setParent h child parent).mono fun _ _ ha => .attach rfl ha)
  | setAttributes complex set => exact .map (attempts_setAttributes h complex set)
  | setChildren complex children => exact .map (attempts_setChildren h complex children)
  | addAttribute set item => exact .map (attempts_addAttribute h set item)
  | addChild container child => exact .map (attempts_addChild h container child)
  | setValue holder value => exact attempts_setValue h holder value
  | setReference holder target => exact .map (attempts_setReference h holder target)

theorem step_of_perform (h : t.WellFormed) (op : Operation) : t.Step op (t.perform op).2 := by
  rcases attempts_perform h op with ⟨fault, hrun⟩ | ⟨a, t', hrun, hstep⟩
  · rw [perform, hrun]
    exact .keep
  · rw [perform, hrun]
    exact hstep

theorem wellFormed_perform (h : t.WellFormed) (op : Operation) : (t.perform op).2.WellFormed :=
  (step_of_perform h op).wellFormed h

end Tree

end Schemata
