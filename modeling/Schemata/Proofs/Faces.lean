import Schemata.Proofs.Trees

/-!
# What objects may own

An object shows a face to its owner: its sort, and its name if it is an attribute. `Object.Fits`
says what the faces of the owned objects have to be, by the sort of the owner. It depends on nothing
else of the tree, so it can be said of an object before and after a step, and of a copy.

Each way to write an object keeps the face of it, and leaves an object that fits if what is taken
has the right face (`Object.Admits`).
-/

namespace Schemata

/-- What an owner looks at before it takes an object: the sort, and the name of an attribute. -/
structure Face where
  sort : ObjectSort
  name? : Option String
  deriving DecidableEq

/-- The face of an attribute. -/
def Face.attr (name : String) : Face := ⟨.attr, some name⟩

/-- An object shows the face of one of some sorts. -/
def IsAmong (face? : ObjectId → Option Face) (sorts : List ObjectSort) (y : ObjectId) : Prop :=
  ∃ p, face? y = some p ∧ p.sort ∈ sorts

theorem IsAmong.of_eq {face? face'? : ObjectId → Option Face} {sorts : List ObjectSort}
    {y z : ObjectId} (h : IsAmong face? sorts z) (heq : face'? y = face? z) :
    IsAmong face'? sorts y := by
  obtain ⟨p, hp, hsort⟩ := h
  exact ⟨p, heq.trans hp, hsort⟩

namespace Object

/-- The face of an object. -/
def face : Object → Face
  | .attr name _ => .attr name
  | o => ⟨o.sort, none⟩

/-- What an object owns is of the sorts that it may own. The attributes of a set have different
names. -/
def Fits (face? : ObjectId → Option Face) : Object → Prop
  | .simple _ _ => True
  | .complex _ attributes children =>
    (∀ y, attributes = some y → IsAmong face? [.attributeSet] y) ∧
      ∀ y, children = some y → IsAmong face? [.childSet, .simple] y
  | .attr _ slot => ∀ y, slot.value? = some y → IsAmong face? [.simple] y
  | .element _ slot => ∀ y, slot.value? = some y → IsAmong face? [.simple, .complex] y
  | .attributeSet items =>
    ∃ names : List String, names.Nodup ∧ items.map face? = names.map fun n => some (.attr n)
  | .childSet _ items => ∀ y ∈ items, IsAmong face? [.element, .childSet, .childList] y
  | .childList _ items => ∀ y ∈ items, IsAmong face? [.element, .childSet] y

variable {face? face'? : ObjectId → Option Face} {o o' : Object} {a : ObjectId}
  {f : ObjectId → ObjectId} {sorts : List ObjectSort}

theorem sort_face (o : Object) : o.face.sort = o.sort := by
  cases o <;> rfl

theorem face_mapOwned (f : ObjectId → ObjectId) (o : Object) : (o.mapOwned f).face = o.face := by
  cases o with
  | attr n s => cases s <;> rfl
  | element n s => cases s <;> rfl
  | _ => rfl

theorem face_withSlot (s : Slot) : (o.withSlot s).face = o.face := by
  cases o <;> rfl

theorem face_withItem : (o.withItem a).face = o.face := by
  cases o <;> rfl

theorem mapOwned_id (o : Object) : o.mapOwned id = o := by
  cases o with
  | attr n s => cases s <;> simp [mapOwned]
  | element n s => cases s <;> simp [mapOwned]
  | _ => simp [mapOwned]

/-! ## Objects that fit -/

theorem Fits.of_owned (h : o.owned = []) : o.Fits face? := by
  cases o with
  | simple => trivial
  | complex n as cs =>
    simp only [owned, List.append_eq_nil_iff, Option.toList_eq_nil_iff] at h
    refine ⟨fun y hy => ?_, fun y hy => ?_⟩
    · cases h.1.symm.trans hy
    · cases h.2.symm.trans hy
  | attr n s | element n s =>
    intro y hy
    cases s with
    | direct v =>
      obtain rfl : v = some y := hy
      cases h
    | reference g => cases hy
  | attributeSet items => exact ⟨[], List.nodup_nil, congrArg (List.map face?) h⟩
  | childSet n items | childList n items =>
    obtain rfl : items = [] := h
    exact List.forall_mem_nil _

/-- A reference owns nothing. -/
theorem Fits.of_target? {g : ObjectId} (h : o.target? = some g) : o.Fits face? := by
  refine .of_owned ?_
  cases o with
  | attr n s | element n s =>
    cases s with
    | direct v => cases h
    | reference g => rfl
  | _ => cases h

/-- An object fits as well if it owns other objects with the same faces. -/
theorem Fits.mapOwned (h : o.Fits face?) (hf : ∀ y ∈ o.owned, face'? (f y) = face? y) :
    (o.mapOwned f).Fits face'? := by
  have among : ∀ {sorts y}, y ∈ o.owned → IsAmong face? sorts y → IsAmong face'? sorts (f y) :=
    fun hy h => h.of_eq (hf _ hy)
  cases o with
  | simple => trivial
  | complex n as cs =>
    refine ⟨fun y hy => ?_, fun y hy => ?_⟩
    · obtain ⟨z, rfl, rfl⟩ := Option.map_eq_some_iff.1 hy
      exact among (by simp [owned]) (h.1 z rfl)
    · obtain ⟨z, rfl, rfl⟩ := Option.map_eq_some_iff.1 hy
      exact among (by simp [owned]) (h.2 z rfl)
  | attr n s | element n s =>
    cases s with
    | direct v =>
      intro y hy
      obtain ⟨z, rfl, rfl⟩ := Option.map_eq_some_iff.1 (show v.map f = some y from hy)
      exact among (by simp [owned]) (h z rfl)
    | reference g =>
      intro y hy
      cases hy
  | attributeSet items =>
    obtain ⟨names, hnames, heq⟩ := h
    refine ⟨names, hnames, ?_⟩
    rw [List.map_map, ← heq]
    exact List.map_congr_left hf
  | childSet n items | childList n items =>
    exact List.forall_mem_map.2 fun y hy => among hy (h y hy)

theorem Fits.congr (h : o.Fits face?) (hf : ∀ y ∈ o.owned, face'? y = face? y) :
    o.Fits face'? := by
  have hid := h.mapOwned (f := id) hf
  rwa [mapOwned_id] at hid

/-! ## Objects that take others -/

/-- An object has become one that fits if it did, whatever the faces are of the objects that it
neither owned nor takes. What it takes has the face of what it was given. -/
def Admits (face? : ObjectId → Option Face) (given new : Option ObjectId) (o o' : Object) : Prop :=
  ∀ face'? : ObjectId → Option Face, (∀ y ∈ o.owned, face'? y = face? y) →
    (∀ y z, new = some y → given = some z → face'? y = face? z) → o.Fits face'? → o'.Fits face'?

section Admits

variable {n : Option FullName} {as cs given new : Option ObjectId} {child : ObjectId}

theorem admits_withAttributes (h : IsAmong face? [.attributeSet] child) :
    Admits face? (some child) (some a) (.complex n as cs) ((complex n as cs).withAttributes a) := by
  intro face'? _ hnew hfits
  refine ⟨fun y hy => ?_, hfits.2⟩
  exact h.of_eq (hnew y child hy rfl)

theorem admits_withChildren (h : IsAmong face? [.childSet, .simple] child) :
    Admits face? (some child) (some a) (.complex n as cs) ((complex n as cs).withChildren a) := by
  intro face'? _ hnew hfits
  refine ⟨hfits.1, fun y hy => ?_⟩
  exact h.of_eq (hnew y child hy rfl)

/-- An attribute set takes an attribute of a name that none of its own has. -/
theorem admits_attribute {items : List ObjectId} {name : String}
    (hchild : face? child = some (.attr name))
    (hname : ∀ names : List String, (items.map face? = names.map fun n => some (.attr n)) →
      name ∉ names) :
    Admits face? (some child) (some a) (.attributeSet items) ((attributeSet items).withItem a) := by
  rintro face'? hsame hnew ⟨names, hnames, heq⟩
  refine ⟨names ++ [name], ?_, ?_⟩
  · refine List.nodup_append.2 ⟨hnames, List.nodup_singleton name, ?_⟩
    rintro n hn _ hm rfl
    have hfaces : items.map face'? = items.map face? := List.map_congr_left hsame
    exact hname names (hfaces.symm.trans heq) (List.mem_singleton.1 hm ▸ hn)
  · rw [List.map_append, List.map_append, heq, List.map_singleton, List.map_singleton,
      hnew a child rfl rfl, hchild]

/-- A child set or a child list takes a child of the sorts that it may own. -/
theorem admits_child (hsorts : Edit.childSorts o = some sorts) (h : IsAmong face? sorts child) :
    Admits face? (some child) (some a) o (o.withItem a) := by
  intro face'? _ hnew hfits
  have ha := h.of_eq (hnew a child rfl rfl)
  cases o with
  | childSet m items | childList m items =>
    cases hsorts
    exact List.forall_mem_append.2 ⟨hfits, List.forall_mem_singleton.2 ha⟩
  | _ => cases hsorts

/-- A slot takes nothing, or an object that is accepted as its value. -/
theorem admits_value {s : Slot} (hs : o.slot? = some s)
    (h : ∀ z, given = some z → ∃ p, face? z = some p ∧ Edit.acceptsValue o.sort p.sort)
    (hgiven : new.isSome → given.isSome) :
    Admits face? given new o (o.withSlot (.direct new)) := by
  intro face'? _ hnew _
  have hvalue : ∀ y, new = some y → ∃ p, face'? y = some p ∧ Edit.acceptsValue o.sort p.sort := by
    rintro y rfl
    obtain ⟨z, hz⟩ := Option.isSome_iff_exists.1 (hgiven rfl)
    obtain ⟨p, hp, haccepts⟩ := h z hz
    exact ⟨p, (hnew y z rfl hz).trans hp, haccepts⟩
  cases o with
  | attr n s' | element n s' =>
    intro y hy
    obtain ⟨p, hp, haccepts⟩ := hvalue y hy
    refine ⟨p, hp, ?_⟩
    simpa [Edit.acceptsValue, sort] using haccepts
  | _ => cases hs

end Admits

end Object

/-! ## Faces in a tree -/

namespace Tree

variable {t t' : Tree} {x y : ObjectId} {o : Object}

/-- The face of an object. -/
def face? (t : Tree) (id : ObjectId) : Option Face := (t.object? id).map (·.face)

theorem face?_eq (h : t.object? x = some o) : t.face? x = some o.face := by
  rw [face?, h, Option.map_some]

theorem face?_congr (h : t'.object? x = t.object? x) : t'.face? x = t.face? x := by
  rw [face?, h, face?]

theorem isAmong_iff {sorts : List ObjectSort} :
    IsAmong t.face? sorts x ↔ ∃ o, t.get x = .ok o ∧ o.sort ∈ sorts := by
  simp only [IsAmong, face?, Option.map_eq_some_iff, get_eq_ok]
  constructor
  · rintro ⟨_, ⟨o, ho, rfl⟩, hsort⟩
    exact ⟨o, ho, o.sort_face ▸ hsort⟩
  · rintro ⟨o, ho, hsort⟩
    exact ⟨_, ⟨o, ho, rfl⟩, o.sort_face.symm ▸ hsort⟩

/-- The first object of a name is looked for among attributes of other names in vain. -/
theorem not_mem_of_firstNamed {name : String} {items : List ObjectId} {names : List String}
    (h : items.map t.face? = names.map fun n => some (.attr n))
    (hfound : t.firstNamed name items = .ok none) : name ∉ names := by
  induction items generalizing names with
  | nil =>
    obtain rfl : names = [] := List.map_eq_nil_iff.1 h.symm
    exact List.not_mem_nil
  | cons item items ih =>
    cases names with
    | nil => cases h
    | cons n names =>
      rw [List.map_cons, List.map_cons, List.cons.injEq] at h
      obtain ⟨o, ho, hface⟩ := Option.map_eq_some_iff.1 h.1
      rw [firstNamed, get_eq_ok.2 ho] at hfound
      cases o with
      | attr n' s =>
        obtain rfl : n' = n := by simpa [Object.face, Face.attr] using hface
        simp only [bind, Except.bind] at hfound
        split at hfound
        · cases hfound
        · rename_i hne
          exact List.not_mem_cons_of_ne_of_not_mem (Ne.symm hne) (ih h.2 hfound)
      | _ => cases hface

end Tree

end Schemata
