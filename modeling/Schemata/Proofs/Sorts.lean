import Schemata.Proofs.BuiltTrees
import Schemata.Proofs.Depths

/-!
# What is where in a tree

In a tree that is built by operations every object owns objects of the sorts that it may own, and
the attributes of an attribute set have different names (`Tree.Sorted`). The operations look at the
object that they are given, and it is a copy that they may put in its place, or another object than
the one named that they put it into; both show the same face (`Tree.Supplies.face?_eq`,
`Tree.face?_exchanged`).

What an attribute or an element refers to is of its own sort, so what is read at an attribute
through any chain of references is a value that an attribute may have (`Tree.sorts_of_built`).

The attributes of a complex object are an attribute set (`Tree.SetsAttributes`). With what is known
of well-formed trees every question that a validation asks has an answer: the items of a set or a
list, the attributes of a complex object, and the one of a given name (`Tree.exists_attributes`,
`Tree.exists_findAttribute`). They lead to objects of the tree, and an attribute that is found by its
name is one.
-/

namespace Schemata

namespace Tree

variable {t t' t₁ : Tree} {x y a child parent owner : ObjectId} {given new old : Option ObjectId}
  {op : Operation} {o : Object}

/-- Every object owns objects of the sorts that it may own. -/
def Sorted (t : Tree) : Prop := ∀ x o, t.object? x = some o → o.Fits t.face?

theorem sorted_empty : ({} : Tree).Sorted := by
  intro x o ho
  cases ho

/-- An object fits in a tree with the same faces of what it owns. -/
theorem Sorted.fits_congr (h : t.WellFormed) (hs : t.Sorted) (ho : t.object? x = some o)
    (hface : ∀ y, t.Has y → t'.face? y = t.face? y) : o.Fits t'.face? :=
  (hs x o ho).congr fun y hy => hface y (h.has_of_owns ((owns_iff ho).2 hy))

theorem Sorted.congr (hs : t.Sorted) (hobj : ∀ x, t'.object? x = t.object? x) : t'.Sorted := by
  intro x o ho
  refine (hs x o ((hobj x).symm.trans ho)).congr fun y _ => face?_congr (hobj y)

/-! ## Steps -/

theorem Sorted.create (h : t.WellFormed) (hs : t.Sorted) (howned : o.owned = []) :
    (t.push { object := o }).2.Sorted := by
  intro x o' ho'
  rw [object?_push] at ho'
  split at ho'
  · obtain rfl := Option.some.inj ho'
    exact .of_owned howned
  · refine hs.fits_congr h ho' fun y hy => face?_congr ?_
    rw [object?_push, if_neg]
    rintro rfl
    exact Nat.lt_irrefl _ hy

theorem face?_copied_of_copyOf (h : t.WellFormed) (hchild : t.Has child) {order : List ObjectId}
    (hs : t.Subtree child order) (hc : t.CopyOf order y x) :
    (t.copied order child).face? x = t.face? y := by
  rw [face?, object?_copied_of_copyOf h hchild hs hc, face?, Option.map_map]
  exact congrArg (Option.map · _) (funext (Object.face_mapOwned _))

namespace Frees

variable (h : t.WellFormed) (hchild : t.Has child) (hf : t.Frees child a t₁)

include h hchild hf

theorem face?_eq : t₁.face? a = t.face? child := by
  cases hf with
  | root => rfl
  | copy _ hs => exact face?_copied_of_copyOf h hchild hs (copyOf_root hs)

theorem sorted (hs : t.Sorted) : t₁.Sorted := by
  cases hf with
  | root => exact hs
  | copy _ hsub =>
    intro x o ho
    rcases exists_of_has_copied h hchild hsub (has_of_object? ho) with hx | ⟨y, hc⟩
    · rw [object?_copied_of_has h hchild hsub hx] at ho
      exact hs.fits_congr h ho fun y hy => face?_congr (object?_copied_of_has h hchild hsub hy)
    · rw [object?_copied_of_copyOf h hchild hsub hc] at ho
      obtain ⟨o', ho', rfl⟩ := Option.map_eq_some_iff.1 ho
      refine (hs y o' ho').mapOwned fun z hz => ?_
      -- what the original owns has been copied with it
      obtain ⟨w, hw⟩ := exists_copyOf hsub
        (hsub.closed y (mem_of_copyOf hsub hc) z ((owns_iff ho').2 hz))
      have hface := face?_copied_of_copyOf h hchild hsub hw
      rw [CopyOf] at hw
      rwa [hw, Option.getD_some]

end Frees

namespace Attaches

variable (h : t.WellFormed) (ha : t.Attaches child parent a t')

include h ha

theorem face?_eq : t'.face? a = t.face? child := by
  obtain ⟨t₁, hf, rfl⟩ := ha.result
  rw [face?_congr (object?_withParent _)]
  exact hf.face?_eq h ha.has_child

theorem sorted (hs : t.Sorted) : t'.Sorted := by
  obtain ⟨t₁, hf, rfl⟩ := ha.result
  exact (hf.sorted h ha.has_child hs).congr fun x => object?_withParent _

end Attaches

namespace Supplies

variable (h : t.WellFormed) (hsup : t.Supplies owner given new t₁)

include h hsup

theorem sorted (hs : t.Sorted) : t₁.Sorted := by
  cases hsup with
  | nothing => exact hs
  | attached ha => exact ha.sorted h hs

/-- What an owner takes has the face of what it was given. -/
theorem face?_eq {z : ObjectId} (hnew : new = some y) (hgiven : given = some z) :
    t₁.face? y = t.face? z := by
  cases hsup with
  | nothing => cases hnew
  | attached ha =>
    obtain rfl := Option.some.inj hnew
    obtain rfl := Option.some.inj hgiven
    exact ha.face?_eq h

theorem object?_owner (ho : t₁.object? owner = some o) : t.object? owner = some o := by
  cases hsup with
  | nothing => exact ho
  | attached ha => exact (ha.object?_of_has h ha.has_parent).symm.trans ho

/-- The objects that there were have the faces that they had. -/
theorem face?_of_has (hx : t.Has x) : t₁.face? x = t.face? x := by
  obtain ⟨o, ho⟩ := has_iff_object?.1 hx
  exact face?_congr ((hsup.object?_eq h ho).trans ho.symm)

end Supplies

section Exchanged

variable {f : Object → Object} (ho : t.object? owner = some o) (hface : (f o).face = o.face)

include ho hface

theorem face?_exchanged : (t.exchanged owner old f).face? x = t.face? x := by
  by_cases hx : x = owner
  · subst x
    rw [Tree.face?_eq (object?_exchanged_self ho), Tree.face?_eq ho, hface]
  · exact face?_congr (object?_exchanged_of_ne hx)

theorem Sorted.exchanged (hs : t.Sorted) (hfits : (f o).Fits t.face?) :
    (t.exchanged owner old f).Sorted := by
  have hfaces : ∀ {o' : Object}, o'.Fits t.face? → o'.Fits (t.exchanged owner old f).face? :=
    fun h => h.congr fun y _ => face?_exchanged ho hface
  intro x o' ho'
  by_cases hx : x = owner
  · subst x
    obtain rfl := Option.some.inj ((object?_exchanged_self ho).symm.trans ho')
    exact hfaces hfits
  · rw [object?_exchanged_of_ne hx] at ho'
    exact hfaces (hs x o' ho')

end Exchanged

theorem Step.sorted (h : t.WellFormed) (hs : t.Sorted) (hstep : t.Step op t') : t'.Sorted := by
  cases hstep with
  | keep => exact hs
  | create howned => exact hs.create h howned
  | place => exact hs.congr fun _ => object?_withSpan _
  | attach _ ha => exact ha.sorted h hs
  | @exchange owner given old new o f t₁ hsup _ ho hex _ _ hface hfits =>
    have hs₁ := hsup.sorted h hs
    refine hs₁.exchanged ho hface ?_
    refine hfits _ (fun y hy => ?_) (fun y z => hsup.face?_eq h) (hs₁ _ _ ho)
    have howns := (owns_iff (hsup.object?_owner h ho)).2 hy
    exact hsup.face?_of_has h (h.has_of_owns howns)
  | refer _ ho _ _ htarget _ _ hface =>
    exact hs.exchanged ho hface (.of_target? htarget)

theorem sorted_performAll (ops : List Operation) (h : t.WellFormed) (hs : t.Sorted) :
    (t.performAll ops).Sorted := by
  induction ops generalizing t with
  | nil => exact hs
  | cons op ops ih => exact ih (wellFormed_perform h op) ((step_of_perform h op).sorted h hs)

/-! ## Trees that are built -/

theorem sorted_of_built {ops : List Operation} (ht : performAll {} ops = t) : t.Sorted :=
  ht ▸ sorted_performAll ops wellFormed_empty sorted_empty

/-- What is read at an attribute is what the last one of its chain holds, and that is a value that
an attribute may have. -/
theorem Sorted.exists_valueOf (h : t.WellFormed) (hs : t.Sorted) {name : String} {s : Slot}
    (hx : t.get x = .ok (.attr name s)) :
    ∃ v, t.valueOf x = .ok v ∧ ∀ y, v = some y → ∃ n w, t.get y = .ok (.simple n w) := by
  rw [get_eq_ok] at hx
  obtain ⟨chain, e, v, -, hl, he, hv, -, hval, -⟩ := exists_chain h (slot_eq_ok.2 ⟨_, hx, rfl⟩)
  refine ⟨v, hval, ?_⟩
  rintro y rfl
  have hsort := (sort?_of_mem_trail h hl e (List.mem_of_getLast? he)).trans (sort?_eq hx)
  obtain ⟨o, ho, hslot⟩ := slot_eq_ok.1 hv
  cases o with
  | attr n s' =>
    cases hslot
    obtain ⟨o', ho', hsimple⟩ := isAmong_iff.1 (hs e _ ho y rfl)
    cases o' with
    | simple n w => exact ⟨n, w, ho'⟩
    | _ => simp [Object.sort] at hsimple
  | element => cases (sort?_eq ho).symm.trans hsort
  | _ => cases hslot

/-- In a tree that is built by operations what every object owns is of the sorts that it may own,
and the attributes of a set have different names. A reference leads from an attribute to an
attribute and from an element to an element, and an attribute reads null or a simple object, however
many references lead to it. -/
theorem sorts_of_built {ops : List Operation} (ht : performAll {} ops = t) :
    (∀ x o, t.get x = .ok o → o.Fits t.face?) ∧
    (∀ x y, t.slot x = .ok (.reference y) →
      t.sort? y = t.sort? x ∧ (t.sort? x = some .attr ∨ t.sort? x = some .element)) ∧
    ∀ x name s, t.get x = .ok (.attr name s) →
      ∃ v, t.valueOf x = .ok v ∧ ∀ y, v = some y → ∃ n w, t.get y = .ok (.simple n w) := by
  have h := wellFormed_of_built ht
  have hs := sorted_of_built ht
  refine ⟨fun x o ho => hs x o (get_eq_ok.1 ho), fun x y hxy => ⟨?_, exists_slot.1 ⟨_, hxy⟩⟩,
    fun x name s => hs.exists_valueOf h⟩
  exact h.sort_of_target x y (target?_eq_some.2 hxy)

/-- An attribute that refers to another one of the same set, and a value of a third attribute that
is set through the reference. -/
def loan : List Operation := [
  .newAttributeSet, .newAttribute "title", .newAttribute "name", .addAttribute ⟨0⟩ ⟨1⟩,
  .addAttribute ⟨0⟩ ⟨2⟩, .setReference ⟨1⟩ ⟨2⟩, .newAttribute "other",
  .newSimple none (.atomic (.string "x")), .setValue ⟨3⟩ (some ⟨4⟩), .setValue ⟨1⟩ (some ⟨4⟩)]

/-- The attributes of the set have different names, and both read a copy of the value. -/
theorem loan_sorts : ∃ names : List String, names.Nodup ∧
    [⟨1⟩, ⟨2⟩].map (performAll {} loan).face? = names.map (fun n => some (.attr n)) ∧
    (performAll {} loan).valueOf ⟨1⟩ = .ok (some ⟨5⟩) ∧
    ∃ n w, (performAll {} loan).get ⟨5⟩ = .ok (.simple n w) := by
  have hbuilt : performAll {} loan = performAll {} loan := rfl
  obtain ⟨hfits, -, hvalue⟩ := sorts_of_built hbuilt
  have hset : (performAll {} loan).get ⟨0⟩ = .ok (.attributeSet [⟨1⟩, ⟨2⟩]) := by rfl
  have htitle : (performAll {} loan).get ⟨1⟩ = .ok (.attr "title" (.reference ⟨2⟩)) := by rfl
  have hread : (performAll {} loan).valueOf ⟨1⟩ = .ok (some ⟨5⟩) := by decide +kernel
  obtain ⟨names, hnames, heq⟩ := hfits _ _ hset
  obtain ⟨v, hv, hsimple⟩ := hvalue _ _ _ htitle
  obtain rfl := Except.ok.inj (hv.symm.trans hread)
  exact ⟨names, hnames, heq, hread, hsimple _ rfl⟩

end Tree

/-! ## Attribute sets -/

open Relation

namespace Tree

variable {t : Tree} {x y : ObjectId}

/-- The attributes of a complex object are an attribute set. -/
def SetsAttributes (t : Tree) : Prop :=
  ∀ x set, t.attributeSet? x = some set → t.sort? set = some .attributeSet

theorem setsAttributes_of_built {ops : List Operation} (ht : performAll {} ops = t) :
    t.SetsAttributes := by
  intro x set hset
  obtain ⟨o, ho, hset⟩ := Option.bind_eq_some_iff.1 hset
  have hfits := sorted_of_built ht x o ho
  cases o with
  | complex n as cs =>
    obtain ⟨o', ho', hsort⟩ := isAmong_iff.1 (hfits.1 set hset)
    rw [sort?_eq (get_eq_ok.1 ho'), List.mem_singleton.1 hsort]
  | _ => cases hset

/-! ## Questions that are answered -/

theorem exists_get (hx : t.Has x) : ∃ o, t.get x = .ok o := by
  obtain ⟨o, ho⟩ := has_iff_object?.1 hx
  exact ⟨o, get_eq_ok.2 ho⟩

theorem has_of_transGen (h : t.WellFormed) (hxy : TransGen t.Leads x y) : t.Has y := by
  obtain ⟨z, -, hzy⟩ := TransGen.tail'_iff.1 hxy
  exact h.has_of_leads hzy

theorem exists_items {o : Object} {ids : List ObjectId} (ho : t.object? x = some o)
    (hids : o.items? = some ids) : t.items x = .ok ids := by
  simp only [items, get_eq_ok.2 ho, bind, Except.bind, hids]

/-- The attributes of a complex object are found. -/
theorem exists_attributes (hs : t.SetsAttributes) {n : Option FullName}
    {as cs : Option ObjectId} (ho : t.object? x = some (.complex n as cs)) :
    ∃ ids, t.attributes x = .ok ids := by
  cases as with
  | none =>
    refine ⟨[], ?_⟩
    rw [attributes, get_eq_ok.2 ho]
    rfl
  | some set =>
    obtain ⟨o, hset, hsort⟩ := Option.map_eq_some_iff.1 (hs x set (attributeSet?_eq ho))
    cases o with
    | attributeSet ids =>
      refine ⟨ids, ?_⟩
      rw [attributes, get_eq_ok.2 ho]
      exact exists_items hset rfl
    | _ => cases hsort

/-- A complex object has an attribute of a name, or it has none. -/
theorem exists_findAttribute (h : t.WellFormed) {ids : List ObjectId}
    (hids : t.attributes x = .ok ids) (name : String) :
    ∃ found, t.findAttribute x name = .ok found ∧
      ∀ y, found = some y → ∃ s, t.slot y = .ok s := by
  have hget : ∀ y ∈ ids, ∃ o, t.get y = .ok o := fun y hy =>
    exists_get (has_of_transGen h (leads_of_attributes hids hy))
  obtain ⟨found, hfound⟩ := firstNamed_ok hget name
  rw [← findAttribute_eq hids] at hfound
  refine ⟨found, hfound, ?_⟩
  rintro y rfl
  obtain ⟨-, s, ho⟩ := findAttribute_eq_some hids hfound
  exact ⟨s, slot_eq_ok.2 ⟨_, get_eq_ok.1 ho, rfl⟩⟩

/-- An attribute or an element reads a value, or null. -/
theorem exists_valueOf (h : t.WellFormed) {s : Slot} (hs : t.slot x = .ok s) :
    ∃ v, t.valueOf x = .ok v ∧ ∀ y, v = some y → t.Has y := by
  obtain ⟨-, -, v, -, -, -, -, -, hv, -⟩ := exists_chain h hs
  refine ⟨v, hv, ?_⟩
  rintro y rfl
  exact has_of_transGen h (leads_of_valueOf hv)

end Tree

end Schemata
