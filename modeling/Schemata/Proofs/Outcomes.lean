import Schemata.Proofs.Sorts

/-!
# Validations that come to an end

The walk of a validation asks the tree again and again, and each question could end it. In a tree
that is built by operations none does: a visit demands of an object only what the object can answer
(`Demand.Fits`), so that a walk from an object of the tree comes to an end, and all that it records
is what it finds wrong with objects of the tree (`Walk.Concludes`). As references come to an end, it
finds none that is broken.
-/

namespace Schemata

open Relation

/-- Something that is wrong with an object. -/
structure Found where
  object : ObjectId
  finding : Finding

namespace Found

/-- What is recorded of a finding. -/
def diagnostic (mode : Mode) (t : Tree) (f : Found) : Diagnostic :=
  f.finding.diagnostic mode t f.object

/-- It is wrong with an object of the tree, and it is not that the object refers in a circle. -/
def Plain (t : Tree) (f : Found) : Prop :=
  t.Has f.object ∧ ∀ fault, f.finding ≠ .brokenReference fault

end Found

/-- What a demand takes for granted of an object. -/
def Demand.Fits (t : Tree) (id : ObjectId) : Demand → Prop
  | .instanceOf _ => t.Has id
  | .holderOf _ _ | .element _ => ∃ s, t.slot id = .ok s
  | .childSet _ | .childList _ _ => ∃ ids, t.items id = .ok ids

namespace Tree

variable {t : Tree} {x y : ObjectId}

theorem has_of_slot {s : Slot} (hs : t.slot x = .ok s) : t.Has x := by
  obtain ⟨o, ho, -⟩ := slot_eq_ok.1 hs
  exact has_of_object? ho

/-- Only the number or the sort of an object can keep it from having a slot. -/
theorem family_of_slot {fault : TreeFault} (hs : t.slot x = .error fault) :
    fault.family = .invalidObject := by
  cases hn : t.node? x with
  | none =>
    have hget : t.get x = .error (.unknown x) := by rw [get, hn]
    rw [slot, hget] at hs
    cases hs
    rfl
  | some n =>
    have hget : t.get x = .ok n.object := by rw [get, hn]
    simp only [slot, hget, bind, Except.bind] at hs
    split at hs
    · cases hs
    · cases hs
      rfl

/-- No chain of references leads in a circle. -/
theorem family_of_referenceDepth (h : t.WellFormed) {fault : TreeFault}
    (hd : t.referenceDepth x = .error fault) : fault.family ≠ .circularReference := by
  cases hs : t.slot x with
  | ok s =>
    obtain ⟨-, -, -, depth, -, -, -, -, -, -, hdepth⟩ := exists_chain h hs
    cases hdepth.symm.trans hd
  | error fault' =>
    have heff : t.effective x = .error fault' := by
      rw [effective, followReferences, hs]
      rfl
    rw [referenceDepth, heff] at hd
    cases hd
    rw [family_of_slot hs]
    decide

theorem has_of_items {ids : List ObjectId} (hids : t.items x = .ok ids) : t.Has x := by
  obtain ⟨o, ho, -⟩ := bind_eq_ok hids
  exact has_of_object? (get_eq_ok.1 ho)

end Tree

theorem Demand.Fits.has {t : Tree} {id : ObjectId} {d : Demand} (h : d.Fits t id) : t.Has id := by
  cases d with
  | instanceOf => exact h
  | holderOf | element => exact Tree.has_of_slot h.choose_spec
  | childSet | childList => exact Tree.has_of_items h.choose_spec

namespace Schema

variable {s : Schema} {t : Tree} {id : ObjectId} {o : Object} {m : Member} {d : Demand}

/-- Elements hold something. -/
theorem fits_element {name : FullName} {slot : Slot}
    (ho : t.object? id = some (.element name slot)) (e : Element) :
    (Demand.element e).Fits t id :=
  ⟨slot, Tree.slot_eq_ok.2 ⟨_, ho, rfl⟩⟩

theorem fits_matchMember (ho : t.object? id = some o) (hd : s.matchMember o m = some d) :
    d.Fits t id := by
  unfold matchMember at hd
  split at hd
  · obtain ⟨e, -, rfl⟩ := Option.map_eq_some_iff.1 hd
    exact fits_element ho e
  · split at hd
    · cases hd
      exact ⟨_, Tree.exists_items ho rfl⟩
    · cases hd
  · split at hd
    · cases hd
      exact ⟨_, Tree.exists_items ho rfl⟩
    · cases hd
  · cases hd

theorem fits_matchItem (ho : t.object? id = some o) (hd : s.matchItem o m = some d) :
    d.Fits t id := by
  unfold matchItem at hd
  split at hd
  · obtain ⟨e, -, rfl⟩ := Option.map_eq_some_iff.1 hd
    exact fits_element ho e
  · split at hd
    · cases hd
      exact ⟨_, Tree.exists_items ho rfl⟩
    · cases hd
  · cases hd

end Schema

namespace Walk

variable {α β : Type} {mode : Mode} {t : Tree} {w : Walk Unit α} {f : α → Walk Unit β}

/-- The walk ends with a result, and all that it records is what it found. -/
def Concludes (w : Walk Unit α) (mode : Mode) (t : Tree) : Prop :=
  ∀ p, ∃ (a : α) (found : List Found),
    w.run.run p = (.ok a, ⟨p.ledger.extend (found.map (Found.diagnostic mode t)), ()⟩) ∧
      ∀ x ∈ found, x.Plain t

theorem concludes_pure (a : α) : (pure a : Walk Unit α).Concludes mode t :=
  fun _ => ⟨a, [], rfl, by simp⟩

theorem concludes_note {id : ObjectId} {g : Finding} (hid : t.Has id)
    (hg : ∀ fault, g ≠ .brokenReference fault) :
    (note (g.diagnostic mode t id) : Walk Unit Unit).Concludes mode t :=
  fun _ => ⟨(), [⟨id, g⟩], rfl, by simpa [Found.Plain] using ⟨hid, hg⟩⟩

theorem Concludes.bind (hw : w.Concludes mode t) (hf : ∀ a, (f a).Concludes mode t) :
    (w >>= f).Concludes mode t := by
  intro p
  obtain ⟨a, found, hrun, hfound⟩ := hw p
  obtain ⟨b, found', hrun', hfound'⟩ := hf a ⟨p.ledger.extend (found.map (·.diagnostic mode t)), ()⟩
  refine ⟨b, found ++ found', ?_, ?_⟩
  · rw [run_bind, hrun, List.map_append, Ledger.extend_append]
    exact hrun'
  · intro x hx
    exact (List.mem_append.1 hx).elim (hfound x) (hfound' x)

theorem concludes_ask_bind {x : Except TreeFault α} {a : α} (hx : x = .ok a)
    (hf : (f a).Concludes mode t) : (ask x >>= f : Walk Unit β).Concludes mode t := by
  subst hx
  exact hf

theorem Concludes.ite_bind {q : Prop} [Decidable q] {w : Walk Unit Unit} {rest : Walk Unit β}
    (hw : w.Concludes mode t) (hrest : rest.Concludes mode t) :
    (if q then w >>= fun _ => rest else rest).Concludes mode t := by
  split
  · exact hw.bind fun _ => hrest
  · exact hrest

theorem Concludes.around {id : ObjectId} {check : Walk Unit Unit} (h : check.Concludes mode t) :
    (Walk.around Hooks.none t id check).Concludes mode t := by
  intro p
  obtain ⟨a, found, hrun, hfound⟩ := h p
  exact ⟨_, found, by rw [run_around, hrun], hfound⟩

end Walk

/-! ## Checks -/

namespace Check

open Walk

variable {c : Check Unit} {id : ObjectId}

/-- A check in a tree that is built by operations, whose visits end where they are due. -/
structure Answered (c : Check Unit) : Prop where
  wellFormed : c.tree.WellFormed
  setsAttributes : c.tree.SetsAttributes
  visit : ∀ id d, d.Fits c.tree id → (c.visit id d).Concludes c.mode c.tree

variable (hc : c.Answered)
include hc

theorem concludes_below {d : Demand} (hd : d.Fits c.tree id) :
    (c.below id d).Concludes c.mode c.tree :=
  (hc.visit id d hd).bind fun _ => concludes_pure _

omit hc in
theorem concludes_report {g : Finding} (hid : c.tree.Has id)
    (hg : ∀ fault, g ≠ .brokenReference fault) :
    (c.report id g).Concludes c.mode c.tree :=
  concludes_note hid hg

omit hc in
theorem concludes_reportAll {g : ObjectId → Finding} {ids : List ObjectId}
    (hids : ∀ y ∈ ids, c.tree.Has y) (hg : ∀ y fault, g y ≠ .brokenReference fault) :
    (c.reportAll g ids).Concludes c.mode c.tree := by
  induction ids with
  | nil => exact concludes_pure _
  | cons y rest ih =>
    obtain ⟨hy, hrest⟩ := List.forall_mem_cons.1 hids
    exact (concludes_report hy (hg y)).bind fun _ => ih hrest

omit hc in
theorem concludes_violations (hid : c.tree.Has id) (vs : List FacetViolation) :
    (c.violations id vs).Concludes c.mode c.tree := by
  induction vs with
  | nil => exact concludes_pure _
  | cons v vs ih => exact (concludes_report hid (by simp)).bind fun _ => ih

omit hc in
theorem concludes_value (hid : c.tree.Has id) (type : TypeId) (v : SimpleValue) :
    (c.value id type v).Concludes c.mode c.tree := by
  unfold value
  dsimp only
  split
  · exact concludes_violations hid _
  · exact concludes_report hid (by simp)

/-- The references from an attribute or an element come to an end. -/
theorem concludes_holder {s : Slot} (hs : c.tree.slot id = .ok s) (type : TypeId)
    (isNullable : Bool) : (c.holder id type isNullable).Concludes c.mode c.tree := by
  have hid := Tree.has_of_slot hs
  obtain ⟨-, -, -, depth, -, -, -, -, -, -, hdepth⟩ := Tree.exists_chain hc.wellFormed hs
  obtain ⟨v, hv, hhas⟩ := Tree.exists_valueOf hc.wellFormed hs
  unfold holder
  rw [hdepth]
  dsimp only
  split
  · exact concludes_report hid (by simp)
  · refine concludes_ask_bind hv ?_
    cases v with
    | some v => exact concludes_below hc (hhas v rfl)
    | none =>
      dsimp only
      split
      · exact concludes_pure _
      · obtain ⟨o, ho⟩ := Tree.exists_get hid
        refine concludes_ask_bind ho ?_
        split <;> exact concludes_report hid (by simp)

theorem concludes_element {s : Slot} (hs : c.tree.slot id = .ok s) (e : Element) :
    (c.element id e).Concludes c.mode c.tree :=
  (concludes_report (Tree.has_of_slot hs) (by simp)).ite_bind (concludes_holder hc hs _ _)

/-! ### Attributes -/

section Attributes

variable {complex : ObjectId} {present : List ObjectId}

theorem concludes_declaredAttributes (hid : c.tree.Has complex)
    (hp : c.tree.attributes complex = .ok present) (as : List Attribute) :
    (c.declaredAttributes complex as).Concludes c.mode c.tree := by
  induction as with
  | nil => exact concludes_pure _
  | cons a rest ih =>
    obtain ⟨found, hf, hslot⟩ := Tree.exists_findAttribute hc.wellFormed hp a.name
    unfold declaredAttributes
    refine concludes_ask_bind hf ?_
    cases found with
    | some y =>
      have hfits : (Demand.holderOf a.type a.isNullable).Fits c.tree y := hslot y rfl
      exact (concludes_below hc hfits).bind fun _ => ih.bind fun _ => concludes_pure _
    | none => exact (concludes_report hid (by simp)).ite_bind ih

omit hc in
theorem concludes_undeclaredAttributes {ids : List ObjectId} (hids : ∀ y ∈ ids, c.tree.Has y) :
    (c.undeclaredAttributes ids).Concludes c.mode c.tree := by
  induction ids with
  | nil => exact concludes_pure _
  | cons y rest ih =>
    obtain ⟨hy, hrest⟩ := List.forall_mem_cons.1 hids
    obtain ⟨o, ho⟩ := Tree.exists_get hy
    unfold undeclaredAttributes
    refine concludes_ask_bind ho ?_
    exact (concludes_report hy (by simp)).bind fun _ => ih hrest

theorem concludes_attributes {n : Option FullName} {as cs : Option ObjectId}
    (ho : c.tree.object? id = some (.complex n as cs)) (declared : Option (List Attribute)) :
    (c.attributes id declared).Concludes c.mode c.tree := by
  obtain ⟨present, hp⟩ := Tree.exists_attributes hc.setsAttributes ho
  have hids : ∀ y ∈ present, c.tree.Has y := fun y hy =>
    Tree.has_of_transGen hc.wellFormed (Tree.leads_of_attributes hp hy)
  refine concludes_ask_bind hp ?_
  refine (concludes_declaredAttributes hc (Tree.has_of_object? ho) hp _).bind fun _ => ?_
  exact concludes_undeclaredAttributes fun y hy => hids y (List.mem_of_mem_filter hy)

end Attributes

/-! ### Children -/

theorem concludes_members {set : ObjectId} (hset : c.tree.Has set) (kind : SetKind)
    (ms : List Member) (ids : List ObjectId) :
    (c.members set kind ms ids).Concludes c.mode c.tree := by
  induction ms generalizing ids with
  | nil => exact concludes_pure _
  | cons m ms ih =>
    unfold members
    split
    · rename_i found hf
      obtain ⟨n, hn, hd⟩ := Option.bind_eq_some_iff.1 (demandAt_of_firstMatch hf)
      have hfits := Schema.fits_matchMember (Tree.object?_eq hn) hd
      exact (concludes_below hc hfits).bind fun _ => (ih _).bind fun _ => concludes_pure _
    · exact (concludes_report hset (by simp)).ite_bind (ih _)

omit hc in
theorem concludes_choice (hid : c.tree.Has id) (s : ChildSet) (names : List String) :
    (c.choice id s names).Concludes c.mode c.tree := by
  unfold choice
  split
  · split
    · exact concludes_pure _
    · exact concludes_report hid (by simp)
  · exact concludes_pure _
  · exact concludes_report hid (by simp)

theorem has_of_mem_items {ids : List ObjectId} (hids : c.tree.items id = .ok ids) :
    ∀ y ∈ ids, c.tree.Has y := fun _ hy =>
  hc.wellFormed.has_of_leads (Tree.leads_of_items hids hy)

theorem concludes_childSet {ids : List ObjectId} (hids : c.tree.items id = .ok ids) (s : ChildSet) :
    (c.childSet id s).Concludes c.mode c.tree := by
  have hid := Tree.has_of_items hids
  unfold childSet
  refine concludes_ask_bind hids ((concludes_members hc hid _ _ _).bind fun known => ?_)
  refine (concludes_choice hid _ _).ite_bind (concludes_reportAll (fun y hy => ?_) (by simp))
  exact has_of_mem_items hc hids y (List.mem_of_mem_filter hy)

theorem concludes_items (item : Member) {ids : List ObjectId} (hids : ∀ y ∈ ids, c.tree.Has y) :
    (c.items item ids).Concludes c.mode c.tree := by
  induction ids with
  | nil => exact concludes_pure _
  | cons y rest ih =>
    obtain ⟨hy, hrest⟩ := List.forall_mem_cons.1 hids
    unfold items
    split
    · rename_i d hd
      obtain ⟨n, hn, hd⟩ := Option.bind_eq_some_iff.1 hd
      have hfits := Schema.fits_matchItem (Tree.object?_eq hn) hd
      exact (concludes_below hc hfits).bind fun _ => ih hrest
    · exact (concludes_report hy (by simp)).bind fun _ => ih hrest

theorem concludes_childList {ids : List ObjectId} (hids : c.tree.items id = .ok ids) (item : Member)
    (occurs : Occurs) : (c.childList id item occurs).Concludes c.mode c.tree := by
  have hid := Tree.has_of_items hids
  have hitems := concludes_items hc item (has_of_mem_items hc hids)
  unfold childList
  refine concludes_ask_bind hids ?_
  dsimp only
  split
  · exact (concludes_report hid (by simp)).bind fun _ => hitems
  · exact (concludes_report hid (by simp)).ite_bind hitems

theorem concludes_children {present : Option ObjectId} (hid : c.tree.Has id)
    (hp : ∀ y, present = some y → c.tree.Has y) (declared : Option Children) :
    (c.children id present declared).Concludes c.mode c.tree := by
  unfold Check.children
  split
  · split
    · exact concludes_pure _
    · exact concludes_report (hp _ rfl) (by simp)
  · split
    · exact concludes_report hid (by simp)
    · exact concludes_below hc (hp _ rfl)
  · split
    · split
      · exact concludes_pure _
      · exact concludes_report hid (by simp)
    · rename_i y
      obtain ⟨o, ho⟩ := Tree.exists_get (hp y rfl)
      refine concludes_ask_bind ho ?_
      split
      · exact concludes_below hc ⟨_, Tree.exists_items (Tree.get_eq_ok.1 ho) rfl⟩
      · exact concludes_report (hp y rfl) (by simp)

/-! ### Instances of types -/

theorem concludes_ofType {o : Object} (ho : c.tree.object? id = some o) (type : TypeId) :
    (c.ofType id o type).Concludes c.mode c.tree := by
  have hid := Tree.has_of_object? ho
  unfold ofType
  refine (concludes_report hid (by simp)).ite_bind ?_
  split
  · exact concludes_value hid _ _
  · exact concludes_report hid (by simp)
  · rename_i n as present content _
    refine (concludes_attributes hc ho _).bind fun _ => concludes_children hc hid (fun y hy => ?_) _
    refine hc.wellFormed.has_of_leads (Tree.leads_of_object? ho ?_)
    simp [Object.owned, hy]
  · exact concludes_report hid (by simp)
  · exact concludes_pure _

omit hc in
theorem ne_brokenReference_of_typeOf {o : Object} {expected : TypeId} {g : Finding}
    (hg : c.typeOf o expected = .error g) (fault : TreeFault) : g ≠ .brokenReference fault := by
  unfold typeOf at hg
  split at hg
  · cases hg
  · split at hg
    · cases hg
      simp
    · split at hg
      · cases hg
      · cases hg
        simp

theorem concludes_instanceOf (hid : c.tree.Has id) (expected : TypeId) :
    (c.instanceOf id expected).Concludes c.mode c.tree := by
  obtain ⟨o, ho⟩ := Tree.exists_get hid
  unfold instanceOf
  refine concludes_ask_bind ho ?_
  split
  · split
    · exact concludes_ofType hc (Tree.get_eq_ok.1 ho) _
    · rename_i g hg
      exact concludes_report hid (ne_brokenReference_of_typeOf hg)
  · exact concludes_report hid (by simp)

/-- The check of an object ends if the demand fits. -/
theorem concludes_demand {d : Demand} (hd : d.Fits c.tree id) :
    (c.demand id d).Concludes c.mode c.tree := by
  cases d with
  | instanceOf type => exact concludes_instanceOf hc hd type
  | holderOf type isNullable => exact concludes_holder hc hd.choose_spec type isNullable
  | element e => exact concludes_element hc hd.choose_spec e
  | childSet s => exact concludes_childSet hc hd.choose_spec s
  | childList item occurs => exact concludes_childList hc hd.choose_spec item occurs

end Check

/-! ## Validations -/

namespace Validator

open Walk

variable {v : Validator} {t : Tree} {id : ObjectId}

/-- Every visit ends if the demand fits, by induction on the levels that are left. -/
theorem concludes_visit (h : t.WellFormed) (hs : t.SetsAttributes) (levels : Nat) {d : Demand}
    (hd : d.Fits t id) : (v.visit Hooks.none t levels id d).Concludes v.mode t := by
  induction levels generalizing id d with
  | zero => exact (concludes_note hd.has (by simp)).around
  | succ levels ih =>
    exact (Check.concludes_demand (c := ⟨v, t, v.visit Hooks.none t levels⟩)
      ⟨h, hs, fun id d hd => ih hd⟩ hd).around

theorem concludes_start (h : t.WellFormed) (hs : t.SetsAttributes) {d : Demand}
    (hd : d.Fits t id) : (v.start Hooks.none t id d).Concludes v.mode t :=
  (concludes_visit h hs _ hd).bind fun _ => concludes_pure _

/-- What a validation that ends has found, and that it succeeds if nothing of that is an error. -/
def Answers (v : Validator) (t : Tree) (ledger : Ledger)
    (outcome : Except TreeFault Bool × Ledger) : Prop :=
  ∃ found : List Found, (∀ x ∈ found, x.Plain t) ∧
    outcome = (.ok (found.all fun x => !(x.diagnostic v.mode t).isError),
      ledger.extend (found.map (Found.diagnostic v.mode t)))

theorem answers_of_concludes {w : Walk Unit Unit} (hw : w.Concludes v.mode t) (ledger : Ledger) :
    v.Answers t ledger (run ledger (v.passes w)) := by
  by_cases hv : v.mode = .skip
  · refine ⟨[], by simp, ?_⟩
    simp only [run, passes, hv]
    rfl
  · obtain ⟨_, found, hrun, hfound⟩ := hw ⟨ledger, ()⟩
    refine ⟨found, hfound, ?_⟩
    rw [run, run_passes hv, hrun]
    dsimp only
    rw [Ledger.hasErrorsSince_extend, List.any_map, List.not_any_eq_all_not]
    rfl

/-- A validation of an object ends. -/
theorem answers_validate (h : t.WellFormed) (hs : t.SetsAttributes) (hid : t.Has id) (type : TypeId)
    (ledger : Ledger) : v.Answers t ledger (v.validate t id type ledger) := by
  have hfits : (Demand.instanceOf type).Fits t id := hid
  exact answers_of_concludes (concludes_start h hs hfits) ledger

/-- A validation of an element ends. -/
theorem answers_validateElement (h : t.WellFormed) (hs : t.SetsAttributes) {name : FullName}
    {slot : Slot} (ho : t.object? id = some (.element name slot)) (head : ElementId)
    (ledger : Ledger) : v.Answers t ledger (v.validateElement t id head ledger) := by
  refine answers_of_concludes ?_ ledger
  have hid := Tree.has_of_object? ho
  refine concludes_ask_bind (Tree.get_eq_ok.2 ho) ?_
  dsimp only
  split
  · exact concludes_start h hs (Schema.fits_element ho _)
  · exact concludes_note hid (by simp)

theorem validateElement_eq_error {o : Object} (ho : t.object? id = some o)
    (hsort : o.sort ≠ .element) (hv : v.mode ≠ .skip) (head : ElementId) (ledger : Ledger) :
    v.validateElement t id head ledger = (.error (.wrongSort id o.sort "element"), ledger) := by
  have hget : t.get id = .ok o := Tree.get_eq_ok.2 ho
  have hnamed : (v.elementNamed t id head).run.run ⟨ledger, ()⟩ =
      (.error (.wrongSort id o.sort "element"), ⟨ledger, ()⟩) := by
    rw [elementNamed, hget]
    cases o with
    | element => exact absurd rfl hsort
    | _ => rfl
  rw [validateElement, run, run_passes hv, hnamed]

/-- In a tree that is built by operations no chain of references leads in a circle, and each
validation of an object ends: it tells whether it found an error, and what it records is what it
found wrong with objects of the tree, none of which is a circle of references. A validation of an
element is refused, and records nothing, exactly if something is checked and the object is none. -/
theorem answers_of_built {ops : List Operation} (ht : Tree.performAll {} ops = t) {o : Object}
    (ho : t.get id = .ok o) (v : Validator) (ledger : Ledger) :
    (∀ x fault, t.referenceDepth x = .error fault → fault.family ≠ .circularReference) ∧
    (∀ type, v.Answers t ledger (v.validate t id type ledger)) ∧
    (∀ head, o.sort = .element ∨ v.mode = .skip →
      v.Answers t ledger (v.validateElement t id head ledger)) ∧
    (∀ head, o.sort ≠ .element → v.mode ≠ .skip →
      v.validateElement t id head ledger = (.error (.wrongSort id o.sort "element"), ledger)) := by
  have h := Tree.wellFormed_of_built ht
  have hs := Tree.setsAttributes_of_built ht
  rw [Tree.get_eq_ok] at ho
  refine ⟨fun x fault hd => Tree.family_of_referenceDepth h hd, fun type => ?_, fun head hor => ?_,
    fun head hsort hv => validateElement_eq_error ho hsort hv head ledger⟩
  · exact answers_validate h hs (Tree.has_of_object? ho) type ledger
  · rcases hor with hsort | hv
    · cases o with
      | element => exact answers_validateElement h hs ho head ledger
      | _ => cases hsort
    · refine ⟨[], by simp, ?_⟩
      simp only [validateElement, run, passes, hv]
      rfl

/-- A complex object with two attributes, the second of which refers to the first one. -/
def badge : List Operation := [
  .newComplex none, .newAttributeSet, .setAttributes ⟨0⟩ ⟨1⟩, .newAttribute "name",
  .addAttribute ⟨1⟩ ⟨2⟩, .newAttribute "title", .addAttribute ⟨1⟩ ⟨3⟩, .setReference ⟨3⟩ ⟨2⟩]

/-- A type of badges, with a name and a title that may be null. -/
def badges : List NamespaceDecl :=
  let text (name : String) : AttributeItem :=
    .declared { name := ⟨name, none⟩, type := .ofText "String", isNullable := true }
  [{ uri := "urn:badges"
     members := [
      .type { name := ⟨"Badge", none⟩
              body := .complex (some { items := [text "name", text "title"] }) none }] }]

/-- The badge is validated as an object of its type, and it cannot be validated as an element. -/
theorem badge_answers : Accepts badges {} (schemaOf badges {}) ∧
    Answers ⟨schemaOf badges {}, .strict, {}⟩ (Tree.performAll {} badge) {}
      (validate ⟨schemaOf badges {}, .strict, {}⟩ (Tree.performAll {} badge) ⟨0⟩ ⟨22⟩ {}) ∧
    validateElement ⟨schemaOf badges {}, .strict, {}⟩ (Tree.performAll {} badge) ⟨0⟩ ⟨0⟩ {} =
      (.error (.wrongSort ⟨0⟩ .complex "element"), {}) := by
  have hbuilt : Tree.performAll {} badge = Tree.performAll {} badge := rfl
  have hget : (Tree.performAll {} badge).get ⟨0⟩ = .ok (.complex none (some ⟨1⟩) none) := by rfl
  obtain ⟨-, hvalidate, -, helement⟩ :=
    answers_of_built hbuilt hget ⟨schemaOf badges {}, .strict, {}⟩ {}
  exact ⟨accepts_schemaOf (by decide +kernel), hvalidate ⟨22⟩,
    helement ⟨0⟩ (by decide) (by simp)⟩

end Validator

end Schemata
