import Schemata.Proofs.Instances
import Schemata.Proofs.Loops

/-!
# How deep a validation goes

The check of an object visits only what the object leads to, so it cannot tell how anything else
would be visited (`Check.demand_revisit`). Without loops each visit is to an object that leads to
less, and the bound on the depth is never met: whatever the bound is, as long as it is no less than
the number of objects, the validation is the same (`Validator.start_withDepth`).
-/

namespace Schemata

open Relation

/-- The validator with another bound on the depth of visits. -/
def Validator.withDepth (v : Validator) (depth : Nat) : Validator :=
  { v with limits := { v.limits with objectDepth := depth } }

/-! ## What a check visits -/

namespace Tree

variable {t : Tree} {x y set : ObjectId}

theorem leads_of_object? {o : Object} (ho : t.object? x = some o) (hy : y ∈ o.owned) :
    t.Leads x y :=
  Or.inl ((owns_iff ho).2 hy)

/-- References lead to the effective one. -/
theorem leads_of_followReferences {start : ObjectId} {fuel : Nat} {passed : List ObjectId}
    (hxy : t.followReferences start fuel passed x = .ok y) : ReflTransGen t.Leads x y := by
  induction fuel generalizing passed x with
  | zero => cases hxy
  | succ fuel ih =>
    rw [followReferences] at hxy
    split at hxy
    · cases hxy
    · obtain ⟨s, hs, hxy⟩ := bind_eq_ok hxy
      cases s with
      | direct v =>
        cases hxy
        exact .refl
      | reference z => exact .head (Or.inr (target?_eq_some.2 hs)) (ih hxy)

/-- An attribute or an element leads to its value, be it through references. -/
theorem leads_of_valueOf (hy : t.valueOf x = .ok (some y)) : TransGen t.Leads x y := by
  obtain ⟨e, he, hy⟩ := bind_eq_ok hy
  obtain ⟨s, hs, hy⟩ := bind_eq_ok hy
  obtain ⟨o, ho, hs⟩ := slot_eq_ok.1 hs
  have hmem := Object.mem_owned_of_slot? hs y (Except.ok.inj hy)
  exact .tail' (leads_of_followReferences he) (leads_of_object? ho hmem)

theorem leads_of_items {ids : List ObjectId} (hids : t.items set = .ok ids) (hy : y ∈ ids) :
    t.Leads set y := by
  obtain ⟨o, ho, hids⟩ := bind_eq_ok hids
  refine leads_of_object? (get_eq_ok.1 ho) ?_
  cases o with
  | attributeSet | childSet | childList =>
    cases hids
    exact hy
  | _ => cases hids

/-- A complex object leads to its attributes. -/
theorem leads_of_attributes {ids : List ObjectId} (hids : t.attributes x = .ok ids) (hy : y ∈ ids) :
    TransGen t.Leads x y := by
  obtain ⟨o, ho, hids⟩ := bind_eq_ok hids
  cases o with
  | complex n as cs =>
    cases as with
    | none =>
      cases hids
      cases hy
    | some set =>
      have hset : t.Leads x set := leads_of_object? (get_eq_ok.1 ho) (by simp [Object.owned])
      exact .head hset (.single (leads_of_items hids hy))
  | _ => cases hids

theorem leads_of_findAttribute {name : String} (hy : t.findAttribute x name = .ok (some y)) :
    TransGen t.Leads x y := by
  obtain ⟨ids, hids, -⟩ := bind_eq_ok hy
  exact leads_of_attributes hids (findAttribute_eq_some hids hy).1

end Tree

/-! ## Checks that visit in another way -/

namespace Walk

variable {σ α β : Type}

theorem ask_bind_congr {x : Except TreeFault α} {f g : α → Walk σ β}
    (h : ∀ a, x = .ok a → f a = g a) : (ask x >>= f) = (ask x >>= g) := by
  cases x with
  | error fault => rfl
  | ok a => exact h a rfl

end Walk

namespace Check

variable {σ : Type}

/-- The same check with another bound on the depth and another way to visit. -/
def revisit (c : Check σ) (depth : Nat) (visit : ObjectId → Demand → Walk σ Bool) : Check σ :=
  ⟨c.toValidator.withDepth depth, c.tree, visit⟩

variable {c : Check σ} {depth : Nat} {visit : ObjectId → Demand → Walk σ Bool} {id : ObjectId}

@[simp]
theorem schema_revisit : (c.revisit depth visit).schema = c.schema := rfl

@[simp]
theorem tree_revisit : (c.revisit depth visit).tree = c.tree := rfl

@[simp]
theorem typeOf_revisit (o : Object) (expected : TypeId) :
    (c.revisit depth visit).typeOf o expected = c.typeOf o expected := rfl

@[simp]
theorem checkReferences_revisit (length : Nat) :
    (c.revisit depth visit).limits.check .referenceChain length =
      c.limits.check .referenceChain length := rfl

@[simp]
theorem report_revisit (f : Finding) : (c.revisit depth visit).report id f = c.report id f := rfl

@[simp]
theorem reportAll_revisit (f : ObjectId → Finding) (ids : List ObjectId) :
    (c.revisit depth visit).reportAll f ids = c.reportAll f ids := by
  induction ids with
  | nil => rfl
  | cons id rest ih => simp only [reportAll, report_revisit, ih]

@[simp]
theorem violations_revisit (vs : List FacetViolation) :
    (c.revisit depth visit).violations id vs = c.violations id vs := by
  induction vs with
  | nil => rfl
  | cons v vs ih => simp only [violations, report_revisit, ih]

@[simp]
theorem undeclaredAttributes_revisit (ids : List ObjectId) :
    (c.revisit depth visit).undeclaredAttributes ids = c.undeclaredAttributes ids := by
  induction ids with
  | nil => rfl
  | cons id rest ih => simp only [undeclaredAttributes, tree_revisit, report_revisit, ih]

@[simp]
theorem choice_revisit (s : ChildSet) (names : List String) :
    (c.revisit depth visit).choice id s names = c.choice id s names := by
  simp only [choice, report_revisit]

@[simp]
theorem value_revisit (type : TypeId) (v : SimpleValue) :
    (c.revisit depth visit).value id type v = c.value id type v := by
  simp only [value, schema_revisit, violations_revisit, report_revisit]

theorem below_revisit {d : Demand} (h : visit id d = c.visit id d) :
    (c.revisit depth visit).below id d = c.below id d := by
  rw [below, below, ← h]
  rfl

theorem holder_revisit {type : TypeId} {isNullable : Bool}
    (h : ∀ y, c.tree.valueOf id = .ok (some y) → ∀ d, visit y d = c.visit y d) :
    (c.revisit depth visit).holder id type isNullable = c.holder id type isNullable := by
  simp only [holder, tree_revisit, checkReferences_revisit, report_revisit]
  cases c.tree.referenceDepth id with
  | error fault => rfl
  | ok length =>
    dsimp only
    cases c.limits.check .referenceChain length with
    | error exceeded => rfl
    | ok _ =>
      refine Walk.ask_bind_congr fun found hfound => ?_
      cases found with
      | none => rfl
      | some y => exact below_revisit (h y hfound _)

theorem element_revisit {e : Element}
    (h : ∀ y, c.tree.valueOf id = .ok (some y) → ∀ d, visit y d = c.visit y d) :
    (c.revisit depth visit).element id e = c.element id e := by
  simp only [element, report_revisit, holder_revisit h]

theorem declaredAttributes_revisit {complex : ObjectId}
    (h : ∀ name y, c.tree.findAttribute complex name = .ok (some y) →
      ∀ d, visit y d = c.visit y d) (as : List Attribute) :
    (c.revisit depth visit).declaredAttributes complex as = c.declaredAttributes complex as := by
  induction as with
  | nil => rfl
  | cons a rest ih =>
    simp only [declaredAttributes, tree_revisit, report_revisit, ih]
    refine Walk.ask_bind_congr fun found hfound => ?_
    cases found with
    | none => rfl
    | some y => simp only [below_revisit (h a.name y hfound _)]

theorem attributes_revisit {complex : ObjectId}
    (h : ∀ name y, c.tree.findAttribute complex name = .ok (some y) →
      ∀ d, visit y d = c.visit y d) (declared : Option (List Attribute)) :
    (c.revisit depth visit).attributes complex declared = c.attributes complex declared := by
  simp only [attributes, tree_revisit, declaredAttributes_revisit h, undeclaredAttributes_revisit]

theorem members_revisit {kind : SetKind} {ms : List Member} {ids : List ObjectId}
    (h : ∀ y ∈ ids, ∀ d, visit y d = c.visit y d) :
    (c.revisit depth visit).members id kind ms ids = c.members id kind ms ids := by
  induction ms generalizing ids with
  | nil => rfl
  | cons m ms ih =>
    simp only [members, schema_revisit, tree_revisit, report_revisit]
    cases hf : c.schema.firstMatch c.tree m ids with
    | none => simp only [ih h]
    | some found =>
      have hchild : found.child ∈ ids := by
        rw [Schema.eq_of_firstMatch hf]
        simp
      simp only [below_revisit (h _ hchild _), ih fun y hy => h y (mem_remaining hf hy)]

theorem childSet_revisit {s : ChildSet}
    (h : ∀ ids, c.tree.items id = .ok ids → ∀ y ∈ ids, ∀ d, visit y d = c.visit y d) :
    (c.revisit depth visit).childSet id s = c.childSet id s := by
  refine Walk.ask_bind_congr fun ids hids => ?_
  simp only [members_revisit (h ids hids), choice_revisit, reportAll_revisit]

theorem items_revisit {item : Member} {ids : List ObjectId}
    (h : ∀ y ∈ ids, ∀ d, visit y d = c.visit y d) :
    (c.revisit depth visit).items item ids = c.items item ids := by
  induction ids with
  | nil => rfl
  | cons id rest ih =>
    obtain ⟨hid, hrest⟩ := List.forall_mem_cons.1 h
    simp only [items, schema_revisit, tree_revisit, report_revisit, ih hrest,
      below_revisit (hid _)]

theorem childList_revisit {item : Member} {occurs : Occurs}
    (h : ∀ ids, c.tree.items id = .ok ids → ∀ y ∈ ids, ∀ d, visit y d = c.visit y d) :
    (c.revisit depth visit).childList id item occurs = c.childList id item occurs := by
  refine Walk.ask_bind_congr fun ids hids => ?_
  simp only [report_revisit, items_revisit (h ids hids)]

theorem children_revisit {present : Option ObjectId}
    (h : ∀ y, present = some y → ∀ d, visit y d = c.visit y d) (declared : Option Children) :
    (c.revisit depth visit).children id present declared = c.children id present declared := by
  unfold children
  split
  · rfl
  · split
    · rfl
    · exact below_revisit (h _ rfl _)
  · split
    · rfl
    · refine Walk.ask_bind_congr fun o _ => ?_
      simp only [below_revisit (h _ rfl _), report_revisit]

theorem ofType_revisit {o : Object} (ho : c.tree.object? id = some o)
    (h : ∀ y, TransGen c.tree.Leads id y → ∀ d, visit y d = c.visit y d) (type : TypeId) :
    (c.revisit depth visit).ofType id o type = c.ofType id o type := by
  have hattributes : ∀ declared, (c.revisit depth visit).attributes id declared =
      c.attributes id declared :=
    attributes_revisit fun name y hy => h y (Tree.leads_of_findAttribute hy)
  simp only [ofType, schema_revisit, report_revisit, value_revisit, hattributes]
  cases o with
  | complex name attributes present =>
    have hchildren : ∀ declared, (c.revisit depth visit).children id present declared =
        c.children id present declared := by
      refine children_revisit fun y hy => h y (.single (Tree.leads_of_object? ho ?_))
      simp [Object.owned, hy]
    cases (c.schema.typeDef type).content with
    | simple => rfl
    | complex content => simp only [hchildren]
  | _ => cases (c.schema.typeDef type).content <;> rfl

theorem instanceOf_revisit
    (h : ∀ y, TransGen c.tree.Leads id y → ∀ d, visit y d = c.visit y d) (expected : TypeId) :
    (c.revisit depth visit).instanceOf id expected = c.instanceOf id expected := by
  refine Walk.ask_bind_congr fun o ho => ?_
  have hobj : c.tree.object? id = some o := Tree.get_eq_ok.1 ho
  simp only [typeOf_revisit, ofType_revisit hobj h, report_revisit]

/-- A check cannot tell how anything would be visited that its object does not lead to. -/
theorem demand_revisit (h : ∀ y, TransGen c.tree.Leads id y → ∀ d, visit y d = c.visit y d)
    (d : Demand) : (c.revisit depth visit).demand id d = c.demand id d := by
  cases d with
  | instanceOf type => exact instanceOf_revisit h type
  | holderOf type isNullable => exact holder_revisit fun y hy => h y (Tree.leads_of_valueOf hy)
  | element e => exact element_revisit fun y hy => h y (Tree.leads_of_valueOf hy)
  | childSet s =>
    exact childSet_revisit fun ids hids y hy => h y (.single (Tree.leads_of_items hids hy))
  | childList item occurs =>
    exact childList_revisit fun ids hids y hy => h y (.single (Tree.leads_of_items hids hy))

end Check

/-! ## Validations -/

namespace Validator

variable {σ : Type} {v : Validator} {hooks : Hooks σ} {t : Tree} {depth : Nat}

/-- Without loops it does not matter how many levels are left, as long as there are more than
objects that an object leads to. The induction is on the levels; each one that is used up leaves
less to lead to. -/
theorem visit_withDepth (h : t.WellFormed) (hl : t.Loopless) {n m : Nat} {id : ObjectId}
    (hn : t.rank id < n) (hm : t.rank id < m) (d : Demand) :
    (v.withDepth depth).visit hooks t m id d = v.visit hooks t n id d := by
  induction n generalizing m id d with
  | zero => cases hn
  | succ n ih =>
    obtain ⟨m, rfl⟩ : ∃ k, m = k + 1 := ⟨m - 1, by omega⟩
    have hcheck : Check.demand ⟨v.withDepth depth, t, (v.withDepth depth).visit hooks t m⟩ id d =
        Check.demand ⟨v, t, v.visit hooks t n⟩ id d := by
      refine Check.demand_revisit (c := ⟨v, t, v.visit hooks t n⟩) (fun y hy d => ?_) d
      have hrank := hl.rank_lt h hy
      exact ih (by omega) (by omega) d
    rw [visit, visit, hcheck]

/-- No bound on the depth that is at least the number of objects is ever met. -/
theorem start_withDepth (h : t.WellFormed) (hl : t.Loopless) (hv : t.size ≤ v.limits.objectDepth)
    (hdepth : t.size ≤ depth) (id : ObjectId) (d : Demand) :
    (v.withDepth depth).start hooks t id d = v.start hooks t id d := by
  have hrank := t.rank_le_size id
  unfold start
  rw [visit_withDepth h hl (n := v.limits.objectDepth + 1) (by omega)]
  change t.rank id < depth + 1
  omega

theorem validateWith_withDepth (h : t.WellFormed) (hl : t.Loopless)
    (hv : t.size ≤ v.limits.objectDepth) (hdepth : t.size ≤ depth) (id : ObjectId)
    (type : TypeId) :
    (v.withDepth depth).validateWith hooks t id type = v.validateWith hooks t id type := by
  unfold validateWith
  rw [start_withDepth h hl hv hdepth]
  rfl

theorem validateElement_withDepth (h : t.WellFormed) (hl : t.Loopless)
    (hv : t.size ≤ v.limits.objectDepth) (hdepth : t.size ≤ depth) (id : ObjectId)
    (head : ElementId) (ledger : Ledger) :
    (v.withDepth depth).validateElement t id head ledger = v.validateElement t id head ledger := by
  have hnamed : (v.withDepth depth).elementNamed t id head = v.elementNamed t id head := by
    unfold elementNamed
    simp only [start_withDepth h hl hv hdepth]
    rfl
  unfold validateElement
  rw [hnamed]
  rfl

end Validator

end Schemata
