import Schemata.Validation.Basic

/-!
# The parts of a check

A check is made of questions to the tree, reports and visits, one after the other. What holds of
these parts, and of two walks in a row if it holds of each, holds of every check and of every visit
(`Check.Respects.demand`, `Validator.Respects.visit`). It may relate two walks whose hooks have
different states, as long as they go by the same validator and the same tree; and two walks in
different modes, as long as it does not ask for the same results of visits, since a check looks at
none (`Check.Relates.demand`, `Validator.Relates.visit`).
-/

namespace Schemata

variable {σ τ α β : Type}

theorem Walk.run_bind (w : Walk σ α) (f : α → Walk σ β) (p : Progress σ) :
    (w >>= f).run.run p =
      match w.run.run p with
      | (.ok a, p') => (f a).run.run p'
      | (.error e, p') => (.error e, p') := by
  rw [ExceptT.run_bind, StateT.run_bind]
  obtain ⟨x, p', h⟩ : ∃ x p', w.run.run p = (x, p') := ⟨_, _, rfl⟩
  rw [h]
  cases x <;> rfl

/-- A relation of walks that holds of the same questions and of the same reports, and of two walks
in a row if it holds of each. -/
structure Validator.Respects (v : Validator) (t : Tree)
    (R : (α : Type) → Walk σ α → Walk τ α → Prop) : Prop where
  pure {α : Type} (a : α) : R α (pure a) (pure a)
  ask {α : Type} (x : Except TreeFault α) : R α (Walk.ask x) (Walk.ask x)
  report (id : ObjectId) (f : Finding) :
    R Unit (Walk.note (f.diagnostic v.mode t id)) (Walk.note (f.diagnostic v.mode t id))
  bind {α β : Type} {w : Walk σ α} {w' : Walk τ α} {f : α → Walk σ β} {f' : α → Walk τ β} :
    R α w w' → (∀ a, R β (f a) (f' a)) → R β (w >>= f) (w' >>= f')

/-- Such a relation that also holds of the visits of two checks. -/
structure Check.Respects (v : Validator) (t : Tree) (visit : ObjectId → Demand → Walk σ Bool)
    (visit' : ObjectId → Demand → Walk τ Bool) (R : (α : Type) → Walk σ α → Walk τ α → Prop) : Prop
    extends v.Respects t R where
  visit (id : ObjectId) (d : Demand) : R Bool (visit id d) (visit' id d)

/-- A validator in another mode. -/
abbrev Validator.withMode (v : Validator) (mode : Mode) : Validator := { v with mode }

/-- A relation of walks like `Validator.Respects`, where the second walk reports in a mode of its
own. -/
structure Validator.Relates (v : Validator) (mode : Mode) (t : Tree)
    (R : (α : Type) → Walk σ α → Walk τ α → Prop) : Prop where
  pure {α : Type} (a : α) : R α (pure a) (pure a)
  ask {α : Type} (x : Except TreeFault α) : R α (Walk.ask x) (Walk.ask x)
  report (id : ObjectId) (f : Finding) :
    R Unit (Walk.note (f.diagnostic v.mode t id)) (Walk.note (f.diagnostic mode t id))
  bind {α β : Type} {w : Walk σ α} {w' : Walk τ α} {f : α → Walk σ β} {f' : α → Walk τ β} :
    R α w w' → (∀ a, R β (f a) (f' a)) → R β (w >>= f) (w' >>= f')

/-- Such a relation that also holds of the visits of two checks, whatever their results. -/
structure Check.Relates (v : Validator) (mode : Mode) (t : Tree)
    (visit : ObjectId → Demand → Walk σ Bool) (visit' : ObjectId → Demand → Walk τ Bool)
    (R : (α : Type) → Walk σ α → Walk τ α → Prop) : Prop extends v.Relates mode t R where
  visit (id : ObjectId) (d : Demand) :
    R Unit (visit id d >>= fun _ => Pure.pure ()) (visit' id d >>= fun _ => Pure.pure ())

theorem Validator.Respects.relates {v : Validator} {t : Tree}
    {R : (α : Type) → Walk σ α → Walk τ α → Prop} (h : v.Respects t R) : v.Relates v.mode t R where
  pure := h.pure
  ask := h.ask
  report := h.report
  bind := h.bind

theorem Check.Respects.relates {v : Validator} {t : Tree}
    {visit : ObjectId → Demand → Walk σ Bool} {visit' : ObjectId → Demand → Walk τ Bool}
    {R : (α : Type) → Walk σ α → Walk τ α → Prop} (h : Check.Respects v t visit visit' R) :
    Check.Relates v v.mode t visit visit' R where
  toRelates := h.toRespects.relates
  visit id d := h.bind (h.visit id d) fun _ => h.pure _

/-- A property of walks as a relation. -/
def Walk.Both (P : (α : Type) → Walk σ α → Prop) (α : Type) (w w' : Walk σ α) : Prop :=
  w = w' ∧ P α w

theorem Walk.Both.bind {P : (α : Type) → Walk σ α → Prop} {w w' : Walk σ α}
    {f f' : α → Walk σ β}
    (hP : ∀ {w : Walk σ α} {f : α → Walk σ β}, P α w → (∀ a, P β (f a)) → P β (w >>= f))
    (h : Walk.Both P α w w') (hf : ∀ a, Walk.Both P β (f a) (f' a)) :
    Walk.Both P β (w >>= f) (w' >>= f') := by
  obtain ⟨rfl, hw⟩ := h
  obtain rfl : f = f' := funext fun a => (hf a).1
  exact ⟨rfl, hP hw fun a => (hf a).2⟩

namespace Check.Relates

variable {v : Validator} {mode : Mode} {t : Tree} {R : (α : Type) → Walk σ α → Walk τ α → Prop}
  {visit : ObjectId → Demand → Walk σ Bool} {visit' : ObjectId → Demand → Walk τ Bool}
  (h : Check.Relates v mode t visit visit' R)
include h

/-- The first step may depend on a condition. -/
theorem ite_bind {q : Prop} [Decidable q] {w : Walk σ Unit} {w' : Walk τ Unit} {rest : Walk σ β}
    {rest' : Walk τ β} (hw : R Unit w w') (hrest : R β rest rest') :
    R β (if q then w >>= fun _ => rest else rest) (if q then w' >>= fun _ => rest' else rest') := by
  split
  · exact h.bind hw fun _ => hrest
  · exact hrest

theorem below (id : ObjectId) (d : Demand) :
    R Unit (Check.below ⟨v, t, visit⟩ id d) (Check.below ⟨v.withMode mode, t, visit'⟩ id d) :=
  h.visit id d

theorem reportAll (f : ObjectId → Finding) (ids : List ObjectId) :
    R Unit (Check.reportAll ⟨v, t, visit⟩ f ids) (Check.reportAll ⟨v.withMode mode, t, visit'⟩ f ids) := by
  induction ids with
  | nil => exact h.pure _
  | cons id rest ih => exact h.bind (h.report id (f id)) fun _ => ih

theorem violations (id : ObjectId) (vs : List FacetViolation) :
    R Unit (Check.violations ⟨v, t, visit⟩ id vs) (Check.violations ⟨v.withMode mode, t, visit'⟩ id vs) := by
  induction vs with
  | nil => exact h.pure _
  | cons x vs ih => exact h.bind (h.report id _) fun _ => ih

theorem value (id : ObjectId) (type : TypeId) (x : SimpleValue) :
    R Unit (Check.value ⟨v, t, visit⟩ id type x) (Check.value ⟨v.withMode mode, t, visit'⟩ id type x) := by
  unfold Check.value
  dsimp only
  split
  · exact h.violations id _
  · exact h.report id _

theorem holder (id : ObjectId) (type : TypeId) (isNullable : Bool) :
    R Unit (Check.holder ⟨v, t, visit⟩ id type isNullable)
      (Check.holder ⟨v.withMode mode, t, visit'⟩ id type isNullable) := by
  unfold Check.holder
  dsimp only
  split
  · split
    · exact h.report id _
    · exact h.ask (.error _)
  · split
    · exact h.report id _
    · refine h.bind (h.ask _) fun x => ?_
      split
      · exact h.below _ _
      · split
        · exact h.pure _
        · refine h.bind (h.ask _) fun o => ?_
          split <;> exact h.report id _

theorem element (id : ObjectId) (e : Element) :
    R Unit (Check.element ⟨v, t, visit⟩ id e) (Check.element ⟨v.withMode mode, t, visit'⟩ id e) :=
  h.ite_bind (h.report id _) (h.holder id _ _)

theorem declaredAttributes (complex : ObjectId) (as : List Attribute) :
    R (List ObjectId) (Check.declaredAttributes ⟨v, t, visit⟩ complex as)
      (Check.declaredAttributes ⟨v.withMode mode, t, visit'⟩ complex as) := by
  induction as with
  | nil => exact h.pure _
  | cons a rest ih =>
    unfold Check.declaredAttributes
    refine h.bind (h.ask _) fun found => ?_
    split
    · exact h.bind (h.below _ _) fun _ => h.bind ih fun _ => h.pure _
    · exact h.ite_bind (h.report _ _) ih

theorem undeclaredAttributes (ids : List ObjectId) :
    R Unit (Check.undeclaredAttributes ⟨v, t, visit⟩ ids)
      (Check.undeclaredAttributes ⟨v.withMode mode, t, visit'⟩ ids) := by
  induction ids with
  | nil => exact h.pure _
  | cons id rest ih =>
    unfold Check.undeclaredAttributes
    refine h.bind (h.ask _) fun o => ?_
    exact h.bind (h.report _ _) fun _ => ih

theorem attributes (complex : ObjectId) (declared : Option (List Attribute)) :
    R Unit (Check.attributes ⟨v, t, visit⟩ complex declared)
      (Check.attributes ⟨v.withMode mode, t, visit'⟩ complex declared) :=
  h.bind (h.ask _) fun _ => h.bind (h.declaredAttributes _ _) fun _ =>
    h.undeclaredAttributes _

theorem members (set : ObjectId) (kind : SetKind) (ms : List Member) (available : List ObjectId) :
    R (List (ObjectId × String)) (Check.members ⟨v, t, visit⟩ set kind ms available)
      (Check.members ⟨v.withMode mode, t, visit'⟩ set kind ms available) := by
  induction ms generalizing available with
  | nil => exact h.pure _
  | cons m ms ih =>
    unfold Check.members
    dsimp only
    split
    · exact h.bind (h.below _ _) fun _ => h.bind (ih _) fun _ => h.pure _
    · exact h.ite_bind (h.report _ _) (ih _)

theorem choice (id : ObjectId) (s : ChildSet) (names : List String) :
    R Unit (Check.choice ⟨v, t, visit⟩ id s names) (Check.choice ⟨v.withMode mode, t, visit'⟩ id s names) := by
  unfold Check.choice
  split
  · split
    · exact h.pure _
    · exact h.report id _
  · exact h.pure _
  · exact h.report id _

theorem childSet (id : ObjectId) (s : ChildSet) :
    R Unit (Check.childSet ⟨v, t, visit⟩ id s) (Check.childSet ⟨v.withMode mode, t, visit'⟩ id s) := by
  unfold Check.childSet
  refine h.bind (h.ask _) fun present => h.bind (h.members _ _ _ _) fun known => ?_
  exact h.ite_bind (h.choice _ _ _) (h.reportAll _ _)

theorem items (item : Member) (ids : List ObjectId) :
    R Unit (Check.items ⟨v, t, visit⟩ item ids) (Check.items ⟨v.withMode mode, t, visit'⟩ item ids) := by
  induction ids with
  | nil => exact h.pure _
  | cons id rest ih =>
    unfold Check.items
    dsimp only
    split
    · exact h.bind (h.below _ _) fun _ => ih
    · exact h.bind (h.report _ _) fun _ => ih

theorem childList (id : ObjectId) (item : Member) (occurs : Occurs) :
    R Unit (Check.childList ⟨v, t, visit⟩ id item occurs)
      (Check.childList ⟨v.withMode mode, t, visit'⟩ id item occurs) := by
  unfold Check.childList
  refine h.bind (h.ask _) fun present => ?_
  dsimp only
  split
  · exact h.bind (h.report _ _) fun _ => h.items _ _
  · exact h.ite_bind (h.report _ _) (h.items _ _)

theorem children (complex : ObjectId) (present : Option ObjectId) (cs : Option Children) :
    R Unit (Check.children ⟨v, t, visit⟩ complex present cs)
      (Check.children ⟨v.withMode mode, t, visit'⟩ complex present cs) := by
  unfold Check.children
  split
  · split
    · exact h.pure _
    · exact h.report _ _
  · split
    · exact h.report _ _
    · exact h.below _ _
  · split
    · split
      · exact h.pure _
      · exact h.report _ _
    · refine h.bind (h.ask _) fun o => ?_
      split
      · exact h.below _ _
      · exact h.report _ _

theorem ofType (id : ObjectId) (o : Object) (type : TypeId) :
    R Unit (Check.ofType ⟨v, t, visit⟩ id o type) (Check.ofType ⟨v.withMode mode, t, visit'⟩ id o type) := by
  unfold Check.ofType
  apply h.ite_bind (h.report _ _)
  dsimp only
  split
  · exact h.value _ _ _
  · exact h.report _ _
  · exact h.bind (h.attributes _ _) fun _ => h.children _ _ _
  · exact h.report _ _
  · exact h.pure _

theorem instanceOf (id : ObjectId) (expected : TypeId) :
    R Unit (Check.instanceOf ⟨v, t, visit⟩ id expected)
      (Check.instanceOf ⟨v.withMode mode, t, visit'⟩ id expected) := by
  unfold Check.instanceOf
  refine h.bind (h.ask _) fun o => ?_
  have htype : Check.typeOf ⟨v, t, visit⟩ o expected = Check.typeOf ⟨v.withMode mode, t, visit'⟩ o expected := rfl
  rw [htype]
  split
  · split
    · exact h.ofType _ _ _
    · exact h.report _ _
  · exact h.report _ _

/-- What holds of the visits of a check holds of the check. -/
theorem demand (id : ObjectId) (d : Demand) :
    R Unit (Check.demand ⟨v, t, visit⟩ id d) (Check.demand ⟨v.withMode mode, t, visit'⟩ id d) := by
  cases d with
  | instanceOf type => exact h.instanceOf _ _
  | holderOf type isNullable => exact h.holder _ _ _
  | element e => exact h.element _ _
  | childSet s => exact h.childSet _ _
  | childList item occurs => exact h.childList _ _ _

end Check.Relates

/-- What holds of the visits of a check holds of the check. -/
theorem Check.Respects.demand {v : Validator} {t : Tree}
    {visit : ObjectId → Demand → Walk σ Bool} {visit' : ObjectId → Demand → Walk τ Bool}
    {R : (α : Type) → Walk σ α → Walk τ α → Prop} (h : Check.Respects v t visit visit' R)
    (id : ObjectId) (d : Demand) :
    R Unit (Check.demand ⟨v, t, visit⟩ id d) (Check.demand ⟨v, t, visit'⟩ id d) :=
  h.relates.demand id d

/-- What the hooks keep holds of every visit, by induction on the levels that are left. -/
theorem Validator.Respects.visit {v : Validator} {t : Tree}
    {R : (α : Type) → Walk σ α → Walk τ α → Prop} (h : v.Respects t R) {hooks : Hooks σ}
    {hooks' : Hooks τ}
    (haround : ∀ id w w', R Unit w w' →
      R Bool (Walk.around hooks t id w) (Walk.around hooks' t id w'))
    (levels : Nat) (id : ObjectId) (d : Demand) :
    R Bool (v.visit hooks t levels id d) (v.visit hooks' t levels id d) := by
  induction levels generalizing id d with
  | zero => exact haround _ _ _ (h.report id _)
  | succ levels ih => exact haround _ _ _ (Check.Respects.demand ⟨h, ih⟩ id d)

/-- What the hooks keep holds of every visit in two modes, whatever its results. -/
theorem Validator.Relates.visit {v : Validator} {mode : Mode} {t : Tree}
    {R : (α : Type) → Walk σ α → Walk τ α → Prop} (h : v.Relates mode t R) {hooks : Hooks σ}
    {hooks' : Hooks τ}
    (haround : ∀ id w w', R Unit w w' →
      R Unit (Walk.around hooks t id w >>= fun _ => Pure.pure ())
        (Walk.around hooks' t id w' >>= fun _ => Pure.pure ()))
    (levels : Nat) (id : ObjectId) (d : Demand) :
    R Unit (v.visit hooks t levels id d >>= fun _ => Pure.pure ())
      ((v.withMode mode).visit hooks' t levels id d >>= fun _ => Pure.pure ()) := by
  induction levels generalizing id d with
  | zero => exact haround _ _ _ (h.report id _)
  | succ levels ih => exact haround _ _ _ (Check.Relates.demand ⟨h, ih⟩ id d)

/-- Unless nothing is checked, a validation that ends succeeds if no error came to the ledger. -/
theorem Validator.run_passes {v : Validator} (hv : v.mode ≠ .skip) (w : Walk σ Unit)
    (p : Progress σ) :
    (v.passes w).run.run p =
      match w.run.run p with
      | (.ok _, p') => (.ok (!p'.ledger.hasErrorsSince p.ledger.mark), p')
      | (.error e, p') => (.error e, p') := by
  have h : v.passes w = (do
      let start ← Walk.mark
      w
      Walk.passedSince start : Walk σ Bool) := by
    unfold passes
    split
    · contradiction
    · rfl
  rw [h]
  change (w >>= fun _ => Walk.passedSince p.ledger.mark).run.run p = _
  rw [Walk.run_bind]
  obtain ⟨x, p', hw⟩ : ∃ x p', w.run.run p = (x, p') := ⟨_, _, rfl⟩
  rw [hw]
  cases x <;> rfl

end Schemata
