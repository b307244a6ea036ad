import Schemata.Proofs.Parts
import Schemata.Proofs.Steps

/-!
# Strict validations

In strict mode every finding is an error. So a walk of a validation either passes, which leaves the
progress as it is, or it records an error or ends early; which of these it does, and what a passing
walk tells, does not depend on the progress. This is `Walk.Decided`, and it holds of every part of a
check. A walk of several steps then passes if and only if each step does.
-/

namespace Schemata

namespace Ledger

theorem extend_append (l : Ledger) (ds es : List Diagnostic) :
    l.extend (ds ++ es) = (l.extend ds).extend es :=
  List.foldl_append ..

theorem hasErrorsSince_extend (l : Ledger) (ds : List Diagnostic) :
    (l.extend ds).hasErrorsSince l.mark = ds.any (·.isError) := by
  have h : (l.extend ds).since l.mark = ds := by
    rw [since, toList_extend, mark]
    exact List.drop_left' rfl
  rw [hasErrorsSince, h]

theorem hasErrorsSince_mark (l : Ledger) : l.hasErrorsSince l.mark = false :=
  hasErrorsSince_extend l []

end Ledger

namespace Walk

variable {α β : Type} {w : Walk Unit α} {f : α → Walk Unit β}

/-- The walk ends with a result, and nothing else happens. -/
def Passes (w : Walk Unit α) (a : α) : Prop := ∀ p, w.run.run p = (.ok a, p)

/-- The walk ends early or records errors. -/
def Fails (w : Walk Unit α) : Prop :=
  ∀ p a p', w.run.run p = (.ok a, p') →
    ∃ ds, ds ≠ [] ∧ (∀ d ∈ ds, d.isError) ∧ p'.ledger = p.ledger.extend ds

/-- The walk passes or fails, whatever was recorded before. -/
def Decided (w : Walk Unit α) : Prop := (∃ a, w.Passes a) ∨ w.Fails

/-- Whatever a decided walk records is an error. -/
theorem Decided.records (h : w.Decided) {p p' : Progress Unit} {a : α}
    (hrun : w.run.run p = (.ok a, p')) :
    ∃ ds, (∀ d ∈ ds, d.isError) ∧ p'.ledger = p.ledger.extend ds := by
  rcases h with ⟨x, hx⟩ | h
  · cases (hx p).symm.trans hrun
    exact ⟨[], by simp, rfl⟩
  · obtain ⟨ds, -, hds, hl⟩ := h p a p' hrun
    exact ⟨ds, hds, hl⟩

/-- A walk does not both pass and fail. -/
theorem Fails.not_passes (h : w.Fails) (a : α) : ¬w.Passes a := by
  intro hp
  obtain ⟨ds, hne, -, hl⟩ := h ⟨{}, ()⟩ a _ (hp _)
  have := congrArg (·.entries.toList) hl
  rw [Ledger.toList_extend] at this
  exact hne (by simpa using this)

/-! ## Steps -/

theorem Passes.eq {a b : α} (h : w.Passes a) (h' : w.Passes b) : a = b := by
  cases (h ⟨{}, ()⟩).symm.trans (h' ⟨{}, ()⟩)
  rfl

theorem Passes.run_bind {a : α} (h : w.Passes a) (p : Progress Unit) :
    (w >>= f).run.run p = (f a).run.run p := by
  rw [Walk.run_bind, h p]

theorem Passes.bind {a : α} {b : β} (h : w.Passes a) (hf : (f a).Passes b) :
    (w >>= f).Passes b :=
  fun p => (h.run_bind p).trans (hf p)

theorem passes_pure (a : α) : (pure a : Walk Unit α).Passes a := fun _ => rfl

theorem passes_pure_iff {a b : α} : (pure a : Walk Unit α).Passes b ↔ a = b := by
  constructor
  · exact fun h => (passes_pure a).eq h
  · rintro rfl
    exact passes_pure a

theorem decided_pure (a : α) : (pure a : Walk Unit α).Decided := Or.inl ⟨a, passes_pure a⟩

theorem passes_ask_iff {x : Except TreeFault α} {a : α} :
    (ask x : Walk Unit α).Passes a ↔ x = .ok a := by
  constructor
  · intro h
    exact (Prod.mk.inj (h ⟨{}, ()⟩)).1
  · rintro rfl
    exact fun _ => rfl

theorem fails_throw (e : TreeFault) : (throw e : Walk Unit α).Fails := by
  intro p a p' h
  cases h

theorem decided_ask (x : Except TreeFault α) : (ask x : Walk Unit α).Decided := by
  cases x with
  | ok a => exact Or.inl ⟨a, passes_ask_iff.2 rfl⟩
  | error e => exact Or.inr (fails_throw e)

theorem passes_ask_bind {x : Except TreeFault α} {b : β} :
    (ask x >>= f : Walk Unit β).Passes b ↔ ∃ a, x = .ok a ∧ (f a).Passes b := by
  cases x with
  | ok a =>
    have h : (ask (.ok a) : Walk Unit α).Passes a := passes_ask_iff.2 rfl
    constructor
    · exact fun hb => ⟨a, rfl, fun p => (h.run_bind p).symm.trans (hb p)⟩
    · rintro ⟨_, ⟨⟩, hb⟩
      exact h.bind hb
  | error e =>
    refine ⟨fun hb => ?_, by rintro ⟨_, ⟨⟩, _⟩⟩
    cases hb ⟨{}, ()⟩

theorem fails_note {d : Diagnostic} (h : d.isError) : (note d : Walk Unit Unit).Fails := by
  intro p a p' hrun
  cases hrun
  exact ⟨[d], by simp, by simpa using h, rfl⟩

theorem Fails.bind (h : w.Fails) (hf : ∀ a, (f a).Decided) : (w >>= f).Fails := by
  intro p b p' hrun
  rw [run_bind] at hrun
  split at hrun
  · rename_i a p₁ hw
    obtain ⟨ds, hne, hds, hl⟩ := h p a p₁ hw
    obtain ⟨es, hes, hl'⟩ := (hf a).records hrun
    refine ⟨ds ++ es, by simp [hne], ?_, ?_⟩
    · intro d hd
      exact (List.mem_append.1 hd).elim (hds d) (hes d)
    · rw [hl', hl, Ledger.extend_append]
  · cases hrun

theorem Decided.bind (h : w.Decided) (hf : ∀ a, (f a).Decided) : (w >>= f).Decided := by
  rcases h with ⟨a, ha⟩ | h
  · rcases hf a with ⟨b, hb⟩ | hfa
    · exact Or.inl ⟨b, fun p => (ha.run_bind p).trans (hb p)⟩
    · exact Or.inr fun p b p' hrun => hfa p b p' ((ha.run_bind p).symm.trans hrun)
  · exact Or.inr (h.bind hf)

/-- The first step may depend on a condition. -/
theorem Decided.ite_bind {q : Prop} [Decidable q] {w : Walk Unit Unit} {rest : Walk Unit β}
    (h : w.Decided) (hrest : rest.Decided) :
    (if q then w >>= fun _ => rest else rest).Decided := by
  split
  · exact h.bind fun _ => hrest
  · exact hrest

/-- A walk passes if and only if its steps do. -/
theorem Decided.passes_bind (h : w.Decided) (hf : ∀ a, (f a).Decided) {b : β} :
    (w >>= f).Passes b ↔ ∃ a, w.Passes a ∧ (f a).Passes b := by
  constructor
  · intro hb
    rcases h with ⟨a, ha⟩ | h
    · exact ⟨a, ha, fun p => (ha.run_bind p).symm.trans (hb p)⟩
    · exact absurd hb ((h.bind hf).not_passes b)
  · rintro ⟨a, ha, hb⟩ p
    exact (ha.run_bind p).trans (hb p)

/-- A step that fails is not taken by a walk that passes. -/
theorem Fails.passes_ite_bind {q : Prop} [Decidable q] {w : Walk Unit Unit} {rest : Walk Unit β}
    (h : w.Fails) (hrest : rest.Decided) {b : β} :
    (if q then w >>= fun _ => rest else rest).Passes b ↔ ¬q ∧ rest.Passes b := by
  by_cases hq : q
  · rw [if_pos hq]
    constructor
    · exact fun hb => absurd hb ((h.bind fun _ => hrest).not_passes b)
    · exact fun hb => absurd hq hb.1
  · rw [if_neg hq]
    exact (and_iff_right hq).symm

/-! ## Visits -/

theorem run_around (t : Tree) (id : ObjectId) (check : Walk Unit Unit) (p : Progress Unit) :
    (around Hooks.none t id check).run.run p =
      match check.run.run p with
      | (.ok _, p') => (.ok (!p'.ledger.hasErrorsSince p.ledger.mark), p')
      | (.error e, p') => (.error e, p') := by
  change (check >>= fun _ => (do
    let success ← passedSince p.ledger.mark
    liftM (Hooks.none.validated t id success) : Walk Unit Bool)).run.run p = _
  rw [Walk.run_bind]
  obtain ⟨x, p', h⟩ : ∃ x p', check.run.run p = (x, p') := ⟨_, _, rfl⟩
  rw [h]
  cases x <;> rfl

theorem Passes.around {t : Tree} {id : ObjectId} {check : Walk Unit Unit} (h : check.Passes ()) :
    (around Hooks.none t id check).Passes true := by
  intro p
  rw [run_around, h p]
  simp [Ledger.hasErrorsSince_mark]

theorem Fails.around {t : Tree} {id : ObjectId} {check : Walk Unit Unit} (h : check.Fails) :
    (around Hooks.none t id check).Fails := by
  intro p b p' hrun
  rw [run_around] at hrun
  split at hrun
  · rename_i p₁ hcheck
    cases hrun
    exact h p _ p' hcheck
  · cases hrun

theorem Decided.around {t : Tree} {id : ObjectId} {check : Walk Unit Unit} (h : check.Decided) :
    (around Hooks.none t id check).Decided :=
  h.imp (fun ⟨_, h⟩ => ⟨true, h.around⟩) Fails.around

/-- A visit passes if and only if its check does, and then its result says so. -/
theorem Decided.passes_around {t : Tree} {id : ObjectId} {check : Walk Unit Unit}
    (h : check.Decided) {b : Bool} :
    (Walk.around Hooks.none t id check).Passes b ↔ b = true ∧ check.Passes () := by
  constructor
  · intro hb
    rcases h with ⟨_, hp⟩ | hf
    · exact ⟨hb.eq hp.around, hp⟩
    · exact absurd hb (hf.around.not_passes b)
  · rintro ⟨rfl, hp⟩
    exact hp.around

end Walk

/-! ## Checks -/

namespace Check

open Walk

variable {c : Check Unit} {id : ObjectId}

/-- A check in strict mode whose visits are decided. -/
structure Strict (c : Check Unit) : Prop where
  mode : c.mode = .strict
  visit : ∀ id d, (c.visit id d).Decided

variable (hc : c.Strict)
include hc

theorem fails_report (id : ObjectId) (f : Finding) : (c.report id f).Fails := by
  apply fails_note
  simp [Finding.diagnostic, Finding.severity, Diagnostic.isError, hc.mode]

theorem decided_report (id : ObjectId) (f : Finding) : (c.report id f).Decided :=
  Or.inr (fails_report hc id f)

/-- Every part of a check is decided. -/
theorem respects_decided :
    Respects c.toValidator c.tree c.visit c.visit (Walk.Both fun _ => Decided) where
  pure a := ⟨rfl, decided_pure a⟩
  ask x := ⟨rfl, decided_ask x⟩
  report id f := ⟨rfl, decided_report hc id f⟩
  bind := Both.bind Decided.bind
  visit id d := ⟨rfl, hc.visit id d⟩

theorem decided_reportAll (f : ObjectId → Finding) (ids : List ObjectId) :
    (c.reportAll f ids).Decided :=
  ((respects_decided hc).relates.reportAll f ids).2

theorem decided_below (id : ObjectId) (d : Demand) : (c.below id d).Decided :=
  ((respects_decided hc).relates.below id d).2

theorem decided_holder (id : ObjectId) (type : TypeId) (isNullable : Bool) :
    (c.holder id type isNullable).Decided :=
  ((respects_decided hc).relates.holder id type isNullable).2

theorem decided_declaredAttributes (complex : ObjectId) (as : List Attribute) :
    (c.declaredAttributes complex as).Decided :=
  ((respects_decided hc).relates.declaredAttributes complex as).2

theorem decided_undeclaredAttributes (ids : List ObjectId) :
    (c.undeclaredAttributes ids).Decided :=
  ((respects_decided hc).relates.undeclaredAttributes ids).2

theorem decided_attributes (complex : ObjectId) (declared : Option (List Attribute)) :
    (c.attributes complex declared).Decided :=
  ((respects_decided hc).relates.attributes complex declared).2

theorem decided_members (set : ObjectId) (kind : SetKind) (ms : List Member)
    (available : List ObjectId) : (c.members set kind ms available).Decided :=
  ((respects_decided hc).relates.members set kind ms available).2

theorem decided_choice (id : ObjectId) (s : ChildSet) (names : List String) :
    (c.choice id s names).Decided :=
  ((respects_decided hc).relates.choice id s names).2

theorem decided_items (item : Member) (ids : List ObjectId) : (c.items item ids).Decided :=
  ((respects_decided hc).relates.items item ids).2

theorem decided_children (complex : ObjectId) (present : Option ObjectId)
    (children : Option Children) : (c.children complex present children).Decided :=
  ((respects_decided hc).relates.children complex present children).2

theorem decided_demand (id : ObjectId) (d : Demand) : (c.demand id d).Decided :=
  ((respects_decided hc).demand id d).2

end Check

/-! ## Validations -/

namespace Validator

open Walk

variable {v : Validator} (hv : v.mode = .strict) (t : Tree)
include hv

/-- Every visit is decided, by induction on the levels that are left. -/
theorem decided_visit (levels : Nat) (id : ObjectId) (d : Demand) :
    (v.visit Hooks.none t levels id d).Decided := by
  induction levels generalizing id d with
  | zero =>
    refine Or.inr (Fails.around (fails_note ?_))
    simp [Finding.diagnostic, Finding.severity, Diagnostic.isError, hv]
  | succ levels ih => exact (Check.decided_demand ⟨hv, ih⟩ id d).around

/-- A visit passes if there is a level left for it and the check of the object passes. -/
theorem passes_visit {levels : Nat} {id : ObjectId} {d : Demand} {b : Bool} :
    (v.visit Hooks.none t levels id d).Passes b ↔ b = true ∧ ∃ n, levels = n + 1 ∧
      (Check.demand ⟨v, t, v.visit Hooks.none t n⟩ id d).Passes () := by
  cases levels with
  | zero =>
    have hf : (v.visit Hooks.none t 0 id d).Fails := by
      refine Fails.around (fails_note ?_)
      simp [Finding.diagnostic, Finding.severity, Diagnostic.isError, hv]
    exact ⟨fun h => absurd h (hf.not_passes b), by simp⟩
  | succ n =>
    have hd := Check.decided_demand (c := ⟨v, t, v.visit Hooks.none t n⟩)
      ⟨hv, decided_visit hv t n⟩ id d
    exact hd.passes_around.trans (by simp)

/-- A validation succeeds if and only if its one visit passes. -/
theorem validate_eq_true {id : ObjectId} {type : TypeId} {ledger : Ledger} :
    (v.validate t id type ledger).1 = .ok true ↔
      (v.visit Hooks.none t (v.limits.objectDepth + 1) id (.instanceOf type)).Passes true := by
  have hvisit := decided_visit hv t (v.limits.objectDepth + 1) id (.instanceOf type)
  have hstart : (v.start Hooks.none t id (.instanceOf type)).Decided :=
    hvisit.bind fun _ => decided_pure _
  have hiff : (v.start Hooks.none t id (.instanceOf type)).Passes () ↔
      (v.visit Hooks.none t (v.limits.objectDepth + 1) id (.instanceOf type)).Passes true := by
    refine (hvisit.passes_bind fun _ => decided_pure _).trans
      ⟨?_, fun h => ⟨true, h, passes_pure _⟩⟩
    rintro ⟨b, hb, -⟩
    obtain rfl := ((passes_visit hv t).1 hb).1
    exact hb
  rw [← hiff]
  change ((v.passes (v.start Hooks.none t id (.instanceOf type))).run.run ⟨ledger, ()⟩).1 = _ ↔ _
  rw [run_passes (by simp [hv])]
  constructor
  · intro h
    rcases hstart with ⟨_, hp⟩ | hf
    · exact hp
    · split at h
      · rename_i p' hrun
        obtain ⟨ds, hne, hds, hl⟩ := hf _ _ p' hrun
        obtain ⟨d, hd⟩ := List.exists_mem_of_ne_nil ds hne
        have herr : ds.any (·.isError) = true := List.any_eq_true.2 ⟨d, hd, hds d hd⟩
        rw [hl, Ledger.hasErrorsSince_extend, herr] at h
        cases h
      · cases h
  · intro h
    rw [h ⟨ledger, ()⟩]
    simp [Ledger.hasErrorsSince_mark]

end Validator

end Schemata
