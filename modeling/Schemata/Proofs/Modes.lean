import Schemata.Proofs.Outcomes

/-!
# Lax validations

In lax mode a validation takes the same walk as in strict mode. Both find the same, and only the
gravity of what is redundant differs: `Validator.lax_softens_strict`. A check that looked at the
result of a visit would break this, since the visit of an object with a redundant attribute fails in
strict mode and passes in lax mode. No check does, so it is enough to compare visits whose results
are dropped (`Walk.Softens`).
-/

namespace Schemata

/-! ## What is redundant -/

/-- Whether a code is one of the two for what an object has beyond its type. -/
def Code.IsRedundancy (c : Code) : Prop := c = .redundantAttribute ∨ c = .redundantChildMember

instance (c : Code) : Decidable c.IsRedundancy := inferInstanceAs (Decidable (_ ∨ _))

/-- A diagnostic with what is redundant made a warning. -/
def Diagnostic.softened (d : Diagnostic) : Diagnostic :=
  if d.code.IsRedundancy then { d with severity := .warning } else d

theorem Diagnostic.isError_softened (d : Diagnostic) :
    d.softened.isError = true ↔ d.isError = true ∧ ¬d.code.IsRedundancy := by
  unfold softened
  split
  · rename_i h
    exact ⟨fun herr => absurd herr (by simp [isError]), fun herr => absurd h herr.2⟩
  · rename_i h
    exact (and_iff_left h).symm

/-- Errors leave no error if and only if all of them are redundant. -/
theorem Diagnostic.any_softened {ds : List Diagnostic} (hds : ∀ d ∈ ds, d.isError) :
    (ds.map softened).any (·.isError) = false ↔ ∀ d ∈ ds, d.code.IsRedundancy := by
  rw [List.any_map, List.any_eq_false]
  refine forall₂_congr fun d hd => ?_
  rw [Function.comp_apply, isError_softened, not_and_not_right]
  exact forall_prop_of_true (hds d hd)

theorem FacetViolation.not_isRedundancy_code (v : FacetViolation) : ¬v.code.IsRedundancy := by
  cases v <;> simp [code, Code.IsRedundancy]

namespace Finding

/-- The findings of redundancy are those with one of the two codes. -/
theorem isRedundancy_code (f : Finding) : f.code.IsRedundancy ↔ f.isRedundancy := by
  cases f with
  | violation v => exact iff_of_false v.not_isRedundancy_code (by simp [isRedundancy])
  | _ => simp [code, Code.IsRedundancy, isRedundancy]

theorem isError_strict (t : Tree) (id : ObjectId) (f : Finding) :
    (f.diagnostic .strict t id).isError := by
  simp [diagnostic, severity, Diagnostic.isError]

theorem softened_diagnostic (t : Tree) (id : ObjectId) (f : Finding) :
    (f.diagnostic .strict t id).softened = f.diagnostic .lax t id := by
  have hcode : (f.diagnostic .strict t id).code = f.code := rfl
  unfold Diagnostic.softened
  rw [hcode]
  by_cases h : f.isRedundancy
  · rw [if_pos (f.isRedundancy_code.2 h)]
    simp [diagnostic, severity, h]
  · rw [if_neg (mt f.isRedundancy_code.1 h)]
    simp [diagnostic, severity, h]

end Finding

theorem Found.map_softened (t : Tree) (found : List Found) :
    (found.map (Found.diagnostic .strict t)).map Diagnostic.softened =
      found.map (Found.diagnostic .lax t) := by
  rw [List.map_map]
  exact List.map_congr_left fun x _ => Finding.softened_diagnostic t x.object x.finding

/-! ## Walks in both modes -/

namespace Walk

variable {α β : Type} {t : Tree} {w w' : Walk Unit α} {f f' : α → Walk Unit β}

/-- The walks end alike and find the same, and the one records it as in strict mode and the other as
in lax mode. -/
def Softens (t : Tree) (α : Type) (w w' : Walk Unit α) : Prop :=
  ∀ p p' : Progress Unit, ∃ (x : Except TreeFault α) (found : List Found),
    w.run.run p = (x, ⟨p.ledger.extend (found.map (Found.diagnostic .strict t)), ()⟩) ∧
    w'.run.run p' = (x, ⟨p'.ledger.extend (found.map (Found.diagnostic .lax t)), ()⟩)

theorem Softens.bind (hw : Softens t α w w') (hf : ∀ a, Softens t β (f a) (f' a)) :
    Softens t β (w >>= f) (w' >>= f') := by
  intro p p'
  obtain ⟨x, found, hrun, hrun'⟩ := hw p p'
  rw [run_bind, run_bind, hrun, hrun']
  cases x with
  | error e => exact ⟨.error e, found, rfl, rfl⟩
  | ok a =>
    obtain ⟨y, found', hrest, hrest'⟩ :=
      hf a ⟨p.ledger.extend (found.map (Found.diagnostic .strict t)), ()⟩
        ⟨p'.ledger.extend (found.map (Found.diagnostic .lax t)), ()⟩
    refine ⟨y, found ++ found', ?_, ?_⟩
    · rw [List.map_append, Ledger.extend_append]
      exact hrest
    · rw [List.map_append, Ledger.extend_append]
      exact hrest'

theorem relates_softens (v : Validator) (hv : v.mode = .strict) (t : Tree) :
    v.Relates .lax t (Softens t) where
  pure a _ _ := ⟨.ok a, [], rfl, rfl⟩
  ask x _ _ := ⟨x, [], rfl, rfl⟩
  report id f _ _ := ⟨.ok (), [⟨id, f⟩], by rw [hv]; rfl, rfl⟩
  bind := Softens.bind

/-- Visits may have different results, but apart from these they are alike if their checks are. -/
theorem Softens.around {id : ObjectId} {w w' : Walk Unit Unit} (h : Softens t Unit w w') :
    Softens t Unit (Walk.around Hooks.none t id w >>= fun _ => pure ())
      (Walk.around Hooks.none t id w' >>= fun _ => pure ()) := by
  intro p p'
  obtain ⟨x, found, hrun, hrun'⟩ := h p p'
  rw [run_bind, run_bind, run_around, run_around, hrun, hrun']
  cases x with
  | error e => exact ⟨.error e, found, rfl, rfl⟩
  | ok _ => exact ⟨.ok (), found, rfl, rfl⟩

end Walk

/-! ## Validations -/

namespace Validator

open Walk

variable {v : Validator} {t : Tree} {id : ObjectId} {type : TypeId} {ledger : Ledger}

/-- What a validation answers goes by what its one visit records. -/
theorem validate_of_visit (hv : v.mode ≠ .skip) {x : Except TreeFault Unit} {ds : List Diagnostic}
    (hvisit : (v.visit Hooks.none t (v.limits.objectDepth + 1) id (.instanceOf type) >>=
      fun _ => pure ()).run.run ⟨ledger, ()⟩ = (x, ⟨ledger.extend ds, ()⟩)) :
    v.validate t id type ledger = (x.map fun _ => !ds.any (·.isError), ledger.extend ds) := by
  have hstart : (v.start Hooks.none t id (.instanceOf type)).run.run ⟨ledger, ()⟩ =
      (x, ⟨ledger.extend ds, ()⟩) := hvisit
  rw [validate, run, validateWith, run_passes hv, hstart]
  cases x with
  | error e => rfl
  | ok _ =>
    dsimp only
    rw [Ledger.hasErrorsSince_extend]
    rfl

/-- A validation in lax mode records what it records in strict mode, in the same order, with what is
redundant made a warning; in strict mode everything is an error. It fails to answer if the strict
one does. So what is valid in strict mode is valid in lax mode, and an object is valid in lax mode
if and only if all that is wrong with it in strict mode is redundant. -/
theorem lax_softens_strict (v : Validator) (t : Tree) (id : ObjectId) (type : TypeId)
    (ledger : Ledger) :
    ∃ ds : List Diagnostic, (∀ d ∈ ds, d.isError) ∧
      ((v.withMode .strict).validate t id type ledger).2 = ledger.extend ds ∧
      ((v.withMode .lax).validate t id type ledger).2 = ledger.extend (ds.map (·.softened)) ∧
      (∀ fault, ((v.withMode .strict).validate t id type ledger).1 = .error fault ↔
        ((v.withMode .lax).validate t id type ledger).1 = .error fault) ∧
      (((v.withMode .strict).validate t id type ledger).1 = .ok true →
        ((v.withMode .lax).validate t id type ledger).1 = .ok true) ∧
      (((v.withMode .lax).validate t id type ledger).1 = .ok true ↔
        (∃ valid, ((v.withMode .strict).validate t id type ledger).1 = .ok valid) ∧
          ∀ d ∈ ds, d.code = .redundantAttribute ∨ d.code = .redundantChildMember) := by
  have hvisit := (relates_softens (v.withMode .strict) rfl t).visit
    (fun _ _ _ => Softens.around) (v.limits.objectDepth + 1) id (.instanceOf type)
  obtain ⟨x, found, hstrict, hlax⟩ := hvisit ⟨ledger, ()⟩ ⟨ledger, ()⟩
  have hds : ∀ d ∈ found.map (Found.diagnostic .strict t), d.isError := by
    intro d hd
    obtain ⟨f, -, rfl⟩ := List.mem_map.1 hd
    exact Finding.isError_strict t f.object f.finding
  have hmap := Found.map_softened t found
  generalize found.map (Found.diagnostic .strict t) = ds at hstrict hds hmap
  rw [← hmap] at hlax
  rw [validate_of_visit (v := v.withMode .strict) (by simp) hstrict,
    validate_of_visit (v := v.withMode .lax) (by simp) hlax]
  refine ⟨ds, hds, rfl, rfl, ?_⟩
  cases x with
  | error e =>
    refine ⟨fun _ => Iff.rfl, fun h => (nomatch h), fun h => (nomatch h), ?_⟩
    rintro ⟨⟨_, h⟩, -⟩
    exact nomatch h
  | ok _ =>
    have hlax : (.ok (!(ds.map Diagnostic.softened).any (·.isError)) : Except TreeFault Bool) =
        .ok true ↔ ∀ d ∈ ds, d.code.IsRedundancy := by
      rw [← Diagnostic.any_softened hds, Except.ok.injEq, Bool.not_eq_true']
    refine ⟨fun _ => ⟨fun h => (nomatch h), fun h => (nomatch h)⟩, fun h => hlax.2 fun d hd => ?_, ?_⟩
    · have hnone : (!ds.any (·.isError)) = true := Except.ok.inj h
      rw [Bool.not_eq_true', List.any_eq_false] at hnone
      exact absurd (hds d hd) (hnone d hd)
    · exact hlax.trans (and_iff_right ⟨_, rfl⟩).symm

/-- A badge with a badge number, which its type does not declare. -/
def numberedBadge : List Operation :=
  badge ++ [.newAttribute "number", .addAttribute ⟨1⟩ ⟨4⟩]

example :
    (validate ⟨schemaOf badges {}, .strict, {}⟩ (Tree.performAll {} numberedBadge) ⟨0⟩ ⟨22⟩ {}).1 =
      .ok false ∧
    (validate ⟨schemaOf badges {}, .lax, {}⟩ (Tree.performAll {} numberedBadge) ⟨0⟩ ⟨22⟩ {}).1 =
      .ok true := by
  decide +kernel

end Validator

end Schemata
