import Schemata.Proofs.Finiteness
import Schemata.Proofs.Modes
import Schemata.Proofs.Outcomes

/-!
# The depth of visits

A validation may visit an object again below itself, since references are followed; what bounds it
is the depth of its visits. The depth does not show in the outcome, so a validation is watched
(`Validator.watch`): the visits go on as before, and each of them is written down with its depth,
its object and whether the object was checked. To watch a validation changes neither its outcome nor
what it records, and no check lies deeper than the bound, while each deeper visit has its error
(`Walk.Watches`, `Validator.watches_watch`). So a validation in a tree that is built by operations
ends, and it does not succeed if it comes to an object beyond the bound
(`Validator.boundsVisits_of_built`).
-/

namespace Schemata

/-- A visit: how many visits it lies in, its object, and whether the object was checked. -/
structure Sight where
  depth : Nat
  object : ObjectId
  checked : Bool
  deriving DecidableEq

/-- The hooks that do nothing, beside a log of visits. -/
def Hooks.idle : Hooks (List Sight) where
  validating _ _ := pure true
  validated _ _ success := pure success

/-- Write down a visit. -/
def Walk.see (s : Sight) : Walk (List Sight) Unit :=
  modify fun p => { p with hooks := p.hooks ++ [s] }

namespace Validator

/-- What is recorded of an object that lies too deep. -/
def tooDeep (v : Validator) (t : Tree) (id : ObjectId) : Diagnostic :=
  (Finding.tooDeep v.limits.objectDepth).diagnostic v.mode t id

/-- `Validator.visit` with a log. The first number counts the levels that are left, as there; the
second one counts the visits that this one lies in. -/
def watch (v : Validator) (t : Tree) : Nat → Nat → ObjectId → Demand → Walk (List Sight) Bool
  | 0, depth, id, _ => Walk.around Hooks.idle t id do
      Walk.see ⟨depth, id, false⟩
      Walk.note (v.tooDeep t id)
  | levels + 1, depth, id, d => Walk.around Hooks.idle t id do
      Walk.see ⟨depth, id, true⟩
      Check.demand ⟨v, t, v.watch t levels (depth + 1)⟩ id d

/-- `Validator.validateWith` without hooks, with a log of its visits. -/
def watchAll (v : Validator) (t : Tree) (id : ObjectId) (type : TypeId) : Walk (List Sight) Bool :=
  v.passes do
    let _ ← v.watch t (v.limits.objectDepth + 1) 0 id (.instanceOf type)

/-- The visits keep the bound: objects are checked at every depth up to it and at none beyond, and
beyond it there is an error for each visit, in their order. -/
structure KeepsBound (v : Validator) (t : Tree) (seen : List Sight) (ds : List Diagnostic) :
    Prop where
  checked : ∀ s ∈ seen, s.checked = true ↔ s.depth ≤ v.limits.objectDepth
  recorded : ((seen.filter fun s => v.limits.objectDepth < s.depth).map
    fun s => v.tooDeep t s.object).Sublist ds

variable {v : Validator} {t : Tree}

namespace KeepsBound

theorem empty (ds : List Diagnostic) : v.KeepsBound t [] ds where
  checked := by simp
  recorded := List.nil_sublist ds

theorem append {seen seen' : List Sight} {ds ds' : List Diagnostic} (h : v.KeepsBound t seen ds)
    (h' : v.KeepsBound t seen' ds') : v.KeepsBound t (seen ++ seen') (ds ++ ds') where
  checked s hs := (List.mem_append.1 hs).elim (h.checked s) (h'.checked s)
  recorded := by
    rw [List.filter_append, List.map_append]
    exact h.recorded.append h'.recorded

theorem of_checked {depth : Nat} (h : depth ≤ v.limits.objectDepth) (id : ObjectId) :
    v.KeepsBound t [⟨depth, id, true⟩] [] where
  checked s hs := by
    rw [List.mem_singleton.1 hs]
    exact iff_of_true rfl h
  recorded := by simp [Nat.not_lt.2 h]

theorem of_tooDeep {depth : Nat} (h : v.limits.objectDepth < depth) (id : ObjectId) :
    v.KeepsBound t [⟨depth, id, false⟩] [v.tooDeep t id] where
  checked s hs := by
    rw [List.mem_singleton.1 hs]
    exact iff_of_false Bool.false_ne_true (Nat.not_le.2 h)
  recorded := by simp [h]

/-- A visit beyond the bound leaves an error. -/
theorem exists_error {seen : List Sight} {ds : List Diagnostic} (h : v.KeepsBound t seen ds)
    {s : Sight} (hs : s ∈ seen) (hdeep : v.limits.objectDepth < s.depth) :
    ∃ d ∈ ds, d.isError = true := by
  refine ⟨v.tooDeep t s.object, h.recorded.subset ?_, Finding.isError_diagnostic _ _ _ rfl⟩
  exact List.mem_map.2 ⟨s, List.mem_filter.2 ⟨hs, decide_eq_true hdeep⟩, rfl⟩

end KeepsBound

end Validator

/-! ## Watching changes nothing -/

namespace Walk

variable {α β : Type} {v : Validator} {t : Tree}

/-- The second walk ends like the first one and records the same, and the visits that it writes down
keep the bound. -/
def Watches (v : Validator) (t : Tree) (α : Type) (w : Walk Unit α) (w' : Walk (List Sight) α) :
    Prop :=
  ∀ ledger seen, ∃ (x : Except TreeFault α) (ds : List Diagnostic) (new : List Sight),
    w.run.run ⟨ledger, ()⟩ = (x, ⟨ledger.extend ds, ()⟩) ∧
    w'.run.run ⟨ledger, seen⟩ = (x, ⟨ledger.extend ds, seen ++ new⟩) ∧ v.KeepsBound t new ds

theorem Watches.bind {w : Walk Unit α} {w' : Walk (List Sight) α} {f : α → Walk Unit β}
    {f' : α → Walk (List Sight) β} (hw : Watches v t α w w')
    (hf : ∀ a, Watches v t β (f a) (f' a)) :
    Watches v t β (w >>= f) (w' >>= f') := by
  intro ledger seen
  obtain ⟨x, ds, new, hrun, hrun', hkeeps⟩ := hw ledger seen
  rw [run_bind, run_bind, hrun, hrun']
  cases x with
  | error e => exact ⟨.error e, ds, new, rfl, rfl, hkeeps⟩
  | ok a =>
    obtain ⟨y, ds', new', hrest, hrest', hkeeps'⟩ := hf a (ledger.extend ds) (seen ++ new)
    refine ⟨y, ds ++ ds', new ++ new', ?_, ?_, hkeeps.append hkeeps'⟩
    · rw [Ledger.extend_append]
      exact hrest
    · rw [Ledger.extend_append, ← List.append_assoc]
      exact hrest'

/-- A walk that writes nothing down watches another one that does the same. -/
theorem watches_of_run {w : Walk Unit α} {w' : Walk (List Sight) α} {x : Except TreeFault α}
    (ds : List Diagnostic) (h : ∀ ledger, w.run.run ⟨ledger, ()⟩ = (x, ⟨ledger.extend ds, ()⟩))
    (h' : ∀ ledger seen, w'.run.run ⟨ledger, seen⟩ = (x, ⟨ledger.extend ds, seen⟩)) :
    Watches v t α w w' := by
  intro ledger seen
  refine ⟨x, ds, [], h ledger, ?_, .empty ds⟩
  rw [List.append_nil]
  exact h' ledger seen

theorem respects_watches (v : Validator) (t : Tree) : v.Respects t (Watches v t) where
  pure _ := watches_of_run [] (fun _ => rfl) fun _ _ => rfl
  ask _ := watches_of_run [] (fun _ => rfl) fun _ _ => rfl
  report id f := watches_of_run [f.diagnostic v.mode t id] (fun _ => rfl) fun _ _ => rfl
  bind := Watches.bind

/-- A visit is written down before its check. -/
theorem Watches.see {w : Walk Unit Unit} {w' : Walk (List Sight) Unit} (s : Sight)
    (h : ∀ ledger seen, ∃ (x : Except TreeFault Unit) (ds : List Diagnostic) (new : List Sight),
      w.run.run ⟨ledger, ()⟩ = (x, ⟨ledger.extend ds, ()⟩) ∧
      w'.run.run ⟨ledger, seen⟩ = (x, ⟨ledger.extend ds, seen ++ new⟩) ∧
      v.KeepsBound t (s :: new) ds) :
    Watches v t Unit w (Walk.see s >>= fun _ => w') := by
  intro ledger seen
  obtain ⟨x, ds, new, hrun, hrun', hkeeps⟩ := h ledger (seen ++ [s])
  refine ⟨x, ds, s :: new, hrun, ?_, hkeeps⟩
  rw [run_bind]
  rw [List.append_assoc] at hrun'
  exact hrun'

/-- The hooks that do nothing tell whether an error was recorded. -/
theorem run_around_idle (t : Tree) (id : ObjectId) (check : Walk (List Sight) Unit)
    (p : Progress (List Sight)) :
    (around Hooks.idle t id check).run.run p =
      match check.run.run p with
      | (.ok _, p') => (.ok (!p'.ledger.hasErrorsSince p.ledger.mark), p')
      | (.error e, p') => (.error e, p') := by
  change (check >>= fun _ => (do
    let success ← passedSince p.ledger.mark
    liftM (Hooks.idle.validated t id success) : Walk (List Sight) Bool)).run.run p = _
  rw [Walk.run_bind]
  obtain ⟨x, p', h⟩ : ∃ x p', check.run.run p = (x, p') := ⟨_, _, rfl⟩
  rw [h]
  cases x <;> rfl

theorem Watches.around {id : ObjectId} {w : Walk Unit Unit} {w' : Walk (List Sight) Unit}
    (h : Watches v t Unit w w') :
    Watches v t Bool (Walk.around Hooks.none t id w) (Walk.around Hooks.idle t id w') := by
  intro ledger seen
  obtain ⟨x, ds, new, hrun, hrun', hkeeps⟩ := h ledger seen
  refine ⟨x.map fun _ => !(ledger.extend ds).hasErrorsSince ledger.mark, ds, new, ?_, ?_, hkeeps⟩
  · rw [run_around, hrun]
    cases x <;> rfl
  · rw [run_around_idle, hrun']
    cases x <;> rfl

end Walk

/-! ## Validations -/

namespace Validator

open Walk

variable {v : Validator} {t : Tree}

/-- **A watched visit is the visit**, by induction on the levels that are left: these and the depth
add up to one level more than the bound. -/
theorem watches_watch {levels depth : Nat} (h : depth + levels = v.limits.objectDepth + 1)
    (id : ObjectId) (d : Demand) :
    Watches v t Bool (v.visit Hooks.none t levels id d) (v.watch t levels depth id d) := by
  induction levels generalizing depth id d with
  | zero =>
    refine Watches.around (Watches.see _ fun ledger seen => ?_)
    refine ⟨.ok (), [v.tooDeep t id], [], rfl, ?_, .of_tooDeep (by omega) id⟩
    rw [List.append_nil]
    rfl
  | succ levels ih =>
    refine Watches.around (Watches.see _ fun ledger seen => ?_)
    have hvisit : ∀ id d, Watches v t Bool (v.visit Hooks.none t levels id d)
        (v.watch t levels (depth + 1) id d) := ih (by omega)
    have hcheck := Check.Respects.demand ⟨respects_watches v t, hvisit⟩ id d
    obtain ⟨x, ds, new, hrun, hrun', hkeeps⟩ := hcheck ledger seen
    refine ⟨x, ds, new, hrun, hrun', ?_⟩
    have hfirst : v.KeepsBound t [⟨depth, id, true⟩] [] := .of_checked (by omega) id
    exact hfirst.append hkeeps

/-- A validation ends with an outcome; watching it gives the same one and the same ledger, the
visits keep the bound, and it does not succeed if one of them lies beyond the bound. -/
def BoundsVisits (v : Validator) (t : Tree) (id : ObjectId) (type : TypeId) (ledger : Ledger) :
    Prop :=
  ∃ (valid : Bool) (ds : List Diagnostic) (seen : List Sight),
    v.validate t id type ledger = (.ok valid, ledger.extend ds) ∧
    (v.watchAll t id type).run.run ⟨ledger, []⟩ = (.ok valid, ⟨ledger.extend ds, seen⟩) ∧
    v.KeepsBound t seen ds ∧
    ((∃ s ∈ seen, v.limits.objectDepth < s.depth) → valid = false)

/-- **No object is checked beyond the bound**, in a tree that is built by operations and whatever
refers to whatever: each validation ends, and each visit beyond the bound makes it fail with an
error for the object. -/
theorem boundsVisits_of_built {ops : List Operation} (ht : Tree.performAll {} ops = t) {o : Object}
    {id : ObjectId} (ho : t.get id = .ok o) (v : Validator) (type : TypeId) (ledger : Ledger) :
    v.BoundsVisits t id type ledger := by
  obtain ⟨-, hanswers, -, -⟩ := answers_of_built ht ho v ledger
  obtain ⟨found, -, hvalidate⟩ := hanswers type
  by_cases hv : v.mode = .skip
  · refine ⟨true, [], [], ?_, ?_, .empty [], by simp⟩
    · simp only [validate, validateWith, run, passes, hv]
      rfl
    · simp only [watchAll, passes, hv]
      rfl
  · have hwatch := watches_watch (v := v) (t := t) (Nat.zero_add _) id (.instanceOf type)
    have hsteps := respects_watches v t
    obtain ⟨x, ds, seen, hrun, hrun', hkeeps⟩ :=
      (hsteps.bind hwatch fun _ => hsteps.pure ()) ledger []
    rw [validate_of_visit hv hrun] at hvalidate
    cases x with
    | error e => cases hvalidate
    | ok _ =>
      refine ⟨!ds.any (·.isError), ds, seen, validate_of_visit hv hrun, ?_, hkeeps, ?_⟩
      · rw [watchAll, run_passes hv, hrun']
        dsimp only
        rw [Ledger.hasErrorsSince_extend, List.nil_append]
      · rintro ⟨s, hs, hdeep⟩
        rw [Bool.not_eq_false', List.any_eq_true]
        exact hkeeps.exists_error hs hdeep

/-- In the knot each object is visited again below itself. With a bound of 4 the element that is met
for the second time is too deep to be checked. -/
theorem knot_bounds_visits : Accepts Tree.links {} (schemaOf Tree.links {}) ∧
    BoundsVisits ⟨schemaOf Tree.links {}, .strict, { objectDepth := 4 }⟩
      (Tree.performAll {} Tree.knot) ⟨1⟩ ⟨22⟩ {} ∧
    ((watchAll ⟨schemaOf Tree.links {}, .strict, { objectDepth := 4 }⟩
      (Tree.performAll {} Tree.knot) ⟨1⟩ ⟨22⟩).run.run ⟨{}, []⟩).2.hooks =
        [⟨0, ⟨1⟩, true⟩, ⟨1, ⟨2⟩, true⟩, ⟨2, ⟨3⟩, true⟩, ⟨3, ⟨1⟩, true⟩, ⟨4, ⟨2⟩, true⟩,
          ⟨5, ⟨3⟩, false⟩] ∧
    (validate ⟨schemaOf Tree.links {}, .strict, { objectDepth := 4 }⟩
      (Tree.performAll {} Tree.knot) ⟨1⟩ ⟨22⟩ {}).1 = .ok false := by
  have hget : (Tree.performAll {} Tree.knot).get ⟨1⟩ = .ok (.complex none none (some ⟨2⟩)) := by
    rfl
  exact ⟨accepts_schemaOf (by decide +kernel), boundsVisits_of_built rfl hget _ _ _,
    by decide +kernel, by decide +kernel⟩

end Validator

end Schemata
