import Schemata.Objects.Editing
import Schemata.Proofs.Compilation
import Schemata.Proofs.Walks

/-!
# Hooks that refuse

A hook may refuse an object: it says that the object is not to be checked, or that it did not pass.
The outcome of a validation looks at the ledger alone. So hooks that only add to the ledger, and
that record an error with each refusal, make the validation fail, while a refusal that nobody
records goes unseen.

What the hooks of a run answer is what `Hooks.logged` writes down beside it; the run itself is the
same (`Validator.run_logged`).
-/

namespace Schemata

variable {σ α β : Type}

/-! ## Logs -/

/-- An answer of a hook. -/
inductive Answer
  /-- Whether to check an object. -/
  | validating (id : ObjectId) (checks : Bool)
  /-- The result of the visit of an object that was found to pass or not. -/
  | validated (id : ObjectId) (success result : Bool)
  deriving DecidableEq

/-- Whether an answer refuses an object: any object is refused before its check, and the one with
which a validation starts may also be refused after it. -/
def Answer.refuses (start : ObjectId) : Answer → Bool
  | .validating _ checks => !checks
  | .validated id _ result => decide (id = start) && !result

/-- The progress with a log of answers beside the state of the hooks. -/
def Progress.withLog (p : Progress σ) (log : List Answer) : Progress (σ × List Answer) :=
  ⟨p.ledger, (p.hooks, log)⟩

/-- A hook that also logs its answer. -/
def Hooks.logging (hook : StateM (Progress σ) Bool) (answer : Bool → Answer) :
    StateM (Progress (σ × List Answer)) Bool := fun p =>
  let (b, after) := hook ⟨p.ledger, p.hooks.1⟩
  (b, after.withLog (p.hooks.2 ++ [answer b]))

/-- The hooks with a log of what they answer. -/
def Hooks.logged (hooks : Hooks σ) : Hooks (σ × List Answer) where
  validating t id := logging (hooks.validating t id) (.validating id)
  validated t id success := logging (hooks.validated t id success) (.validated id success)

theorem Hooks.run_logging (hook : StateM (Progress σ) Bool) (answer : Bool → Answer)
    (p : Progress σ) (log : List Answer) :
    (logging hook answer).run (p.withLog log) =
      ((hook.run p).1, (hook.run p).2.withLog (log ++ [answer (hook.run p).1])) := rfl

namespace Walk

theorem run_liftM (m : StateM (Progress σ) α) (p : Progress σ) :
    (liftM m : Walk σ α).run.run p = (.ok (m.run p).1, (m.run p).2) := rfl

section Around

variable {hooks : Hooks σ} {t : Tree} {id : ObjectId} {check : Walk σ Unit} {p p₁ p₂ : Progress σ}

theorem run_around_validating {b : Bool} (h : (hooks.validating t id).run p = (b, p₁)) :
    (around hooks t id check).run.run p = (if b = true then
        check >>= fun _ => passedSince p.ledger.mark >>= fun success =>
          liftM (hooks.validated t id success)
      else liftM (hooks.validated t id false) : Walk σ Bool).run.run p₁ := by
  change (liftM (hooks.validating t id) >>= fun b => if b = true then
      check >>= fun _ => passedSince p.ledger.mark >>= fun success =>
        liftM (hooks.validated t id success)
    else liftM (hooks.validated t id false) : Walk σ Bool).run.run p = _
  rw [run_bind, run_liftM, h]

/-- An object that is refused is not checked, and the last hook is told so. -/
theorem run_around_of_refused (h : (hooks.validating t id).run p = (false, p₁)) :
    (around hooks t id check).run.run p =
      (liftM (hooks.validated t id false) : Walk σ Bool).run.run p₁ :=
  run_around_validating h

theorem run_around_of_error {e : TreeFault} (h : (hooks.validating t id).run p = (true, p₁))
    (hcheck : check.run.run p₁ = (.error e, p₂)) :
    (around hooks t id check).run.run p = (.error e, p₂) := by
  rw [run_around_validating h, if_pos rfl, run_bind, hcheck]

/-- After the check the last hook is told whether an error came to the ledger since the start. -/
theorem run_around_of_ok (h : (hooks.validating t id).run p = (true, p₁))
    (hcheck : check.run.run p₁ = (.ok (), p₂)) :
    (around hooks t id check).run.run p =
      (liftM (hooks.validated t id (!p₂.ledger.hasErrorsSince p.ledger.mark)) :
        Walk σ Bool).run.run p₂ := by
  rw [run_around_validating h, if_pos rfl, run_bind, hcheck]
  rfl

end Around

end Walk

/-! ## Logging changes nothing -/

/-- A walk that logs answers and ends like another one. -/
def Walk.Mirrors (α : Type) (w : Walk σ α) (w' : Walk (σ × List Answer) α) : Prop :=
  ∀ p log, ∃ log', w'.run.run (p.withLog log) = ((w.run.run p).1, (w.run.run p).2.withLog log')

namespace Walk

theorem Mirrors.bind {w : Walk σ α} {w' : Walk (σ × List Answer) α} {f : α → Walk σ β}
    {f' : α → Walk (σ × List Answer) β} (hw : Mirrors α w w') (hf : ∀ a, Mirrors β (f a) (f' a)) :
    Mirrors β (w >>= f) (w' >>= f') := by
  intro p log
  obtain ⟨log₁, hw⟩ := hw p log
  obtain ⟨x, p₁, h₁⟩ : ∃ x p₁, w.run.run p = (x, p₁) := ⟨_, _, rfl⟩
  rw [run_bind, run_bind, hw, h₁]
  cases x with
  | error e => exact ⟨log₁, rfl⟩
  | ok a => exact hf a p₁ log₁

variable (σ) in
theorem respects_mirrors (v : Validator) (t : Tree) :
    v.Respects t (Mirrors : (α : Type) → Walk σ α → _ → Prop) where
  pure _ _ log := ⟨log, rfl⟩
  ask _ _ log := ⟨log, rfl⟩
  report _ _ _ log := ⟨log, rfl⟩
  bind := Mirrors.bind

theorem Mirrors.around {w : Walk σ Unit} {w' : Walk (σ × List Answer) Unit} (hooks : Hooks σ)
    (t : Tree) (id : ObjectId) (hw : Mirrors Unit w w') :
    Mirrors Bool (around hooks t id w) (around hooks.logged t id w') := by
  intro p log
  have hlast : ∀ success, Mirrors Bool (liftM (hooks.validated t id success) : Walk σ Bool)
      (liftM (hooks.logged.validated t id success) : Walk (σ × List Answer) Bool) := by
    intro success p log
    exact ⟨_, by rw [run_liftM, run_liftM, Hooks.logged, Hooks.run_logging]⟩
  obtain ⟨b, p₁, h₁⟩ : ∃ b p₁, (hooks.validating t id).run p = (b, p₁) := ⟨_, _, rfl⟩
  have h₁' : (hooks.logged.validating t id).run (p.withLog log) =
      (b, p₁.withLog (log ++ [.validating id b])) := by
    rw [Hooks.logged, Hooks.run_logging, h₁]
  cases b with
  | false =>
    rw [run_around_of_refused h₁, run_around_of_refused h₁']
    exact hlast false p₁ _
  | true =>
    obtain ⟨log₂, hw⟩ := hw p₁ (log ++ [.validating id true])
    obtain ⟨x, p₂, h₂⟩ : ∃ x p₂, w.run.run p₁ = (x, p₂) := ⟨_, _, rfl⟩
    rw [h₂] at hw
    cases x with
    | error e =>
      rw [run_around_of_error h₁ h₂, run_around_of_error h₁' hw]
      exact ⟨log₂, rfl⟩
    | ok _ =>
      rw [run_around_of_ok h₁ h₂, run_around_of_ok h₁' hw]
      exact hlast _ p₂ log₂

end Walk

/-! ## Refusals that are recorded -/

/-- Hooks that only add to the ledger, and that add an error with each refusal. The last hook need
not do so for an object that it knows not to pass, nor for one below the start. -/
structure Hooks.Records (hooks : Hooks σ) (t : Tree) (start : ObjectId) : Prop where
  validating (id : ObjectId) (p : Progress σ) :
    ∃ ds, ((hooks.validating t id).run p).2.ledger = p.ledger.extend ds ∧
      (((hooks.validating t id).run p).1 = false → ∃ d ∈ ds, d.isError)
  validated (id : ObjectId) (success : Bool) (p : Progress σ) :
    ∃ ds, ((hooks.validated t id success).run p).2.ledger = p.ledger.extend ds ∧
      (((hooks.validated t id success).run p).1 = false → id = start → success = true →
        ∃ d ∈ ds, d.isError)

/-- What came to the ledger and to the log between two moments. -/
structure Progress.Adds (p p' : Progress (σ × List Answer)) (ds : List Diagnostic)
    (as : List Answer) : Prop where
  ledger : p'.ledger = p.ledger.extend ds
  log : p'.hooks.2 = p.hooks.2 ++ as

/-- If an answer between two moments refuses an object, an error came to the ledger. -/
def Progress.Accounts (start : ObjectId) (p p' : Progress (σ × List Answer)) : Prop :=
  ∃ ds as, p.Adds p' ds as ∧ ((∃ a ∈ as, a.refuses start) → ∃ d ∈ ds, d.isError)

/-- A walk that accounts for the answers that it logs. -/
def Walk.Accounts (start : ObjectId) (w : Walk (σ × List Answer) α) : Prop :=
  ∀ p : Progress (σ × List Answer), p.Accounts start (w.run.run p).2

section Accounts

variable {start : ObjectId} {p p' p'' : Progress (σ × List Answer)}

theorem Progress.Adds.trans {ds ds' : List Diagnostic} {as as' : List Answer}
    (h : p.Adds p' ds as) (h' : p'.Adds p'' ds' as') : p.Adds p'' (ds ++ ds') (as ++ as') where
  ledger := by rw [h'.ledger, h.ledger, Ledger.extend_append]
  log := by rw [h'.log, h.log, List.append_assoc]

theorem Progress.Accounts.refl (p : Progress (σ × List Answer)) : p.Accounts start p :=
  ⟨[], [], ⟨rfl, (List.append_nil _).symm⟩, by simp⟩

theorem Progress.Accounts.trans (h : p.Accounts start p') (h' : p'.Accounts start p'') :
    p.Accounts start p'' := by
  obtain ⟨ds, as, hadds, hr⟩ := h
  obtain ⟨ds', as', hadds', hr'⟩ := h'
  refine ⟨ds ++ ds', as ++ as', hadds.trans hadds', ?_⟩
  rintro ⟨a, hmem, hrefuses⟩
  rcases List.mem_append.1 hmem with hmem | hmem
  · obtain ⟨d, hd, herr⟩ := hr ⟨a, hmem, hrefuses⟩
    exact ⟨d, List.mem_append_left _ hd, herr⟩
  · obtain ⟨d, hd, herr⟩ := hr' ⟨a, hmem, hrefuses⟩
    exact ⟨d, List.mem_append_right _ hd, herr⟩

namespace Walk

theorem accounts_note (d : Diagnostic) :
    (note d : Walk (σ × List Answer) Unit).Accounts start :=
  fun p => ⟨[d], [], ⟨rfl, (List.append_nil p.hooks.2).symm⟩, by simp⟩

theorem Accounts.bind {w : Walk (σ × List Answer) α} {f : α → Walk (σ × List Answer) β}
    (hw : w.Accounts start) (hf : ∀ a, (f a).Accounts start) : (w >>= f).Accounts start := by
  intro p
  have h := hw p
  obtain ⟨x, p₁, h₁⟩ : ∃ x p₁, w.run.run p = (x, p₁) := ⟨_, _, rfl⟩
  rw [h₁] at h
  rw [run_bind, h₁]
  cases x with
  | error e => exact h
  | ok a => exact h.trans (hf a p₁)

variable (σ) in
theorem respects_accounts (v : Validator) (t : Tree) (start : ObjectId) :
    v.Respects t (Both fun _ (w : Walk (σ × List Answer) _) => w.Accounts start) where
  pure _ := ⟨rfl, fun p => Progress.Accounts.refl p⟩
  ask _ := ⟨rfl, fun p => Progress.Accounts.refl p⟩
  report _ _ := ⟨rfl, accounts_note _⟩
  bind := Both.bind Accounts.bind

/-- A visit accounts for the answers of its hooks: an object that is refused before its check has an
error, and so has one that passed and is refused afterwards. One that did not pass has an error
already. -/
theorem Accounts.around {hooks : Hooks σ} {t : Tree} (hr : hooks.Records t start) (id : ObjectId)
    {w : Walk (σ × List Answer) Unit} (hw : w.Accounts start) :
    (Walk.around hooks.logged t id w).Accounts start := by
  intro p
  obtain ⟨b, p₁, h₁⟩ : ∃ b p₁, (hooks.logged.validating t id).run p = (b, p₁) := ⟨_, _, rfl⟩
  obtain ⟨ds₁, hl₁, hb⟩ := hr.validating id ⟨p.ledger, p.hooks.1⟩
  have hadds₁ : p.Adds p₁ ds₁ [.validating id b] := by
    cases h₁
    exact ⟨hl₁, rfl⟩
  have hlast : ∀ success q, ∃ ds,
      q.Adds ((hooks.logged.validated t id success).run q).2 ds
        [.validated id success ((hooks.logged.validated t id success).run q).1] ∧
      (((hooks.logged.validated t id success).run q).1 = false → id = start → success = true →
        ∃ d ∈ ds, d.isError) := by
    intro success q
    obtain ⟨ds, hl, hfalse⟩ := hr.validated id success ⟨q.ledger, q.hooks.1⟩
    exact ⟨ds, ⟨hl, rfl⟩, hfalse⟩
  cases b with
  | false =>
    obtain ⟨d, hd, herr⟩ := hb (congrArg Prod.fst h₁)
    obtain ⟨ds₂, hadds₂, -⟩ := hlast false p₁
    rw [run_around_of_refused h₁]
    exact ⟨_, _, hadds₁.trans hadds₂, fun _ => ⟨d, List.mem_append_left _ hd, herr⟩⟩
  | true =>
    have hfirst : p.Accounts start p₁ := ⟨_, _, hadds₁, by simp [Answer.refuses]⟩
    have hcheck := hfirst.trans (hw p₁)
    obtain ⟨x, p₂, h₂⟩ : ∃ x p₂, w.run.run p₁ = (x, p₂) := ⟨_, _, rfl⟩
    rw [h₂] at hcheck
    cases x with
    | error e =>
      rw [run_around_of_error h₁ h₂]
      exact hcheck
    | ok _ =>
      rw [run_around_of_ok h₁ h₂]
      obtain ⟨ds, as, hadds, hrefused⟩ := hcheck
      rw [hadds.ledger, Ledger.hasErrorsSince_extend]
      obtain ⟨ds₃, hadds₃, hresult⟩ := hlast (!ds.any (·.isError)) p₂
      cases herrors : ds.any (·.isError) with
      | true =>
        obtain ⟨d, hd, herr⟩ := List.any_eq_true.1 herrors
        rw [herrors] at hadds₃
        exact ⟨_, _, hadds.trans hadds₃, fun _ => ⟨d, List.mem_append_left _ hd, herr⟩⟩
      | false =>
        rw [herrors] at hadds₃ hresult
        refine Progress.Accounts.trans ⟨ds, as, hadds, hrefused⟩ ⟨ds₃, _, hadds₃, ?_⟩
        rintro ⟨a, hmem, hrefuses⟩
        obtain rfl := List.mem_singleton.1 hmem
        rw [Answer.refuses, Bool.and_eq_true, decide_eq_true_eq, Bool.not_eq_true'] at hrefuses
        exact hresult hrefuses.2 hrefuses.1 rfl

end Walk

end Accounts

/-! ## Validations with hooks -/

namespace Validator

open Walk

variable (v : Validator) (hooks : Hooks σ) (t : Tree) (id : ObjectId) (type : TypeId)

/-- What the hooks of a validation answer, in order. -/
def answers (v : Validator) (hooks : Hooks σ) (t : Tree) (id : ObjectId) (type : TypeId)
    (p : Progress σ) : List Answer :=
  ((v.validateWith hooks.logged t id type).run.run (p.withLog [])).2.hooks.2

/-- A validation that is logged is the same validation. -/
theorem run_logged (p : Progress σ) :
    (v.validateWith hooks.logged t id type).run.run (p.withLog []) =
      (((v.validateWith hooks t id type).run.run p).1,
        ((v.validateWith hooks t id type).run.run p).2.withLog
          (v.answers hooks t id type p)) := by
  have hsteps := respects_mirrors σ v t
  have hstart : Mirrors Unit (v.start hooks t id (.instanceOf type))
      (v.start hooks.logged t id (.instanceOf type)) :=
    hsteps.bind (hsteps.visit (fun id _ _ hw => hw.around hooks t id) _ _ _) fun _ => hsteps.pure _
  have hall : Mirrors Bool (v.validateWith hooks t id type)
      (v.validateWith hooks.logged t id type) := by
    intro p log
    by_cases hv : v.mode = .skip
    · exact ⟨log, by simp [validateWith, passes, hv]; rfl⟩
    · obtain ⟨log', hrun⟩ := hstart p log
      refine ⟨log', ?_⟩
      rw [validateWith, validateWith, run_passes hv, run_passes hv, hrun]
      obtain ⟨x, p', hw⟩ : ∃ x p', (v.start hooks t id (.instanceOf type)).run.run p = (x, p') :=
        ⟨_, _, rfl⟩
      rw [hw]
      cases x <;> rfl
  obtain ⟨log, h⟩ := hall p []
  rw [answers, h]
  rfl

theorem accounts_start {hooks : Hooks σ} {t : Tree} {start : ObjectId}
    (hr : hooks.Records t start) (id : ObjectId) (d : Demand) :
    (v.start hooks.logged t id d).Accounts start := by
  have hsteps := respects_accounts σ v t start
  have haround : ∀ id w w', Both (fun _ w => w.Accounts start) Unit w w' →
      Both (fun _ w => w.Accounts start) Bool (around hooks.logged t id w)
        (around hooks.logged t id w') := by
    rintro id w _ ⟨rfl, hw⟩
    exact ⟨rfl, hw.around hr id⟩
  exact (hsteps.visit haround _ id d).2.bind fun _ => (hsteps.pure _).2

/-- With hooks that record their refusals, a validation does not succeed if one of them refuses an
object before its check, or the object with which the validation starts after it. -/
theorem fails_of_refused {v : Validator} {hooks : Hooks σ} {t : Tree} {id : ObjectId}
    {type : TypeId} {p : Progress σ} (hv : v.mode ≠ .skip) (hr : hooks.Records t id) {a : Answer}
    (ha : a ∈ v.answers hooks t id type p) (hrefuses : a.refuses id) :
    ((v.validateWith hooks t id type).run.run p).1 ≠ .ok true := by
  intro htrue
  have hlogged := v.run_logged hooks t id type p
  rw [htrue, validateWith, run_passes hv] at hlogged
  obtain ⟨ds, as, hadds, hrefused⟩ := v.accounts_start hr id (.instanceOf type) (p.withLog [])
  obtain ⟨x, p₁, h₁⟩ : ∃ x p₁, (v.start hooks.logged t id (.instanceOf type)).run.run
    (p.withLog []) = (x, p₁) := ⟨_, _, rfl⟩
  rw [h₁] at hlogged hadds
  cases x with
  | error e => cases hlogged
  | ok _ =>
    obtain ⟨hok, rfl⟩ := Prod.mk.inj hlogged
    have hlog : v.answers hooks t id type p = as := hadds.log
    obtain ⟨d, hd, herr⟩ := hrefused ⟨a, hlog ▸ ha, hrefuses⟩
    have hany : ds.any (·.isError) = true := List.any_eq_true.2 ⟨d, hd, herr⟩
    rw [hadds.ledger, Ledger.hasErrorsSince_extend, hany] at hok
    cases hok

end Validator

/-! ## A form with a field -/

/-- The error of a refusal. -/
def refusal : Diagnostic := .errorAt none .invalidObjectKind "refused by a hook"

/-- Hooks that refuse one object before its check, and record an error if they are to. -/
def Hooks.refusing (refused : ObjectId) (records : Bool) : Hooks Unit where
  validating _ id := fun p =>
    if id = refused then (false, if records then { p with ledger := p.ledger.add refusal } else p)
    else (true, p)
  validated _ _ success := pure success

/-- A type of objects with one field. -/
def forms : List NamespaceDecl :=
  [{ uri := "urn:forms"
     members := [
      .type { name := ⟨"Form", none⟩
              body := .complex none (some (.set {
                kind := .sequence
                items := [.element { name := ⟨"field", none⟩, type := .ofText "String" }] })) }] }]

/-- A form whose field holds a text. -/
def form : Tree :=
  Tree.performAll {} [
    .newComplex none, .newChildSet none, .setChildren ⟨0⟩ ⟨1⟩,
    .newElement (.unqualified "field"), .addChild ⟨1⟩ ⟨2⟩,
    .newSimple none (.atomic (.string "x")), .setValue ⟨2⟩ (some ⟨3⟩)]

theorem Hooks.run_refusing (refused id : ObjectId) (t : Tree) (p : Progress Unit) :
    ((Hooks.refusing refused true).validating t id).run p =
      if id = refused then (false, { p with ledger := p.ledger.add refusal }) else (true, p) := rfl

theorem Hooks.records_refusing (refused start : ObjectId) (t : Tree) :
    (Hooks.refusing refused true).Records t start where
  validating id p := by
    rw [run_refusing]
    split
    · exact ⟨[refusal], rfl, fun _ => ⟨refusal, List.mem_singleton_self _, rfl⟩⟩
    · exact ⟨[], rfl, fun hfalse => by cases hfalse⟩
  validated _ success _ := by
    refine ⟨[], rfl, ?_⟩
    rintro hfalse - rfl
    cases hfalse

namespace Validator

/-- A form whose field is refused, with an error, is not valid. -/
theorem form_fails :
    ((Validator.validateWith ⟨schemaOf forms {}, .strict, {}⟩ (.refusing ⟨2⟩ true) form ⟨0⟩
      ⟨22⟩).run.run ⟨{}, ()⟩).1 ≠ .ok true := by
  have hanswer : .validating ⟨2⟩ false ∈ Validator.answers ⟨schemaOf forms {}, .strict, {}⟩
      (.refusing ⟨2⟩ true) form ⟨0⟩ ⟨22⟩ ⟨{}, ()⟩ := by decide +kernel
  exact fails_of_refused (by decide) (Hooks.records_refusing _ _ _) hanswer rfl

/-- A form that is refused without an error is valid, although both hooks answer no. -/
theorem form_passes : Accepts forms {} (schemaOf forms {}) ∧
    Validator.answers ⟨schemaOf forms {}, .strict, {}⟩ (.refusing ⟨0⟩ false) form ⟨0⟩ ⟨22⟩
      ⟨{}, ()⟩ = [.validating ⟨0⟩ false, .validated ⟨0⟩ false false] ∧
    ((Validator.validateWith ⟨schemaOf forms {}, .strict, {}⟩ (.refusing ⟨0⟩ false) form ⟨0⟩
      ⟨22⟩).run.run ⟨{}, ()⟩).1 = .ok true :=
  ⟨accepts_schemaOf (by decide +kernel), by decide +kernel, by decide +kernel⟩

end Validator

end Schemata
