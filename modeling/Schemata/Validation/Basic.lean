import Schemata.Validation.Check

/-!
# Validation

`Validator.validate` holds an object of a tree against a type, and `Validator.validateElement` an
element object against a global element. What is wrong is recorded in a ledger, and the object is
valid if no error was recorded. A reference may lead back to an object that the visit came from;
the bound on the depth of visits ends every walk.
-/

namespace Schemata.Validator

variable {σ : Type}

/-- Visit an object that is held against a demand. The number counts the levels that are left
before the bound; an object below the last one is too deep to be checked. -/
def visit (v : Validator) (hooks : Hooks σ) (t : Tree) : Nat → ObjectId → Demand → Walk σ Bool
  | 0, id, _ =>
    Walk.around hooks t id
      (Walk.note ((Finding.tooDeep v.limits.objectDepth).diagnostic v.mode t id))
  | levels + 1, id, d =>
    Walk.around hooks t id (Check.demand ⟨v, t, v.visit hooks t levels⟩ id d)

/-- Visit the object that a validation starts with. Its depth is zero, and the bound itself is
allowed. -/
def start (v : Validator) (hooks : Hooks σ) (t : Tree) (id : ObjectId) (d : Demand) :
    Walk σ Unit := do
  let _ ← v.visit hooks t (v.limits.objectDepth + 1) id d

/-- Run a validation, unless nothing is checked. The object is valid if no error was recorded. -/
def passes (v : Validator) (run : Walk σ Unit) : Walk σ Bool :=
  match v.mode with
  | .skip => return true
  | _ => do
    let start ← Walk.mark
    run
    Walk.passedSince start

/-- Whether an object is a valid instance of a type, with hooks around every visit. -/
def validateWith (v : Validator) (hooks : Hooks σ) (t : Tree) (id : ObjectId) (type : TypeId) :
    Walk σ Bool :=
  v.passes (v.start hooks t id (.instanceOf type))

/-- Hold an element object against a global element, or against the one of its name that may stand
in for that one. -/
def elementNamed (v : Validator) (t : Tree) (id : ObjectId) (head : ElementId) :
    Walk Unit Unit := do
  match ← Walk.ask (t.get id) with
  | .element name _ =>
    match v.schema.matchGlobal name head with
    | some e => v.start Hooks.none t id (.element e)
    | none =>
      Walk.note ((Finding.foreignElement name (v.schema.elementName head)).diagnostic v.mode t id)
  | o => throw (.wrongSort id o.sort "element")

/-- The outcome of a validation without hooks, and the ledger after it. -/
def run (ledger : Ledger) (w : Walk Unit Bool) : Except TreeFault Bool × Ledger :=
  let (outcome, progress) := w.run.run ⟨ledger, ()⟩
  (outcome, progress.ledger)

/-- Whether an object is a valid instance of a type, and the ledger with what is wrong. -/
def validate (v : Validator) (t : Tree) (id : ObjectId) (type : TypeId) (ledger : Ledger) :
    Except TreeFault Bool × Ledger :=
  run ledger (v.validateWith Hooks.none t id type)

/-- Whether an element object may stand where a global element is expected, and the ledger with
what is wrong. -/
def validateElement (v : Validator) (t : Tree) (id : ObjectId) (head : ElementId)
    (ledger : Ledger) : Except TreeFault Bool × Ledger :=
  run ledger (v.passes (v.elementNamed t id head))

end Schemata.Validator
