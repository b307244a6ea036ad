import Schemata.Ledger
import Schemata.Objects.Basic

/-!
# Visiting objects

A validation visits the objects that it finds, and two hooks surround each visit: one runs before
the object is checked and may refuse the check, the other runs after it and has the last word on
the visit. Hooks see the tree, and have the ledger and a state of their own. The outcome of a whole
validation looks at the ledger alone, so a hook that wants an object to fail records an error.
-/

namespace Schemata

/-- What changes during a validation: the ledger, and the state of the hooks. -/
structure Progress (σ : Type) where
  ledger : Ledger
  hooks : σ

/-- What runs around each visit. -/
structure Hooks (σ : Type) where
  /-- Runs before an object is checked, and tells whether to check it. -/
  validating : Tree → ObjectId → StateM (Progress σ) Bool
  /-- Runs after an object, told whether it passed, and tells the result of the visit. -/
  validated : Tree → ObjectId → Bool → StateM (Progress σ) Bool

/-- The hooks that do nothing. -/
def Hooks.none : Hooks Unit where
  validating _ _ := pure true
  validated _ _ success := pure success

/-- A part of a validation. A tree that lacks an object which it speaks of ends it. -/
abbrev Walk (σ α : Type) := ExceptT TreeFault (StateM (Progress σ)) α

namespace Walk

variable {σ α : Type}

/-- Ask the tree something. -/
def ask (answer : Except TreeFault α) : Walk σ α := ExceptT.mk (pure answer)

/-- Record a diagnostic. -/
def note (d : Diagnostic) : Walk σ Unit :=
  modify fun p => { p with ledger := p.ledger.add d }

/-- The present moment of the ledger. -/
def mark : Walk σ Ledger.Mark := do return (← getThe (Progress σ)).ledger.mark

/-- Whether no error was recorded since a mark. -/
def passedSince (m : Ledger.Mark) : Walk σ Bool := do
  return !(← getThe (Progress σ)).ledger.hasErrorsSince m

/-- Visit an object: run the hooks around its check. The result is what the last hook says. -/
def around (hooks : Hooks σ) (t : Tree) (id : ObjectId) (check : Walk σ Unit) : Walk σ Bool := do
  let start ← mark
  if ← liftM (hooks.validating t id) then
    check
    let success ← passedSince start
    liftM (hooks.validated t id success)
  else
    liftM (hooks.validated t id false)

end Walk

end Schemata
