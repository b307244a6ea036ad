import Schemata.Diagnostic

/-!
# The ledger of a pass

A pass records its diagnostics in a ledger, oldest first. A mark remembers a moment: restoring it
drops what was recorded later, and `hasErrorsSince` tells whether any of that is an error. Both
speak of positions, so a mark that lies beyond the end drops nothing and sees nothing.
-/

namespace Schemata

/-- The diagnostics of one pass, oldest first. -/
structure Ledger where
  entries : Array Diagnostic := #[]

namespace Ledger

/-- A moment of a ledger: the number of diagnostics recorded before it. -/
structure Mark where
  position : Nat
  deriving DecidableEq

/-- Record a diagnostic. -/
def add (ledger : Ledger) (d : Diagnostic) : Ledger :=
  ⟨ledger.entries.push d⟩

/-- Record several diagnostics in order. -/
def extend (ledger : Ledger) (ds : List Diagnostic) : Ledger :=
  ds.foldl add ledger

/-- Remember the present moment. -/
def mark (ledger : Ledger) : Mark := ⟨ledger.entries.size⟩

/-- The diagnostics recorded since a mark. -/
def since (ledger : Ledger) (m : Mark) : List Diagnostic :=
  ledger.entries.toList.drop m.position

/-- Whether an error was recorded since a mark. -/
def hasErrorsSince (ledger : Ledger) (m : Mark) : Bool :=
  (ledger.since m).any (·.isError)

/-- Whether the ledger holds an error. -/
def hasErrors (ledger : Ledger) : Bool := ledger.hasErrorsSince ⟨0⟩

/-- Drop everything recorded since a mark. -/
def restore (ledger : Ledger) (m : Mark) : Ledger :=
  ⟨ledger.entries.take m.position⟩

/-- The number of diagnostics. -/
def size (ledger : Ledger) : Nat := ledger.entries.size

/-- The number of diagnostics of one kind. -/
def count (ledger : Ledger) (code : Code) : Nat :=
  ledger.entries.countP (·.code == code)

theorem toList_add (ledger : Ledger) (d : Diagnostic) :
    (ledger.add d).entries.toList = ledger.entries.toList ++ [d] := by
  simp [add]

theorem toList_extend (ledger : Ledger) (ds : List Diagnostic) :
    (ledger.extend ds).entries.toList = ledger.entries.toList ++ ds := by
  induction ds generalizing ledger with
  | nil => simp [extend]
  | cons d ds ih =>
    have h := ih (ledger.add d)
    simp only [extend, List.foldl_cons] at h ⊢
    rw [h, toList_add, List.append_assoc, List.singleton_append]

theorem toList_restore (ledger : Ledger) (m : Mark) :
    (ledger.restore m).entries.toList = ledger.entries.toList.take m.position := by
  simp [restore]

end Ledger

end Schemata
