/-!
# Limits

Bounds that stop a runaway compilation or validation: how long a chain of derived types may be,
how deep an object tree may be visited, and how long a chain of references may grow.
-/

namespace Schemata

/-- The three bounds. -/
structure Limits where
  derivationDepth : Nat := 256
  objectDepth : Nat := 1000
  referenceChain : Nat := 64
  deriving DecidableEq

/-- The quantity that a limit bounds. -/
inductive Limits.Quantity
  | derivationDepth
  | objectDepth
  | referenceChain

/-- A measured quantity that is above its bound. -/
structure Limits.Exceeded where
  quantity : Limits.Quantity
  measured : Nat
  bound : Nat

namespace Limits

/-- Tight bounds. -/
def strict : Limits := ⟨32, 100, 8⟩

/-- Generous bounds. -/
def permissive : Limits := ⟨4096, 100000, 1024⟩

/-- The bounds that go by a name. -/
def preset? (name : String) : Option Limits :=
  match name with
  | "default" => some {}
  | "strict" => some strict
  | "permissive" => some permissive
  | _ => none

/-- The bound on a quantity. -/
def bound (limits : Limits) : Quantity → Nat
  | .derivationDepth => limits.derivationDepth
  | .objectDepth => limits.objectDepth
  | .referenceChain => limits.referenceChain

/-- Compare a measured quantity with its bound; the bound itself is allowed. -/
def check (limits : Limits) (q : Quantity) (measured : Nat) : Except Exceeded Unit :=
  if measured > limits.bound q then .error ⟨q, measured, limits.bound q⟩ else .ok ()

/-- How a message names a quantity. -/
def Quantity.text : Quantity → String
  | .derivationDepth => "derivation depth"
  | .objectDepth => "object depth"
  | .referenceChain => "reference chain length"

/-- The wording of an exceeded limit. -/
def Exceeded.message (e : Exceeded) : String :=
  s!"limit exceeded: {e.quantity.text} {e.measured} exceeds maximum {e.bound}"

end Limits

end Schemata
