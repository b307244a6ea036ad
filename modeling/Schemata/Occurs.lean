/-!
# Occurrence bounds

A repeated child occurs between `least` and `most` times. The greatest 64-bit count stands for "no
upper bound", and only its written form tells it from a number.
-/

namespace Schemata

/-- How often a child may occur. -/
structure Occurs where
  least : Nat
  most : Nat
  deriving DecidableEq

namespace Occurs

/-- The upper bound that stands for no bound. -/
def unbounded : Nat := (1 <<< 64) - 1

/-- Exactly once, which is what holds where nothing is declared. -/
def once : Occurs := ⟨1, 1⟩

/-- At most once. -/
def atMostOnce : Occurs := ⟨0, 1⟩

/-- Any number of times. -/
def zeroOrMore : Occurs := ⟨0, unbounded⟩

/-- At least once. -/
def oneOrMore : Occurs := ⟨1, unbounded⟩

/-- Whether some number of occurrences other than none alone is allowed. -/
def isValid (o : Occurs) : Bool := o.least ≤ o.most && 0 < o.most

/-- Whether the child may be absent. -/
def isEmptiable (o : Occurs) : Bool := o.least == 0

/-- Whether the child occurs at most once. -/
def isSingle (o : Occurs) : Bool := o.most == 1

/-- Whether there is no upper bound. -/
def isUnbounded (o : Occurs) : Bool := o.most == unbounded

/-- Whether a count is below the bounds. -/
def isMissing (o : Occurs) (count : Nat) : Bool := count < o.least

/-- Whether a count is above the bounds. -/
def isExceeded (o : Occurs) (count : Nat) : Bool := o.most < count

/-- Whether bounds lie within others. -/
def restricts (o other : Occurs) : Bool := other.least ≤ o.least && o.most ≤ other.most

/-- The bounds in brackets; without an upper bound its place stays empty. -/
def text (o : Occurs) : String :=
  if o.isUnbounded then s!"[{o.least}..]" else s!"[{o.least}..{o.most}]"

theorem isMissing_of_restricts {o other : Occurs} (h : o.restricts other) {count : Nat}
    (hc : other.isMissing count) : o.isMissing count := by
  simp only [restricts, isMissing, Bool.and_eq_true, decide_eq_true_eq] at h hc ⊢
  omega

theorem isExceeded_of_restricts {o other : Occurs} (h : o.restricts other) {count : Nat}
    (hc : other.isExceeded count) : o.isExceeded count := by
  simp only [restricts, isExceeded, Bool.and_eq_true, decide_eq_true_eq] at h hc ⊢
  omega

end Occurs

end Schemata
