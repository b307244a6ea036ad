import Schemata.Pattern.Basic

/-!
# Shapes of patterns

The shape of a pattern is what decides how large an automaton for it is. Shapes are built by
`Shape.ofSet`, `Shape.inRow`, `Shape.oneOf` and `Shape.repeated`, which simplify: characters in a
row become one literal, rows in rows and choices in choices are flattened, a choice among
characters or among sets is a set, and what all alternatives start with is taken out of a choice.
-/

namespace Schemata.Pattern

/-- The shape of a pattern. -/
inductive Shape
  | empty
  /-- One or more characters. -/
  | literal (cs : List Char)
  /-- A character of a set, which may be meant as a set of bytes. -/
  | set (s : CharSet) (isBytes : Bool)
  | assertion (a : Assertion)
  | times (shape : Shape) (least : Nat) (most : Option Nat) (isLazy : Bool)
  /-- A group that is remembered, by its number. -/
  | group (number : Nat) (shape : Shape)
  | row (shapes : List Shape)
  | choice (shapes : List Shape)

namespace Shape

/-! ## Comparison -/

mutual

/-- Whether two shapes are the same. -/
def same : Shape → Shape → Bool
  | .empty, .empty => true
  | .literal a, .literal b => a == b
  | .set s x, .set t y => s == t && x == y
  | .assertion a, .assertion b => a == b
  | .times s least most isLazy, .times t least' most' isLazy' =>
    least == least' && most == most' && isLazy == isLazy' && same s t
  | .group i s, .group j t => i == j && same s t
  | .row ss, .row ts => allSame ss ts
  | .choice ss, .choice ts => allSame ss ts
  | _, _ => false

/-- Whether two lists of shapes are the same. -/
def allSame : List Shape → List Shape → Bool
  | [], [] => true
  | s :: ss, t :: ts => same s t && allSame ss ts
  | _, _ => false

end

/-- The number of shapes at the start of two lists that are the same. -/
def commonLength : List Shape → List Shape → Nat
  | s :: ss, t :: ts => if same s t then commonLength ss ts + 1 else 0
  | _, _ => 0

/-! ## Length -/

mutual

/-- Whether every match of a shape is known to be empty. -/
def isBlank : Shape → Bool
  | .empty | .assertion _ => true
  | .literal _ | .set _ _ => false
  | .times s _ most _ => most.isSome && isBlank s
  | .group _ s => isBlank s
  | .row ss | .choice ss => areBlank ss

/-- Whether every match of each of several shapes is known to be empty. -/
def areBlank : List Shape → Bool
  | [] => true
  | s :: ss => isBlank s && areBlank ss

end

mutual

/-- The least length of a match. A shape with an empty set has none. -/
def leastLength? : Shape → Option Nat
  | .empty | .assertion _ => some 0
  | .literal cs => some cs.length
  | .set s _ => if s.bounds.isEmpty then none else some 1
  | .times s least _ _ => (leastLength? s).map (least * ·)
  | .group _ s => leastLength? s
  | .row ss => leastLengths? (· + ·) ss
  | .choice ss => leastLengths? min ss

/-- The least lengths of several shapes, put together. -/
def leastLengths? (put : Nat → Nat → Nat) : List Shape → Option Nat
  | [] => some 0
  | [s] => leastLength? s
  | s :: ss => (leastLength? s).bind fun m => (leastLengths? put ss).map (put m)

end

/-- Whether every match of a shape is known to have a character. -/
def isNeverBlank (s : Shape) : Bool := (leastLength? s).any (0 < ·)

/-! ## Anchors -/

/-- One end of a text or of a pattern. -/
inductive End
  | front
  | back

/-- Whether an assertion holds at that end of a text alone. -/
def End.isAsserted : End → Assertion → Bool
  | .front, .textStart | .back, .textEnd => true
  | _, _ => false

mutual

/-- Whether one end of a match is always that end of the text. -/
def isAnchored (e : End) : Shape → Bool
  | .empty | .literal _ | .set _ _ => false
  | .assertion a => e.isAsserted a
  | .times s least _ _ => 0 < least && isAnchored e s
  | .group _ s => isAnchored e s
  | .row ss =>
    match e with
    | .front => startsAnchored e ss
    | .back => endsAnchored e ss
  | .choice ss => areAnchored e ss

/-- Whether one of the shapes up to the first that may be more than empty is anchored. -/
def startsAnchored (e : End) : List Shape → Bool
  | [] => false
  | s :: ss => isAnchored e s || isBlank s && startsAnchored e ss

/-- Whether one of the shapes from the last that may be more than empty is anchored. -/
def endsAnchored (e : End) : List Shape → Bool
  | [] => false
  | s :: ss => endsAnchored e ss || areBlank ss && isAnchored e s

/-- Whether all shapes are anchored. -/
def areAnchored (e : End) : List Shape → Bool
  | [] => true
  | s :: ss => isAnchored e s && areAnchored e ss

end

/-! ## Building -/

/-- A character of a set. -/
def ofSet (s : CharSet) (isBytes : Bool) : Shape :=
  match s.single? with
  | some c => .literal [c]
  | none => .set s (isBytes || s.bounds.isEmpty)

/-- The shapes that a shape is a row of. -/
def factors : Shape → List Shape
  | .empty => []
  | .row ss => ss
  | s => [s]

/-- Join literals that stand side by side. -/
def joinLiterals : List Shape → List Shape
  | [] => []
  | .literal a :: rest =>
    match joinLiterals rest with
    | .literal b :: more => .literal (a ++ b) :: more
    | more => .literal a :: more
  | s :: rest => s :: joinLiterals rest

/-- Shapes in a row. -/
def inRow (shapes : List Shape) : Shape :=
  match joinLiterals (shapes.flatMap factors) with
  | [] => .empty
  | [s] => s
  | ss => .row ss

/-- The shapes that a shape is a choice among. -/
def branches : Shape → List Shape
  | .choice ss => ss
  | s => [s]

/-- The character that a shape is. -/
def char? : Shape → Option Char
  | .literal [c] => some c
  | _ => none

/-- The literal that a shape is. -/
def literal? : Shape → Option (List Char)
  | .literal cs => some cs
  | _ => none

/-- The set that a shape is. -/
def set? : Shape → Option CharSet
  | .set s _ => some s
  | _ => none

/-- The shapes that a row consists of. -/
def row? : Shape → Option (List Shape)
  | .row ss => some ss
  | _ => none

/-- The set of all that some shapes match, if they are all characters or all sets. -/
def merged? (shapes : List Shape) : Option CharSet :=
  match shapes.mapM char? with
  | some cs => some (.ofBounds (cs.map fun c => (c.toNat, c.toNat)))
  | none => (shapes.mapM set?).map fun sets => .ofBounds (sets.flatMap (·.bounds))

/-- The rows that some shapes are, with the number of shapes that all of them start with, if there
are any. -/
def sharedStart? (shapes : List Shape) : Option (List (List Shape) × Nat) :=
  match shapes.mapM row? with
  | some (first :: rest) =>
    let n := rest.foldl (fun n row => min n (commonLength first row)) first.length
    if n = 0 then none else some (first :: rest, n)
  | _ => none

mutual

/-- The number of shapes in a shape. -/
def size : Shape → Nat
  | .empty | .literal _ | .set _ _ | .assertion _ => 1
  | .times s _ _ _ | .group _ s => size s + 1
  | .row ss | .choice ss => sizes ss + 1

/-- The number of shapes in several shapes. -/
def sizes : List Shape → Nat
  | [] => 0
  | s :: ss => size s + sizes ss

end

/-- A choice among shapes. Taking out what they start with leaves fewer shapes to choose among, so
it is done less often than the fuel allows. -/
def chooseAmong : Nat → List Shape → Shape
  | 0, shapes => .choice shapes
  | fuel + 1, shapes =>
    match shapes.flatMap branches with
    | [] => ofSet .empty false
    | [s] => s
    | all =>
      match merged? all with
      | some s => ofSet s false
      | none =>
        match sharedStart? all with
        | none => .choice all
        | some (rows, n) =>
          inRow ((rows.headD []).take n ++
            [chooseAmong fuel (rows.map fun row => inRow (row.drop n))])

/-- A choice among shapes. -/
def oneOf (shapes : List Shape) : Shape := chooseAmong (sizes shapes + 1) shapes

/-- A shape several times. What matches nothing but the empty text need not be repeated. -/
def repeated (s : Shape) (least : Nat) (most : Option Nat) (isLazy : Bool) : Shape :=
  let (least, most) :=
    if s.isBlank then (min least 1, some (most.elim 1 (min 1))) else (least, most)
  if most = some 0 then .empty
  else if least = 1 ∧ most = some 1 then s
  else .times s least most isLazy

end Shape

end Schemata.Pattern
