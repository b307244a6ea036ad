import Schemata.Pattern.Bytes
import Schemata.Pattern.Literals
import Schemata.Pattern.Shape

/-!
# Automata for patterns

For a pattern there are two automata, one that reads a text from its front and one that reads it
from its back. `Plan.ofShape` says of which fragments they consist, `Plan.grow` builds the fragments
as far as their room depends on it, and `Shape.fits` says whether both automata stay within
`Room.limit`.

A fragment that ends in a fork takes a jump for every fragment that follows it.
-/

namespace Schemata.Pattern

/-- The fragments of an automaton in the order in which they are read. -/
inductive Plan
  /-- States that take the same room wherever they stand. -/
  | fixed (room : Room)
  /-- The characters of a set, read forwards. -/
  | forwards (t : ByteTree)
  /-- The characters of a set, read backwards. -/
  | backwards (rows : List (List (Nat × Nat)))
  /-- A fragment between two states that remember where it starts and ends. -/
  | between (p : Plan)
  /-- A fragment several times. -/
  | times (p : Plan) (least : Nat) (most : Option Nat) (isNeverBlank : Bool)
  | row (ps : List Plan)
  | choice (ps : List Plan)

/-- What has been built: the room it takes, and whether its end is a fork. -/
structure Growth where
  room : Room
  endsInFork : Bool

namespace Growth

/-- Make room for the link to what follows. -/
def link (g : Growth) : Option Room := g.room.add? (.jumps (if g.endsInFork then 1 else 0))

/-- Follow what has been built by states that end otherwise. -/
def closeWith (g : Growth) (more : Room) : Option Growth := do
  let room ← g.link
  some ⟨← room.add? more, false⟩

/-- Follow what has been built by so many copies of a fragment. -/
def copies (grow : Room → Option Growth) : Nat → Growth → Option Growth
  | 0, g => some g
  | n + 1, g => do
    let next ← grow (← g.link)
    copies grow n next

/-- Build so many copies of a fragment, or a state in their place. -/
def exactly (grow : Room → Option Growth) : Nat → Room → Option Growth
  | 0, room => do some ⟨← room.add? (.plain 1), false⟩
  | n + 1, room => do copies grow n (← grow room)

/-- Follow what has been built by so many copies of a fragment that can all be left out, each after
a fork. -/
def optional (grow : Room → Option Growth) : Nat → Growth → Option Growth
  | 0, g => some g
  | n + 1, g => do
    let room ← g.link
    let next ← grow (← room.add? (.fork 2))
    optional grow n next

/-- Build a fragment as often as wanted, from none. What may match the empty text needs more states
for that. -/
def freely (grow : Room → Option Growth) (isNeverBlank : Bool) (room : Room) : Option Growth :=
  if isNeverBlank then do
    let once ← grow (← room.add? (.fork 1))
    some ⟨← once.link, true⟩
  else do
    let once ← grow room
    once.closeWith (((Room.fork 2).plus (.fork 2)).plus (.plain 1))

/-- Build a repetition of a fragment. -/
def times (grow : Room → Option Growth) (least : Nat) (most : Option Nat) (isNeverBlank : Bool)
    (room : Room) : Option Growth :=
  match least, most with
  | 0, some 1 => do
    let once ← grow (← room.add? (.fork 2))
    once.closeWith (.plain 1)
  | 0, none => freely grow isNeverBlank room
  | least, none => do
    let g ← exactly grow least room
    some ⟨← (← g.link).add? (.fork 1), true⟩
  | least, some most => do
    let g ← exactly grow least room
    if least = most then some g
    else
      let g ← optional grow (most - least) ⟨← g.room.add? (.plain 1), g.endsInFork⟩
      some ⟨← g.link, false⟩

end Growth

namespace Plan

mutual

/-- Build a fragment. -/
def grow : Plan → Room → Option Growth
  | .fixed more, room => do some ⟨← room.add? more, false⟩
  | .forwards t, room => do some ⟨← t.grow room, false⟩
  | .backwards rows, room => do some ⟨← ByteRows.grow rows room, false⟩
  | .between p, room => do
    let g ← grow p (← room.add? (.plain 1))
    g.closeWith (.plain 1)
  | .times p least most isNeverBlank, room =>
    Growth.times (fun room => grow p room) least most isNeverBlank room
  | .row ps, room => growRow ps room
  | .choice ps, room => growChoice ps room

/-- Build fragments one after the other. -/
def growRow : List Plan → Room → Option Growth
  | [], room => do some ⟨← room.add? (.plain 1), false⟩
  | [p], room => grow p room
  | p :: ps, room => do
    let g ← grow p room
    growRow ps (← g.link)

/-- Build alternatives between a fork and one state at their end, which are built after the second
alternative. -/
def growChoice : List Plan → Room → Option Growth
  | [], room => do some ⟨← room.add? (.plain 1), false⟩
  | [p], room => grow p room
  | p :: q :: ps, room => do
    let first ← grow p room
    let second ← grow q (← first.link)
    let room ← (← second.link).add? ((Room.fork 2).plus (.plain 1))
    some ⟨← growBranches ps room, false⟩

/-- Build the alternatives after the second one. -/
def growBranches : List Plan → Room → Option Room
  | [], room => some room
  | p :: ps, room => do
    let g ← grow p room
    growBranches ps (← (← g.link).add? (.jumps 1))

end

/-- The bytes of a literal in the order in which they are read. -/
def literalBytes (e : Shape.End) (cs : List Char) : List Nat :=
  let bytes := cs.flatMap fun c => Text.utf8 c.toNat
  match e with
  | .front => bytes
  | .back => bytes.reverse

/-- The fragments for a character of a set. -/
def ofSet (e : Shape.End) (s : CharSet) (isBytes : Bool) : Plan :=
  if isBytes || s.isAscii then .fixed ((Room.branching s.bounds.length).plus (.plain 1))
  else
    match e with
    | .front => .forwards (.ofRows (byteRows s))
    | .back => .backwards (byteRows s)

mutual

/-- The fragments for a shape. Only the automaton that reads forwards remembers groups. -/
def ofShape (e : Shape.End) : Shape → Plan
  | .empty | .assertion _ => .fixed (.plain 1)
  | .literal cs => .fixed (.plain (literalBytes e cs).length)
  | .set s isBytes => ofSet e s isBytes
  | .times s least most _ => .times (ofShape e s) least most s.isNeverBlank
  | .group _ s =>
    match e with
    | .front => .between (ofShape e s)
    | .back => ofShape e s
  | .row ss =>
    match e with
    | .front => .row (ofShapes e ss)
    | .back => .row (ofShapes e ss).reverse
  | .choice ss =>
    match ss.mapM Shape.literal? with
    | some (a :: b :: rest) => .fixed (Literals.room ((a :: b :: rest).map (literalBytes e)))
    | _ => .choice (ofShapes e ss)

/-- The fragments for several shapes. -/
def ofShapes (e : Shape.End) : List Shape → List Plan
  | [] => []
  | s :: ss => ofShape e s :: ofShapes e ss

end

/-- Build the automaton for a shape. A match may start anywhere unless the shape is anchored, and
the automaton that reads forwards remembers the whole match. -/
def growWhole (e : Shape.End) (s : Shape) : Option Room := do
  let start ← if s.isAnchored e then Room.nothing.add? (.plain 1)
    else Room.nothing.add? (((Room.fork 2).plus (.branching 1)).plus (.plain 1))
  let p := ofShape e s
  let g ← grow (match e with | .front => .between p | .back => p) start
  (← g.link).add? (.plain 1)

end Plan

/-- Whether the automata for a shape stay within their limit. -/
def Shape.fits (s : Shape) : Bool :=
  (Plan.growWhole .front s).isSome && (Plan.growWhole .back s).isSome

end Schemata.Pattern
