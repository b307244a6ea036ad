import Std.Data.HashMap
import Schemata.Pattern.CharSet
import Schemata.Pattern.Room
import Schemata.Text.Encoding

/-!
# Sets of characters as bytes

An automaton reads bytes, so a set of characters becomes states for the rows of byte ranges that
encode it. Forwards, rows are joined by what they start with, and nodes with equal edges are built
only once; backwards, rows are joined by what they end with. In both directions a node is found
again only while it is remembered.
-/

namespace Schemata.Pattern

/-! ## Memory of nodes -/

/-- An edge of a node: the first and the last byte, and the number of the state that they lead
to. -/
abbrev ByteEdge := Nat × Nat × Nat

/-- The nodes that are remembered. Each has its place by its hash, and a place holds the node that
was put there last. -/
abbrev NodeMemory := Std.HashMap Nat (List ByteEdge × Nat)

namespace NodeMemory

/-- Mix one more number into a hash. -/
def mix (hash : UInt64) (n : Nat) : UInt64 := (hash ^^^ UInt64.ofNat n) * 1099511628211

/-- The hash of a list of numbers. -/
def hash (numbers : List Nat) : UInt64 := numbers.foldl mix 14695981039346656037

/-- The state of a node that is remembered at a place. -/
def find? (m : NodeMemory) (place : Nat) (node : List ByteEdge) : Option Nat :=
  match m.get? place with
  | some (known, state) => if known == node then some state else none
  | none => none

end NodeMemory

/-- States under construction, and the nodes that are remembered. -/
structure Building where
  room : Room
  memory : NodeMemory

/-- The state for a node: the one that is remembered, or a new one of the given room. -/
def Building.state (b : Building) (place : Nat) (node : List ByteEdge) (size : Room) :
    Option (Nat × Building) :=
  match b.memory.find? place node with
  | some state => some (state, b)
  | none => do
    let room ← b.room.add? size
    some (b.room.states, ⟨room, b.memory.insert place (node, b.room.states)⟩)

/-- The rows of byte ranges that encode the characters of a set. -/
def byteRows (s : CharSet) : List (List (Nat × Nat)) :=
  s.bounds.flatMap fun (first, last) => Text.rowsOfRange first last

/-! ## Forwards -/

/-- Rows of byte ranges joined by what they start with. -/
inductive ByteTree
  | leaf
  /-- A range of bytes, what follows it, and the ranges that stand beside it after it. -/
  | edge (first last : Nat) (follow rest : ByteTree)

namespace ByteTree

/-- A row by itself. -/
def ofRow : List (Nat × Nat) → ByteTree
  | [] => .leaf
  | (first, last) :: row => .edge first last (ofRow row) .leaf

/-- Put a row in front of those that come after it. -/
def cons : List (Nat × Nat) → ByteTree → ByteTree
  | (first, last) :: row, .edge a b follow rest =>
    if first = a ∧ last = b then .edge a b (cons row follow) rest
    else .edge first last (ofRow row) (.edge a b follow rest)
  | row, _ => ofRow row

/-- The tree of several rows. -/
def ofRows (rows : List (List (Nat × Nat))) : ByteTree := rows.foldr cons .leaf

/-- The number of places for nodes. -/
def places : UInt64 := 10000

/-- The place of a node. -/
def placeOf (node : List ByteEdge) : Nat :=
  (NodeMemory.hash (node.flatMap fun (first, last, state) => [first, last, state]) % places).toNat

/-- The state for a node. -/
def node (edges : List ByteEdge) (b : Building) : Option (Nat × Building) :=
  b.state (placeOf edges) edges (.branching edges.length)

/-- Build the nodes below the edges that stand side by side, the deepest first. Leaves lead to the
state `target`. -/
def edges (target : Nat) : ByteTree → Building → Option (List ByteEdge × Building)
  | .leaf, b => some ([], b)
  | .edge first last follow rest, b => do
    let (state, b) ← match follow with
      | .leaf => some (target, b)
      | follow => (edges target follow b).bind fun (below, b) => node below b
    let (beside, b) ← edges target rest b
    some ((first, last, state) :: beside, b)

/-- Build the states of all rows, with one state at the end of all of them. -/
def grow (t : ByteTree) (room : Room) : Option Room := do
  let start ← room.add? (.plain 1)
  let (top, b) ← edges room.states t ⟨start, {}⟩
  let (_, b) ← node top b
  some b.room

end ByteTree

/-! ## Backwards -/

namespace ByteRows

/-- The number of places for nodes. -/
def places : UInt64 := 1000

/-- The place of a byte range that leads to a state. -/
def placeOf (first last state : Nat) : Nat :=
  (NodeMemory.hash [state, first, last] % places).toNat

/-- Build the states of one row, from the state that ends it. -/
def growRow : List (Nat × Nat) → Nat → Building → Option Building
  | [], _, b => some b
  | (first, last) :: row, state, b => do
    let (state, b) ← b.state (placeOf first last state) [(first, last, state)] (.plain 1)
    growRow row state b

/-- Build the states of all rows, each with a jump to it. -/
def growRows (target : Nat) : List (List (Nat × Nat)) → Building → Option Building
  | [], b => some b
  | row :: rows, b => do
    let b ← growRow row target b
    growRows target rows ⟨← b.room.add? (.jumps 1), b.memory⟩

/-- Build the states of all rows between a fork and one state at the end. -/
def grow (rows : List (List (Nat × Nat))) (room : Room) : Option Room := do
  let start ← room.add? (.plain 2)
  let b ← growRows (room.states + 1) rows ⟨start, {}⟩
  some b.room

end ByteRows

end Schemata.Pattern
