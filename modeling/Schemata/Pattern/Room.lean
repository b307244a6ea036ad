/-!
# Room for automata

An automaton for a pattern is built state by state, and is given up when it takes more than
`Room.limit` bytes. A state takes 32 bytes, a jump to another state takes 4 more, and an edge for a
range of bytes takes 8 more. States that have only one edge and never more than that have it within
their 32 bytes.
-/

namespace Schemata.Pattern

/-- The room that an automaton takes. -/
structure Room where
  /-- The number of states, which is also the number that the next state gets. -/
  states : Nat
  /-- The bytes that states take beyond what every state takes. -/
  extra : Nat

namespace Room

/-- The bytes that an automaton may take. -/
def limit : Nat := 10 * (1 <<< 20)

/-- All bytes of an automaton. -/
def bytes (r : Room) : Nat := 32 * r.states + r.extra

/-- No room at all. -/
def nothing : Room := ⟨0, 0⟩

/-- The room of two parts. -/
def plus (r s : Room) : Room := ⟨r.states + s.states, r.extra + s.extra⟩

/-- A number of states without edges. -/
def plain (states : Nat) : Room := ⟨states, 0⟩

/-- A number of jumps. -/
def jumps (n : Nat) : Room := ⟨0, 4 * n⟩

/-- One state with jumps to others. -/
def fork (jumps : Nat) : Room := ⟨1, 4 * jumps⟩

/-- One state with edges. -/
def branching (edges : Nat) : Room := ⟨1, 8 * edges⟩

/-- Add to an automaton, unless it grows beyond the limit. -/
def add? (r : Room) (more : Room) : Option Room :=
  if (r.plus more).bytes ≤ limit then some (r.plus more) else none

end Room

end Schemata.Pattern
