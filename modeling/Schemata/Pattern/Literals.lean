import Schemata.Pattern.Room

/-!
# Choices among literals

A choice among literals becomes one automaton that reads what several of them start with only once.
Which literal comes first matters: what follows the end of a literal is kept apart from what was
there before it.
-/

namespace Schemata.Pattern

/-- What may follow in a set of literals, the latest first. -/
inductive Literals
  | nothing
  /-- A literal ends here, after the literals of the rest and before the others. -/
  | stop (rest : Literals)
  /-- A byte with what may follow it. -/
  | edge (byte : Nat) (follow rest : Literals)

namespace Literals

/-- Whether no byte follows. -/
def isLeaf : Literals → Bool
  | .nothing => true
  | .stop rest => isLeaf rest
  | .edge _ _ _ => false

/-- Change what follows a byte, if the byte is there since the last end of a literal. -/
def update? (byte : Nat) (change : Literals → Literals) : Literals → Option Literals
  | .edge b follow rest =>
    if b = byte then some (.edge b (change follow) rest)
    else (update? byte change rest).map (.edge b follow)
  | _ => none

/-- End a literal here. Where nothing but ends of literals is known, one end is enough. -/
def finish : Literals → Literals
  | .stop rest => if rest.isLeaf then .stop rest else .stop (.stop rest)
  | t => .stop t

/-- Add a literal. -/
def insert : List Nat → Literals → Literals
  | [], t => t.finish
  | b :: bytes, t => (t.update? b (insert bytes)).getD (.edge b (insert bytes .nothing) t)

/-- The room of the edges since the last end of a literal: they share a state, to which a fork
jumps. -/
def chunk : Nat → Room
  | 0 => .nothing
  | 1 => ⟨1, 4⟩
  | edges => (Room.branching edges).plus (.jumps 1)

/-- The room of all that may follow, where so many edges were passed since the last end of a
literal. What is followed by nothing leads to the one state at the end of all literals. -/
def roomFrom (edges : Nat) : Literals → Room
  | .nothing => chunk edges
  | .stop rest => ((chunk edges).plus (.jumps 1)).plus (roomFrom 0 rest)
  | .edge _ follow rest =>
    let below := if follow.isLeaf then Room.nothing else (Room.fork 0).plus (roomFrom 0 follow)
    below.plus (roomFrom (edges + 1) rest)

/-- The room of the automaton for a choice among literals. -/
def room (literals : List (List Nat)) : Room :=
  let all := literals.foldl (fun t bytes => insert bytes t) .nothing
  (Room.plain 2).plus (roomFrom 0 all)

end Literals

end Schemata.Pattern
