import Schemata.Pattern.CharSet
import Schemata.Text.Word

/-!
# Patterns

A pattern describes texts: it is matched against a text from a position on, and ends at a later
one. `Pattern.ends` computes all positions at which a match from given positions may end, and
`Pattern.isFoundIn` asks whether there is a match anywhere.

Assertions look at the characters on both sides of a position and consume nothing.
-/

namespace Schemata

/-- What is asserted of a position in a text. -/
inductive Assertion
  | textStart
  | textEnd
  | lineStart
  | lineEnd
  /-- Lines end with a carriage return, a line feed or one after the other. -/
  | lineStartAny
  | lineEndAny
  /-- A word starts or ends here. Words are those of ASCII, or of all scripts. -/
  | wordEdge (ascii : Bool)
  | noWordEdge (ascii : Bool)
  | wordStart (ascii : Bool)
  | wordEnd (ascii : Bool)
  /-- No word character comes before. -/
  | noWordBefore (ascii : Bool)
  /-- No word character comes after. -/
  | noWordAfter (ascii : Bool)
  deriving DecidableEq

namespace Assertion

/-- Whether a character belongs to words. -/
def isWordChar (ascii : Bool) (c : Char) : Bool :=
  if ascii then c.isAlphanum || c == '_' else Text.wordRanges.contains c

/-- Whether the assertion holds between two neighbours, either of which may be missing. -/
def holdsBetween (before after : Option Char) : Assertion → Bool
  | .textStart => before.isNone
  | .textEnd => after.isNone
  | .lineStart => before.isNone || before == some '\n'
  | .lineEnd => after.isNone || after == some '\n'
  | .lineStartAny =>
    before.isNone || before == some '\n' || (before == some '\r' && after != some '\n')
  | .lineEndAny =>
    after.isNone || after == some '\r' || (after == some '\n' && before != some '\r')
  | .wordEdge ascii => before.any (isWordChar ascii) != after.any (isWordChar ascii)
  | .noWordEdge ascii => before.any (isWordChar ascii) == after.any (isWordChar ascii)
  | .wordStart ascii => !before.any (isWordChar ascii) && after.any (isWordChar ascii)
  | .wordEnd ascii => before.any (isWordChar ascii) && !after.any (isWordChar ascii)
  | .noWordBefore ascii => !before.any (isWordChar ascii)
  | .noWordAfter ascii => !after.any (isWordChar ascii)

/-- The character before a position. -/
def charBefore (text : Array Char) : Nat → Option Char
  | 0 => none
  | i + 1 => text[i]?

/-- Whether the assertion holds at a position of a text. -/
def holds (text : Array Char) (a : Assertion) (i : Nat) : Bool :=
  a.holdsBetween (charBefore text i) text[i]?

end Assertion

/-- A pattern. -/
inductive Pattern
  | empty
  /-- One character of a set. -/
  | char (s : CharSet)
  | assertion (a : Assertion)
  | concat (p q : Pattern)
  | either (p q : Pattern)
  /-- A pattern `least` times in a row, and then until `most` times are reached, if that is given. -/
  | times (p : Pattern) (least : Nat) (most : Option Nat)

namespace Pattern

/-- A text matches `p` from position `i` to position `j`. -/
inductive Spans (text : Array Char) : Pattern → Nat → Nat → Prop
  | empty {i : Nat} : Spans text .empty i i
  | char {s : CharSet} {i : Nat} {c : Char} (hc : text[i]? = some c) (hs : s.contains c) :
    Spans text (.char s) i (i + 1)
  | assertion {a : Assertion} {i : Nat} (h : a.holds text i) : Spans text (.assertion a) i i
  | concat {p q : Pattern} {i j k : Nat} (hp : Spans text p i j) (hq : Spans text q j k) :
    Spans text (.concat p q) i k
  | left {p q : Pattern} {i j : Nat} (h : Spans text p i j) : Spans text (.either p q) i j
  | right {p q : Pattern} {i j : Nat} (h : Spans text q i j) : Spans text (.either p q) i j
  | stop {p : Pattern} {most : Option Nat} {i : Nat} : Spans text (.times p 0 most) i i
  | again {p : Pattern} {least : Nat} {most : Option Nat} {i j k : Nat}
    (hm : 0 < least ∨ most ≠ some 0) (hp : Spans text p i j)
    (hr : Spans text (.times p (least - 1) (most.map (· - 1))) j k) :
    Spans text (.times p least most) i k

/-- The positions after exactly `n` steps; positions that a step keeps are kept by all others. -/
def iterate (step : List Nat → List Nat) : Nat → List Nat → List Nat
  | 0, here => here
  | n + 1, here =>
    let next := step here
    if next == here then here else iterate step n next

/-- The positions after at most `n` steps, where `seen` are known already and `fresh` are those of
them that were reached last. -/
def reach (step : List Nat → List Nat) : Nat → List Nat → List Nat → List Nat
  | 0, seen, _ => seen
  | n + 1, seen, fresh =>
    let next := (step fresh).filter fun i => !seen.contains i
    if next.isEmpty then seen else reach step n (seen ++ next) next

/-- The positions at which a match from one of the given positions may end. An unbounded
repetition reaches every position that it can reach in as many steps as there are positions. -/
def ends (text : Array Char) : Pattern → List Nat → List Nat
  | .empty, starts => starts
  | .char s, starts =>
    starts.filterMap fun i => if text[i]?.any s.contains then some (i + 1) else none
  | .assertion a, starts => starts.filter (a.holds text)
  | .concat p q, starts => ends text q (ends text p starts)
  | .either p q, starts =>
    let left := ends text p starts
    left ++ (ends text q starts).filter fun i => !left.contains i
  | .times p least most, starts =>
    let first := iterate (fun here => ends text p here) least starts
    let more := match most with
      | none => text.size + 1
      | some m => m - least
    reach (fun here => ends text p here) more first first

/-- Whether the pattern matches somewhere in a text. -/
def isFoundIn (p : Pattern) (text : Array Char) : Bool :=
  !(p.ends text (List.range (text.size + 1))).isEmpty

end Pattern

end Schemata
