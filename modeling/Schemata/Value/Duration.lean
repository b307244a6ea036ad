import Schemata.Kind
import Schemata.Text.Digits

/-!
# Durations

A duration is a number of nanoseconds, of either sign, that makes up at most `2 ^ 63 - 1`
milliseconds. It is written as `[-][d.]hh:mm:ss[.fffffffff]`.

Each of the parts is a 64-bit number with a sign of its own, and only its upper bound is checked,
so parts below zero count backwards. The parts are added up from the days on, and every sum on the
way must be a duration.

A literal that is read as a value of some kind may fail in two ways. Most often it is not written
as that kind requires, and whoever reads it says so and goes on. A duration may also be written
correctly and be too long to count, which ends the whole pass that reads it (`Reading`).
-/

namespace Schemata

/-- A duration beyond the greatest one was written. -/
structure TooLong where
  deriving DecidableEq

/-- The result of reading a literal: a value, or none if the literal is malformed. -/
abbrev Reading (α : Type) := Except TooLong (Option α)

/-- A number of nanoseconds within bounds. -/
structure Duration where
  nanoseconds : Int
  natAbs_le : nanoseconds.natAbs ≤ ((1 <<< 63) - 1) * 1000000
  deriving DecidableEq

namespace Duration

/-- The duration of a number of nanoseconds, if it is one. -/
def ofNanoseconds? (n : Int) : Option Duration :=
  if h : n.natAbs ≤ ((1 <<< 63) - 1) * 1000000 then some ⟨n, h⟩ else none

/-- The duration that goes as far back. -/
def neg (d : Duration) : Duration :=
  ⟨-d.nanoseconds, by have := d.natAbs_le; simpa using this⟩

/-- Add parts one after the other; every part and every sum must be a duration. -/
def sum? (total : Duration) : List Int → Option Duration
  | [] => some total
  | part :: rest => do
    let _ ← ofNanoseconds? part
    let next ← ofNanoseconds? (total.nanoseconds + part)
    sum? next rest

/-- A 64-bit number: digits after an optional sign. -/
def readPart (cs : List Char) : Option Int := do
  let n ← match cs with
    | '-' :: ds => (Text.natural? ds).map fun n => -(n : Int)
    | '+' :: ds => (Text.natural? ds).map fun n => (n : Int)
    | ds => (Text.natural? ds).map fun n => (n : Int)
  let range := IntegerKind.int64
  if range.least ≤ n ∧ n ≤ range.greatest then some n else none

/-- The text before and the text after the first of some character, if it occurs. -/
def splitFirst (mark : Char) (cs : List Char) : List Char × Option (List Char) :=
  match cs.dropWhile (· != mark) with
  | [] => (cs, none)
  | _ :: after => (cs.takeWhile (· != mark), some after)

/-- Nanoseconds of a fraction of one to nine digits. -/
def readFraction (cs : List Char) : Option Int :=
  if 9 < cs.length then none
  else (Text.natural? cs).map fun n => (n * Nat.pow 10 (9 - cs.length) : Nat)

/-- The nanoseconds of the days, hours, minutes, seconds and fraction of a duration without its
sign. -/
def readParts (cs : List Char) : Option (List Int) := do
  let (first, rest) := splitFirst ':' cs
  let (second, rest) := splitFirst ':' (← rest)
  let third ← rest
  let (days, hours) ← match splitFirst '.' first with
    | (days, some hours) => do some (← readPart days, ← readPart hours)
    | (hours, none) => do some (0, ← readPart hours)
  let minutes ← readPart second
  let (seconds, fraction) ← match splitFirst '.' third with
    | (seconds, some fraction) => do some (← readPart seconds, ← readFraction fraction)
    | (seconds, none) => do some (← readPart seconds, 0)
  if hours ≤ 23 ∧ minutes ≤ 59 ∧ seconds ≤ 59 then
    some [days * 86400000000000, hours * 3600000000000, minutes * 60000000000,
      seconds * 1000000000, fraction]
  else none

/-- Read a duration. -/
def read (cs : List Char) : Reading Duration :=
  let negative := cs.head? == some '-'
  match readParts (if negative then cs.tail else cs) with
  | none => .ok none
  | some parts =>
    match sum? ⟨0, by decide⟩ parts with
    | none => .error {}
    | some d => .ok (some (if negative then d.neg else d))

/-- Write a duration: days only if there are any, a fraction without the zeros at its end. -/
def text (d : Duration) : List Char :=
  let total := d.nanoseconds.natAbs
  let nanoseconds := total % 1000000000
  let seconds := total / 1000000000
  let days := seconds / 86400
  (if d.nanoseconds < 0 then ['-'] else []) ++
    (if days = 0 then [] else Nat.toDigits 10 days ++ ['.']) ++
    Text.padded 2 (seconds / 3600 % 24) ++ ':' :: Text.padded 2 (seconds / 60 % 60) ++
    ':' :: Text.padded 2 (seconds % 60) ++
    if nanoseconds = 0 then [] else '.' :: Text.dropZeroEnd (Text.padded 9 nanoseconds)

end Duration

end Schemata
