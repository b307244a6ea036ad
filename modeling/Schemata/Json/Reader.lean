import Schemata.Json.Token

/-!
# Reading JSON

The reader takes one token after another. Arrays and objects that are still open form a stack of
frames, and `Expectation` says what may come next; `Progress.step` is the whole grammar. Nesting is
bounded: one array or object more than the bound is a syntax error.

* `Json.readFront` reads one value from the front of a text and leaves the rest.
* `Json.read?` accepts nothing but blanks after the value.
-/

namespace Schemata.Json

/-- An array or an object that is still open, with its members so far in reverse. -/
inductive Frame
  | array (done : List Json)
  /-- The name of the member whose value is awaited comes last. -/
  | object (done : List (String × Json)) (name : String)

/-- What may come next. -/
inductive Expectation
  | value
  /-- The first item of an array, or its end. -/
  | valueOrEnd
  | name
  /-- The first name of an object, or its end. -/
  | nameOrEnd
  | colon
  /-- A comma, or the end of the innermost array or object. -/
  | commaOrEnd
  deriving DecidableEq

/-- A value that has been read in part. -/
structure Progress where
  frames : List Frame
  next : Expectation

/-- The outcome of one token. -/
inductive Advance
  | more (p : Progress)
  | finished (j : Json)

namespace Progress

/-- Hand a complete value to the innermost frame. -/
def deliver (j : Json) : List Frame → Advance
  | [] => .finished j
  | .array done :: rest => .more ⟨.array (j :: done) :: rest, .commaOrEnd⟩
  | .object done name :: rest => .more ⟨.object ((name, j) :: done) "" :: rest, .commaOrEnd⟩

/-- Open a frame unless the nesting is at its bound. -/
def enter (bound : Nat) (frames : List Frame) (f : Frame) (next : Expectation) : Option Advance :=
  if frames.length < bound then some (.more ⟨f :: frames, next⟩) else none

/-- Whether a value may come next. -/
def awaitsValue (p : Progress) : Bool := p.next == .value || p.next == .valueOrEnd

/-- Take one token. -/
def step (bound : Nat) (p : Progress) : Token → Option Advance
  | .scalar j => if p.awaitsValue then some (deliver j p.frames) else none
  | .text s =>
    if p.awaitsValue then some (deliver (.string s) p.frames)
    else
      match p.next, p.frames with
      | .name, .object done _ :: rest | .nameOrEnd, .object done _ :: rest =>
        some (.more ⟨.object done s :: rest, .colon⟩)
      | _, _ => none
  | .openArray =>
    if p.awaitsValue then enter bound p.frames (.array []) .valueOrEnd else none
  | .openObject =>
    if p.awaitsValue then enter bound p.frames (.object [] "") .nameOrEnd else none
  | .closeArray =>
    match p.next, p.frames with
    | .valueOrEnd, .array done :: rest | .commaOrEnd, .array done :: rest =>
      some (deliver (.array done.reverse) rest)
    | _, _ => none
  | .closeObject =>
    match p.next, p.frames with
    | .nameOrEnd, .object done _ :: rest | .commaOrEnd, .object done _ :: rest =>
      some (deliver (.object done.reverse) rest)
    | _, _ => none
  | .comma =>
    match p.next, p.frames with
    | .commaOrEnd, .array _ :: _ => some (.more { p with next := .value })
    | .commaOrEnd, .object _ _ :: _ => some (.more { p with next := .name })
    | _, _ => none
  | .colon =>
    match p.next with
    | .colon => some (.more { p with next := .value })
    | _ => none

/-- Take tokens until the value is complete, at most `fuel` of them. -/
def run (bound : Nat) : Nat → Progress → List Char → Option (Json × List Char)
  | 0, _, _ => none
  | fuel + 1, p, cs =>
    match Token.read cs with
    | none => none
    | some (token, rest) =>
      match p.step bound token with
      | none => none
      | some (.finished j) => some (j, rest)
      | some (.more p) => run bound fuel p rest

end Progress

/-- Read one value from the front of a text, nested no deeper than a bound, and leave the rest.
Every token takes a character at least, so there are no more tokens than characters. -/
def readFront (bound : Nat) (cs : List Char) : Option (Json × List Char) :=
  Progress.run bound (cs.length + 1) ⟨[], .value⟩ cs

/-- Read a text that is one value and blanks. -/
def read? (bound : Nat) (text : String) : Option Json :=
  (readFront bound text.toList).bind fun (j, rest) =>
    if rest.all Token.isBlank then some j else none

end Schemata.Json
