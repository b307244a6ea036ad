import Schemata.Pattern.Automaton
import Schemata.Pattern.Basic
import Schemata.Pattern.Property
import Schemata.Text.Blank
import Schemata.Text.Digits

/-!
# Reading patterns

The syntax of regular expressions: alternatives, repetitions with counts, groups with names and
flags, classes with set operations, escapes, properties and assertions. There are no references
back and no assertions about longer stretches of text.

Flags hold from where they are set to the end of the group. Patterns nest no deeper than
`nestingLimit`, and a declared pattern is valid only if the automata for its shape stay within
their limit.

Everything here reads from the front of a list of characters and fails by `none`; functions that
can recur take a bound on the number of steps, and `read?` gives them more than enough.
-/

namespace Schemata.Pattern

/-- The flags that change what a pattern means. -/
structure Flags where
  /-- `i`: letters match in either case. -/
  anyCase : Bool := false
  /-- `m`: the line assertions look at lines, not at the text. -/
  lines : Bool := false
  /-- `s`: the point matches the end of a line too. -/
  pointAll : Bool := false
  /-- `U`: repetitions are lazy unless they are marked. -/
  lazyFirst : Bool := false
  /-- `u`: characters are those of Unicode. -/
  unicode : Bool := true
  /-- `x`: blanks and comments in the pattern are ignored. -/
  spaced : Bool := false
  /-- `R`: a carriage return ends a line as well. -/
  anyLineEnd : Bool := false

/-- How deep a pattern may nest. -/
def nestingLimit : Nat := 250

/-- A part of a pattern with its shape and its depth of nesting. -/
structure Part where
  pattern : Pattern
  shape : Shape
  depth : Nat := 0
  /-- Whether a repetition may follow; it may not after a change of flags. -/
  isRepeatable : Bool := true

/-- What a pattern may consist of before it is repeated or put into a class. -/
inductive Primitive
  /-- A character, and whether it is written as a byte. -/
  | literal (c : Char) (isByte : Bool)
  /-- A set of characters. -/
  | set (s : CharSet)
  | assertion (a : Assertion)
  | point

/-! ## Blanks -/

/-- Drop a comment up to the end of its line. -/
def dropComment : List Char → List Char
  | [] => []
  | c :: rest => if c == '\n' then rest else dropComment rest

theorem dropComment_length (cs : List Char) : (dropComment cs).length ≤ cs.length := by
  induction cs with
  | nil => exact Nat.le_refl _
  | cons c rest ih => unfold dropComment; split <;> simp only [List.length_cons] <;> omega

/-- Drop blanks and comments. -/
def dropSpace : List Char → List Char
  | [] => []
  | c :: rest =>
    if Text.isBlank c then dropSpace rest
    else if c == '#' then dropSpace (dropComment rest)
    else c :: rest
termination_by cs => cs.length
decreasing_by
  · simp
  · have := dropComment_length rest
    simp only [List.length_cons]
    omega

/-- Drop blanks and comments where the flags ignore them. -/
def skip (flags : Flags) (cs : List Char) : List Char :=
  if flags.spaced then dropSpace cs else cs

/-- The character after the first one, blanks left out. A comment counts for its first character
that is not blank. -/
def peek (flags : Flags) (rest : List Char) : Option Char :=
  if flags.spaced then
    match rest.dropWhile Text.isBlank with
    | '#' :: comment => (comment.dropWhile Text.isBlank).head?
    | cs => cs.head?
  else rest.head?

/-! ## Escapes -/

/-- The character of a code point, if there is one. -/
def char? (n : Nat) : Option Char :=
  if n < 0xD800 ∨ (0xE000 ≤ n ∧ n ≤ 0x10FFFF) then some (Char.ofNat n) else none

/-- The number of hexadecimal digits. -/
def hexValue? (ds : List Char) : Option Nat :=
  ds.foldlM (fun n c => (Text.hexDigit? c).map (16 * n + ·)) 0

/-- Take a number of hexadecimal digits. -/
def takeHex (flags : Flags) : Nat → List Char → List Char → Option (List Char × List Char)
  | 0, done, cs => some (done.reverse, cs)
  | n + 1, done, c :: rest =>
    if (Text.hexDigit? c).isSome then takeHex flags n (c :: done) (skip flags rest) else none
  | _ + 1, _, [] => none

/-- The text up to a closing brace, blanks left out where the flags ignore them, and the text
after it. -/
def takeBraced (flags : Flags) (cs : List Char) : Option (List Char × List Char) :=
  let rec go : Nat → List Char → List Char → Option (List Char × List Char)
    | 0, _, _ => none
    | fuel + 1, done, cs =>
      match skip flags cs with
      | [] => none
      | c :: rest => if c == '\x7d' then some (done.reverse, rest) else go fuel (c :: done) rest
  go (cs.length + 1) [] cs

/-- A character by its code point: so many digits, or any number of them in braces. -/
def readHex (flags : Flags) (digits : Nat) (cs : List Char) : Option (Primitive × List Char) := do
  match skip flags cs with
  | '\x7b' :: rest =>
    let (ds, rest) ← takeBraced flags rest
    if ds.isEmpty then none
    else some (.literal (← char? (← hexValue? ds)) false, skip flags rest)
  | cs =>
    let (ds, rest) ← takeHex flags digits [] cs
    some (.literal (← char? (← hexValue? ds)) (digits == 2), rest)

/-- Close a set under change of case where the flags ask for it. -/
def fold (flags : Flags) (s : CharSet) : CharSet :=
  if !flags.anyCase then s else if flags.unicode then s.anyCase else s.anyCaseAscii

/-- A property after `\p` or `\P`. Properties need the characters of Unicode. -/
def readProperty (flags : Flags) (negated : Bool) (cs : List Char) :
    Option (Primitive × List Char) := do
  let ((s, isOthers), rest) ← match skip flags cs with
    | '\x7b' :: rest => do
      let (name, rest) ← takeBraced flags rest
      some (← bracedSet? name, rest)
    | '\\' :: _ => none
    | c :: rest => do some ((← namedSet? [c], false), skip flags rest)
    | [] => none
  if !flags.unicode then none
  else
    let s := fold flags s
    some (.set (if negated == isOthers then s else s.compl), rest)

/-- The ASCII digits. -/
def asciiDigits : CharSet := .range '0' '9'

/-- The ASCII blanks. -/
def asciiBlanks : CharSet := .union (.range '\t' '\r') (.single ' ')

/-- The ASCII word characters. -/
def asciiWords : CharSet :=
  .union asciiDigits (.union (.range 'A' 'Z') (.union (.range 'a' 'z') (.single '_')))

/-- The class of a letter after a backslash. Without the characters of Unicode there is no
complement. -/
def letterClass? (flags : Flags) (letter : Char) : Option CharSet :=
  match flags.unicode, letter with
  | true, 'd' => some (.ofTable Text.digitRanges)
  | true, 's' => some (.ofTable Text.blankRanges)
  | true, 'w' => some (.ofTable Text.wordRanges)
  | true, 'D' => some (CharSet.ofTable Text.digitRanges).compl
  | true, 'S' => some (CharSet.ofTable Text.blankRanges).compl
  | true, 'W' => some (CharSet.ofTable Text.wordRanges).compl
  | false, 'd' => some asciiDigits
  | false, 's' => some asciiBlanks
  | false, 'w' => some asciiWords
  | _, _ => none

/-- The assertion that a word between braces makes of `\b`. -/
def wordAssertion? (ascii : Bool) (word : List Char) : Option Assertion :=
  match String.ofList word with
  | "start" => some (.wordStart ascii)
  | "end" => some (.wordEnd ascii)
  | "start-half" => some (.noWordBefore ascii)
  | "end-half" => some (.noWordAfter ascii)
  | _ => none

/-- What follows `\b`: nothing, or a word in braces. Braces that start otherwise are a count. -/
def readWordEdge (flags : Flags) (cs : List Char) : Option (Primitive × List Char) := do
  let isLetter (c : Char) := c.isAlpha || c == '-'
  match cs with
  | '\x7b' :: inner =>
    match skip flags inner with
    | [] => none
    | c :: _ =>
      if isLetter c then
        let (word, rest) ← takeBraced flags inner
        if word.all isLetter then
          some (.assertion (← wordAssertion? (!flags.unicode) word), rest)
        else none
      else some (.assertion (.wordEdge (!flags.unicode)), cs)
  | _ => some (.assertion (.wordEdge (!flags.unicode)), cs)

/-- What follows a backslash. -/
def readEscape (flags : Flags) : List Char → Option (Primitive × List Char)
  | [] => none
  | c :: rest =>
    let literal (c : Char) : Option (Primitive × List Char) := some (.literal c false, rest)
    let ascii := !flags.unicode
    match c with
    | 'x' => readHex flags 2 rest
    | 'u' => readHex flags 4 rest
    | 'U' => readHex flags 8 rest
    | 'p' => readProperty flags false rest
    | 'P' => readProperty flags true rest
    | 'd' | 's' | 'w' | 'D' | 'S' | 'W' =>
      (letterClass? flags c).map fun s => (.set s, rest)
    | 'a' => literal '\x07'
    | 'f' => literal '\x0c'
    | 't' => literal '\t'
    | 'n' => literal '\n'
    | 'r' => literal '\r'
    | 'v' => literal '\x0b'
    | 'A' => some (.assertion .textStart, rest)
    | 'z' => some (.assertion .textEnd, rest)
    | 'b' => readWordEdge flags rest
    | 'B' => some (.assertion (.noWordEdge ascii), rest)
    | '<' => some (.assertion (.wordStart ascii), rest)
    | '>' => some (.assertion (.wordEnd ascii), rest)
    | c => if c.toNat < 128 && !c.isAlphanum then literal c else none

/-! ## Classes -/

/-- The ASCII classes that a name in brackets stands for. -/
def asciiClass? (name : List Char) : Option CharSet :=
  let upper := CharSet.range 'A' 'Z'
  let lower := CharSet.range 'a' 'z'
  let alpha := CharSet.union upper lower
  match String.ofList name with
  | "alnum" => some (.union asciiDigits alpha)
  | "alpha" => some alpha
  | "ascii" => some (.range '\x00' '\x7f')
  | "blank" => some (.union (.single '\t') (.single ' '))
  | "cntrl" => some (.union (.range '\x00' '\x1f') (.single '\x7f'))
  | "digit" => some asciiDigits
  | "graph" => some (.range '!' '~')
  | "lower" => some lower
  | "print" => some (.range ' ' '~')
  | "punct" => some (.union (.range '!' '/') (.union (.range ':' '@')
      (.union (.range '[' '\x60') (.range '\x7b' '~'))))
  | "space" => some asciiBlanks
  | "upper" => some upper
  | "word" => some asciiWords
  | "xdigit" => some (.union asciiDigits (.union (.range 'A' 'F') (.range 'a' 'f')))
  | _ => none

/-- A named ASCII class after its opening bracket. `none` means that there is none, and the inner
option fails where the class may not be used. -/
def readAsciiClass (flags : Flags) (cs : List Char) : Option (Option CharSet × List Char) :=
  match cs with
  | ':' :: rest =>
    let (negated, rest) := match rest with
      | '^' :: rest => (true, rest)
      | rest => (false, rest)
    match rest.dropWhile (· != ':') with
    | ':' :: ']' :: after =>
      (asciiClass? (rest.takeWhile (· != ':'))).map fun s =>
        if negated then (if flags.unicode then some (fold flags s).compl else none, after)
        else (some (fold flags s), after)
    | _ => none
  | _ => none

/-- An operation on sets in a class. -/
inductive SetOp
  | inter
  | minus
  | symDiff

/-- Apply an operation to sets that are closed under change of case before. -/
def SetOp.apply (flags : Flags) (op : SetOp) (a b : CharSet) : CharSet :=
  match op with
  | .inter => .inter (fold flags a) (fold flags b)
  | .minus => .minus (fold flags a) (fold flags b)
  | .symDiff => .symDiff (fold flags a) (fold flags b)

/-- The items of a class so far: their union, their number, and their greatest depth. -/
structure ClassItems where
  set : CharSet := .empty
  count : Nat := 0
  depth : Nat := 0

namespace ClassItems

/-- One more item. -/
def add (items : ClassItems) (s : CharSet) (depth : Nat := 0) : ClassItems :=
  ⟨if items.count = 0 then s else .union items.set s, items.count + 1, max items.depth depth⟩

/-- The depth of the items as one operand. -/
def operandDepth (items : ClassItems) : Nat :=
  if items.count ≤ 1 then items.depth else items.depth + 1

end ClassItems

/-- The left operand of an operation that awaits its right one. -/
structure Pending where
  left : CharSet
  depth : Nat
  op : SetOp

/-- The operand that the items complete, together with the operation before them. -/
def operand (flags : Flags) (pending : Option Pending) (items : ClassItems) : CharSet × Nat :=
  match pending with
  | none => (items.set, items.operandDepth)
  | some p => (p.op.apply flags p.left items.set, max p.depth items.operandDepth + 1)

/-- A literal of a class. Without the characters of Unicode only those of ASCII are allowed. -/
def classLiteral? (flags : Flags) : Primitive → Option Char
  | .literal c _ => if flags.unicode || c.toNat < 128 then some c else none
  | _ => none

/-- The character or the escape at the front of a class. -/
def readClassPrimitive (flags : Flags) : List Char → Option (Primitive × List Char)
  | '\\' :: rest => readEscape flags rest
  | c :: rest => some (.literal c false, rest)
  | [] => none

/-- A character, a range of characters or an escape at the front of a class. -/
def readClassRange (flags : Flags) (cs : List Char) : Option (CharSet × List Char) := do
  let (first, rest) ← readClassPrimitive flags cs
  match skip flags rest with
  | [] => none
  | c :: after =>
    if c != '-' || peek flags after == some ']' || peek flags after == some '-' then
      match first with
      | .set s => some (s, c :: after)
      | p => (classLiteral? flags p).map fun d => (.single d, c :: after)
    else
      let (last, rest) ← readClassPrimitive flags (skip flags after)
      let first ← classLiteral? flags first
      let last ← classLiteral? flags last
      if first ≤ last then some (.range first last, rest) else none

/-- Take the hyphens at the start of a class, which are items. -/
def takeHyphens (flags : Flags) : Nat → ClassItems → List Char → ClassItems × List Char
  | 0, items, cs => (items, cs)
  | fuel + 1, items, cs =>
    match cs with
    | '-' :: rest => takeHyphens flags fuel (items.add (.single '-')) (skip flags rest)
    | cs => (items, cs)

/-- Read what follows the opening bracket of a class: a mark of negation, and hyphens or a closing
bracket as items. -/
def openClass (flags : Flags) (cs : List Char) : Bool × ClassItems × List Char :=
  let cs := skip flags cs
  let (negated, cs) := match cs with
    | '^' :: rest => (true, skip flags rest)
    | cs => (false, cs)
  let (items, cs) := takeHyphens flags (cs.length + 1) {} cs
  match items.count, cs with
  | 0, ']' :: rest => (negated, items.add (.single ']'), skip flags rest)
  | _, cs => (negated, items, cs)

/-- Read the rest of a class up to its closing bracket: its set and its depth. -/
def readClassBody (flags : Flags) : Nat → Bool → Option Pending → ClassItems → List Char →
    Option (CharSet × Nat × List Char)
  | 0, _, _, _, _ => none
  | fuel + 1, negated, pending, items, cs =>
    let operate (op : SetOp) (rest : List Char) :=
      let (left, depth) := operand flags pending items
      readClassBody flags fuel negated (some ⟨left, depth, op⟩) {} rest
    match skip flags cs with
    | [] => none
    | '[' :: rest =>
      match readAsciiClass flags rest with
      | some (none, _) => none
      | some (some s, rest) => readClassBody flags fuel negated pending (items.add s) rest
      | none =>
        let (innerNegated, innerItems, inner) := openClass flags rest
        match readClassBody flags fuel innerNegated none innerItems inner with
        | none => none
        | some (s, depth, rest) =>
          readClassBody flags fuel negated pending (items.add s depth) rest
    | ']' :: rest =>
      let (s, depth) := operand flags pending items
      if !negated then some (fold flags s, depth + 1, rest)
      else if flags.unicode then some ((fold flags s).compl, depth + 1, rest)
      else none
    | '&' :: '&' :: rest => operate .inter rest
    | '-' :: '-' :: rest => operate .minus rest
    | '~' :: '~' :: rest => operate .symDiff rest
    | cs =>
      match readClassRange flags cs with
      | none => none
      | some (s, rest) => readClassBody flags fuel negated pending (items.add s) rest

/-- Read a class after its opening bracket. -/
def readClass (flags : Flags) (cs : List Char) : Option (Part × List Char) :=
  let (negated, items, rest) := openClass flags cs
  (readClassBody flags (2 * cs.length + 2) negated none items rest).map fun (s, depth, rest) =>
    ({ pattern := .char s, shape := .ofSet s (!flags.unicode), depth }, rest)

/-! ## Repetition -/

/-- The last part so far, if it may be repeated, and those before it. -/
def lastRepeatable : List Part → Option (Part × List Part)
  | part :: before => if part.isRepeatable then some (part, before) else none
  | [] => none

/-- How a part is repeated. Whether it is lazy does not change what is matched. -/
structure Repetition where
  least : Nat
  most : Option Nat
  isLazy : Bool

/-- A repeated part. -/
def Part.repeated (part : Part) (r : Repetition) : Part where
  pattern := .times part.pattern r.least r.most
  shape := part.shape.repeated r.least r.most r.isLazy
  depth := part.depth + 1

/-- A repetition with the mark that may follow it. -/
def readLazy (flags : Flags) (least : Nat) (most : Option Nat) :
    List Char → Repetition × List Char
  | '?' :: rest => (⟨least, most, !flags.lazyFirst⟩, rest)
  | cs => (⟨least, most, flags.lazyFirst⟩, cs)

/-- The digits at the front, blanks left out where the flags ignore them. -/
def takeDigits (flags : Flags) : Nat → List Char → List Char × List Char
  | 0, cs => ([], cs)
  | fuel + 1, cs =>
    match cs with
    | c :: rest =>
      if c.isDigit then
        let (ds, rest) := takeDigits flags fuel (skip flags rest)
        (c :: ds, rest)
      else ([], cs)
    | [] => ([], [])

/-- A number of 32 bits between blanks. -/
def readCount (flags : Flags) (cs : List Char) : Option (Nat × List Char) := do
  let (ds, rest) := takeDigits flags (cs.length + 1) (cs.dropWhile Text.isBlank)
  let n ← Text.natural? ds
  if n < 1 <<< 32 then some (n, skip flags (rest.dropWhile Text.isBlank)) else none

/-- The counts of a repetition after its opening brace. -/
def readCounts (flags : Flags) (cs : List Char) : Option (Repetition × List Char) := do
  let (least, rest) ← readCount flags (skip flags cs)
  let (most, rest) ← match rest with
    | ',' :: rest =>
      match skip flags rest with
      | '\x7d' :: rest => some (none, '\x7d' :: rest)
      | rest => do
        let (most, rest) ← readCount flags rest
        some (some most, rest)
    | rest => some (some least, rest)
  match rest with
  | '\x7d' :: rest =>
    if most.all (least ≤ ·) then some (readLazy flags least most (skip flags rest)) else none
  | _ => none

/-! ## Groups -/

/-- A change of flags: each flag that is named, with its new value. -/
def readFlags : Nat → Bool → List Char → List Char → List (Char × Bool) →
    Option (List (Char × Bool) × List Char)
  | 0, _, _, _, _ => none
  | fuel + 1, negated, seen, cs, done =>
    match cs with
    | [] => none
    | c :: rest =>
      if c == ':' || c == ')' then
        if seen.head? == some '-' then none else some (done, cs)
      else if seen.contains c then none
      else if c == '-' then readFlags fuel true (c :: seen) rest done
      else if ['i', 'm', 's', 'U', 'u', 'R', 'x'].contains c then
        readFlags fuel negated (c :: seen) rest (done ++ [(c, !negated)])
      else none

/-- Set one flag. -/
def Flags.set (flags : Flags) : Char × Bool → Flags
  | ('i', b) => { flags with anyCase := b }
  | ('m', b) => { flags with lines := b }
  | ('s', b) => { flags with pointAll := b }
  | ('U', b) => { flags with lazyFirst := b }
  | ('u', b) => { flags with unicode := b }
  | ('x', b) => { flags with spaced := b }
  | ('R', b) => { flags with anyLineEnd := b }
  | _ => flags

/-- Characters that may open the name of a group. -/
def isGroupNameStart (c : Char) : Bool :=
  c == '_' || (Text.property? "alphabetic").any (·.contains c) || Text.newLetterRanges.contains c

/-- Characters that may follow in the name of a group. -/
def isGroupNameRest (c : Char) : Bool :=
  isGroupNameStart c || c == '.' || c == '[' || c == ']' ||
    (Text.category? "n").any (·.contains c) || Text.newNumberRanges.contains c

/-- The name of a group up to its closing mark. -/
def readGroupName (cs : List Char) : Option (List Char × List Char) :=
  match cs.takeWhile (· != '>'), cs.dropWhile (· != '>') with
  | first :: rest, _ :: after =>
    if isGroupNameStart first && rest.all isGroupNameRest then some (first :: rest, after)
    else none
  | _, _ => none

/-- How a group starts. -/
inductive GroupStart
  /-- A group that is remembered, under its name if it has one. -/
  | remembered (name : Option (List Char))
  /-- A group that only holds its contents together, and their flags. -/
  | plain (flags : Flags)
  /-- No group, but flags for what follows. -/
  | flags (flags : Flags)

/-- Read what follows an opening parenthesis up to the contents of the group. -/
def readGroupStart (flags : Flags) (cs : List Char) : Option (GroupStart × List Char) := do
  match skip flags cs with
  | '?' :: 'P' :: '<' :: rest =>
    let (name, rest) ← readGroupName rest
    some (.remembered (some name), rest)
  | '?' :: '<' :: rest =>
    let (name, rest) ← readGroupName rest
    some (.remembered (some name), rest)
  | '?' :: rest =>
    let (changes, rest) ← readFlags (rest.length + 1) false [] rest []
    let changed := changes.foldl Flags.set flags
    match rest with
    | ')' :: rest => if changes.isEmpty then none else some (.flags changed, rest)
    | ':' :: rest => some (.plain changed, rest)
    | _ => none
  | rest => some (.remembered none, rest)

/-! ## Patterns -/

/-- The point under the flags. It needs the characters of Unicode. -/
def point? (flags : Flags) : Option CharSet :=
  if !flags.unicode then none
  else if flags.pointAll then some .all
  else if flags.anyLineEnd then some (CharSet.union (.single '\n') (.single '\r')).compl
  else some (CharSet.single '\n').compl

/-- A character of a set. -/
def Part.ofSet (flags : Flags) (s : CharSet) : Part where
  pattern := .char s
  shape := .ofSet s (!flags.unicode)

/-- A position in a text. -/
def Part.ofAssertion (a : Assertion) : Part where
  pattern := .assertion a
  shape := .assertion a

/-- The part that a primitive is. A byte beyond ASCII is no character. -/
def Part.ofPrimitive? (flags : Flags) : Primitive → Option Part
  | .literal c isByte =>
    if isByte && !flags.unicode && 128 ≤ c.toNat then none
    else some (.ofSet flags (fold flags (.single c)))
  | .set s => some (.ofSet flags s)
  | .assertion a => some (.ofAssertion a)
  | .point => (point? flags).map (.ofSet flags)

/-- The assertion that `^` makes. -/
def lineStart (flags : Flags) : Assertion :=
  if !flags.lines then .textStart else if flags.anyLineEnd then .lineStartAny else .lineStart

/-- The assertion that `$` makes. -/
def lineEnd (flags : Flags) : Assertion :=
  if !flags.lines then .textEnd else if flags.anyLineEnd then .lineEndAny else .lineEnd

/-- Read a primitive. -/
def readPrimitive (flags : Flags) : List Char → Option (Primitive × List Char)
  | '\\' :: rest => readEscape flags rest
  | '.' :: rest => some (.point, rest)
  | '^' :: rest => some (.assertion (lineStart flags), rest)
  | '$' :: rest => some (.assertion (lineEnd flags), rest)
  | c :: rest => some (.literal c false, rest)
  | [] => none

/-- Join parts, given in reverse, by a constructor of patterns and one of shapes. One part stays as
it is. -/
def joinParts (join : Pattern → Pattern → Pattern) (joinShapes : List Shape → Shape) :
    List Part → Part
  | [] => { pattern := .empty, shape := .empty }
  | [part] => part
  | last :: before =>
    let pattern := before.foldl (fun done part => join part.pattern done) last.pattern
    let depth := before.foldl (fun done part => max part.depth done) last.depth
    { pattern, shape := joinShapes ((last :: before).map (·.shape)).reverse, depth := depth + 1 }

/-- Parts in a row. -/
def concatParts : List Part → Part := joinParts .concat .inRow

/-- Alternatives. -/
def eitherParts : List Part → Part := joinParts .either .oneOf

/-- What is known while a pattern is read. -/
structure Reading where
  flags : Flags := {}
  /-- The names of groups so far. -/
  names : List (List Char) := []
  /-- The number of groups so far that are remembered. -/
  groups : Nat := 0

/-- Start a group, unless its name is taken: what is known in it, and what becomes of the shape of
its contents. -/
def Reading.enter? (r : Reading) : GroupStart → Option (Reading × (Shape → Shape))
  | .remembered name =>
    if name.any r.names.contains then none
    else
      some ({ r with names := name.toList ++ r.names, groups := r.groups + 1 }, .group r.groups)
  | .plain flags | .flags flags => some ({ r with flags }, id)

/-- Read alternatives up to the end of the group or of the pattern. Finished alternatives and the
parts of the present one are given in reverse. -/
def readBody : Nat → Reading → List Part → List Part → List Char →
    Option (Part × Reading × List Char)
  | 0, _, _, _, _ => none
  | fuel + 1, r, alternatives, parts, cs =>
    let finish (rest : List Char) :=
      some (eitherParts (concatParts parts :: alternatives), r, rest)
    let again : Repetition × List Char → Option (Part × Reading × List Char)
      | (repetition, rest) =>
        match lastRepeatable parts with
        | some (part, before) =>
          readBody fuel r alternatives (part.repeated repetition :: before) rest
        | none => none
    match skip r.flags cs with
    | [] => finish []
    | ')' :: rest => finish (')' :: rest)
    | '|' :: rest => readBody fuel r (concatParts parts :: alternatives) [] rest
    | '*' :: rest => again (readLazy r.flags 0 none rest)
    | '+' :: rest => again (readLazy r.flags 1 none rest)
    | '?' :: rest => again (readLazy r.flags 0 (some 1) rest)
    | '\x7b' :: rest =>
      match readCounts r.flags rest with
      | some counted => again counted
      | none => none
    | '[' :: rest =>
      match readClass r.flags rest with
      | some (part, rest) => readBody fuel r alternatives (part :: parts) rest
      | none => none
    | '(' :: rest =>
      match readGroupStart r.flags rest with
      | none => none
      | some (.flags flags, rest) =>
        readBody fuel { r with flags } alternatives
          ({ pattern := .empty, shape := .empty, isRepeatable := false } :: parts) rest
      | some (start, rest) =>
        match r.enter? start with
        | none => none
        | some (inside, wrap) =>
          match readBody fuel inside [] [] rest with
          | some (inner, after, ')' :: rest) =>
            readBody fuel { after with flags := r.flags } alternatives
              ({ pattern := inner.pattern, shape := wrap inner.shape,
                 depth := inner.depth + 1 } :: parts) rest
          | _ => none
    | cs =>
      match readPrimitive r.flags cs with
      | none => none
      | some (p, rest) =>
        match Part.ofPrimitive? r.flags p with
        | none => none
        | some part => readBody fuel r alternatives (part :: parts) rest

/-- Read the whole of a text as one part. -/
def readPart? (text : String) : Option Part :=
  let cs := text.toList
  match readBody (2 * cs.length + 2) {} [] [] cs with
  | some (part, _, []) => if part.depth ≤ nestingLimit then some part else none
  | _ => none

/-- Read a pattern. -/
def read? (text : String) : Option Pattern := (readPart? text).map (·.pattern)

/-! ## Patterns of values -/

/-- The pattern that the whole of a value has to match. The declared text is put between the
anchors as it is. -/
def anchored (declared : String) : String := "^(?:" ++ declared ++ ")$"

/-- The pattern that is tried on values. A declared text that cannot be read or is too large has
none. -/
def compile? (declared : String) : Option Pattern :=
  (readPart? (anchored declared)).bind fun part =>
    if part.shape.fits then some part.pattern else none

/-- Whether a declared pattern can be read and is not too large. -/
def isValid (declared : String) : Bool := (compile? declared).isSome

/-- Whether a text matches a declared pattern. Nothing matches one that is not valid. -/
def accepts (declared text : String) : Bool :=
  (compile? declared).any (·.isFoundIn text.toList.toArray)

/-- A text quoted in a message: indented, or with numbered lines if there are several. -/
def quoted (text : String) : String :=
  match text.splitOn "\n" with
  | [] | [_] => "    " ++ text
  | lines =>
    let width := (toString lines.length).length
    let numbered := lines.mapIdx fun i line =>
      let number := toString (i + 1)
      String.ofList (List.replicate (width - number.length) ' ') ++ number ++ ": " ++ line
    "\n".intercalate (String.ofList (List.replicate 79 '~') :: numbered)

/-- What is said about a declared pattern that is not valid: the text that was tried. -/
def refusal (declared : String) : String :=
  "regex parse error:\n" ++ quoted (anchored declared)

end Schemata.Pattern
