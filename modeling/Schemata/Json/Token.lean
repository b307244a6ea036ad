import Schemata.Json.Basic
import Schemata.Text.Ranges
import Schemata.Value.Double

/-!
# JSON tokens

The lexical level of JSON: punctuation marks, words, numbers and strings, between blanks. A token is
taken from the front of a text, and the rest of the text is left as it is.

Numbers must fit the binary64 format. Strings hold no raw control characters, and escaped surrogates
only in pairs.
-/

namespace Schemata.Json

/-- A token. -/
inductive Token
  | openArray
  | closeArray
  | openObject
  | closeObject
  | comma
  | colon
  /-- A value that is one token. -/
  | scalar (j : Json)
  /-- A string, which may be a value or a name. -/
  | text (s : String)

namespace Token

/-- The blanks of JSON. -/
def isBlank (c : Char) : Bool :=
  c == ' ' || c == '\n' || c == '\t' || c == '\r'

/-! ## Strings -/

/-- The code unit of four hexadecimal digits. -/
def unit? (a b c d : Char) : Option Nat := do
  let a ← Text.hexDigit? a
  let b ← Text.hexDigit? b
  let c ← Text.hexDigit? c
  let d ← Text.hexDigit? d
  some (((a * 16 + b) * 16 + c) * 16 + d)

/-- The character that a letter after a backslash stands for. -/
def escape? : Char → Option Char
  | '"' => some '"'
  | '\\' => some '\\'
  | '/' => some '/'
  | 'b' => some '\x08'
  | 'f' => some '\x0c'
  | 'n' => some '\n'
  | 'r' => some '\r'
  | 't' => some '\t'
  | _ => none

/-- Whether a code unit opens a surrogate pair. -/
def isHigh (u : Nat) : Bool := 0xD800 ≤ u && u < 0xDC00

/-- Whether a code unit closes a surrogate pair. -/
def isLow (u : Nat) : Bool := 0xDC00 ≤ u && u < 0xE000

/-- The character of a surrogate pair. -/
def ofPair (high low : Nat) : Char :=
  Char.ofNat (0x10000 + (high - 0xD800) * 0x400 + (low - 0xDC00))

/-- Read the rest of a string whose characters so far are given in reverse. -/
def readString (done : List Char) : List Char → Option (String × List Char)
  | '"' :: rest => some (String.ofList done.reverse, rest)
  | '\\' :: 'u' :: a :: b :: c :: d :: rest =>
    match unit? a b c d with
    | none => none
    | some u =>
      if isHigh u then
        match rest with
        | '\\' :: 'u' :: a :: b :: c :: d :: rest =>
          match unit? a b c d with
          | none => none
          | some low => if isLow low then readString (ofPair u low :: done) rest else none
        | _ => none
      else if isLow u then none
      else readString (Char.ofNat u :: done) rest
  | '\\' :: c :: rest =>
    match escape? c with
    | none => none
    | some e => readString (e :: done) rest
  | c :: rest => if c.toNat < 32 || c == '\\' then none else readString (c :: done) rest
  | [] => none

/-! ## Numbers -/

/-- The digits of an exponent without mark and sign, at least one. -/
def takeExponentDigits (negative : Bool) (cs : List Char) : Option (Int × List Char) :=
  let ds := cs.takeWhile Char.isDigit
  if ds.isEmpty then none
  else
    let n : Int := Text.digitsValue ds
    some (if negative then -n else n, cs.dropWhile Char.isDigit)

/-- An optional exponent. -/
def takeExponent : List Char → Option (Option Int × List Char)
  | mark :: rest =>
    if mark == 'e' || mark == 'E' then
      let (negative, digits) := match rest with
        | '-' :: ds => (true, ds)
        | '+' :: ds => (false, ds)
        | ds => (false, ds)
      (takeExponentDigits negative digits).map fun (e, rest) => (some e, rest)
    else some (none, mark :: rest)
  | [] => some (none, [])

/-- An optional fraction. -/
def takeFraction : List Char → Option (Option (List Char) × List Char)
  | '.' :: rest =>
    let ds := rest.takeWhile Char.isDigit
    if ds.isEmpty then none else some (some ds, rest.dropWhile Char.isDigit)
  | rest => some (none, rest)

/-- The digits of a number as far as they fit in 64 bits, with a power of ten. -/
structure Significand where
  digits : Nat := 0
  exponent : Int := 0
  /-- Whether a digit found no room; those after it are not tried. -/
  isFull : Bool := false

namespace Significand

/-- One more digit before the point. One without room counts for its place only. -/
def addWhole (s : Significand) (c : Char) : Significand :=
  let digits := 10 * s.digits + Text.digitValue c
  if !s.isFull && digits < 1 <<< 64 then { s with digits }
  else { s with exponent := s.exponent + 1, isFull := true }

/-- One more digit after the point. One without room is dropped. -/
def addPlace (s : Significand) (c : Char) : Significand :=
  let digits := 10 * s.digits + Text.digitValue c
  if !s.isFull && digits < 1 <<< 64 then { s with digits, exponent := s.exponent - 1 }
  else { s with isFull := true }

/-- The significand of a number in its parts. After the point there is a new chance for room. -/
def ofParts (whole places : List Char) (exponent : Int) : Significand :=
  let s := whole.foldl addWhole {}
  let s := places.foldl addPlace { s with isFull := false }
  { s with exponent := s.exponent + exponent }

/-- Whether the number is beyond the binary64 format. Digits and power are rounded each, and their
product once more, so a number just within the format may be beyond it. -/
def isBeyond (s : Significand) : Bool :=
  if s.digits = 0 ∨ s.exponent < 0 then false
  else if 308 < s.exponent then true
  else
    let power := Double.ofFraction false (Nat.pow 10 s.exponent.toNat) 1
    (Double.ofFraction false s.digits 1).mul power == Double.infinity false

end Significand

/-- The value of a number in its parts. A number that is beyond the binary64 format is none. -/
def numberOfParts (negative : Bool) (whole : List Char) (fraction : Option (List Char))
    (exponent : Option Int) : Option Json :=
  let magnitude := Text.digitsValue whole
  let isInteger := fraction.isNone && exponent.isNone &&
    (if negative then 0 < magnitude && magnitude ≤ 1 <<< 63 else magnitude < 1 <<< 64)
  if isInteger then some (.integer (if negative then -(magnitude : Int) else magnitude))
  else
    if (Significand.ofParts whole (fraction.getD []) (exponent.getD 0)).isBeyond then none
    else some (.real (String.ofList ((if negative then ['-'] else []) ++ whole ++
      (fraction.elim [] fun ds => '.' :: ds) ++
      (exponent.elim [] fun e => 'e' :: (toString e).toList))))

/-- Read a number after its sign. The whole part has no superfluous zero. -/
def readNumber (negative : Bool) (cs : List Char) : Option (Json × List Char) := do
  let whole := cs.takeWhile Char.isDigit
  if whole.isEmpty || (whole.head? == some '0' && whole.length != 1) then none
  else
    let (fraction, rest) ← takeFraction (cs.dropWhile Char.isDigit)
    let (exponent, rest) ← takeExponent rest
    let j ← numberOfParts negative whole fraction exponent
    some (j, rest)

/-! ## Tokens -/

/-- The text after a word, if it starts with that word. -/
def afterWord : List Char → List Char → Option (List Char)
  | [], cs => some cs
  | w :: ws, c :: cs => if w == c then afterWord ws cs else none
  | _ :: _, [] => none

/-- The token at the front of a text that starts with no blank, and the rest of the text. -/
def readFront : List Char → Option (Token × List Char)
  | [] => none
  | c :: rest =>
    match c with
    | '[' => some (.openArray, rest)
    | ']' => some (.closeArray, rest)
    | '\x7b' => some (.openObject, rest)
    | '\x7d' => some (.closeObject, rest)
    | ',' => some (.comma, rest)
    | ':' => some (.colon, rest)
    | '"' => (readString [] rest).map fun (s, rest) => (.text s, rest)
    | 'n' => (afterWord "ull".toList rest).map fun rest => (.scalar .null, rest)
    | 't' => (afterWord "rue".toList rest).map fun rest => (.scalar (.bool true), rest)
    | 'f' => (afterWord "alse".toList rest).map fun rest => (.scalar (.bool false), rest)
    | '-' => (readNumber true rest).map fun (j, rest) => (.scalar j, rest)
    | _ => (readNumber false (c :: rest)).map fun (j, rest) => (.scalar j, rest)

/-- The token at the front of a text after its blanks, and the rest of the text. -/
def read (cs : List Char) : Option (Token × List Char) :=
  readFront (cs.dropWhile isBlank)

end Token

end Schemata.Json
