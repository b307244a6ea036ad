import Schemata.Text.Digits

/-!
# Binary floating point numbers

Numbers of the binary64 format as exact data. A number is a sign and a word: the 63 bits of the
format below the sign, read as a natural number. Greater words are greater magnitudes, and the
greatest is infinity, so the order of the numbers is the order of `Double.rank?`.

* `Double.ofFraction` rounds a fraction to the nearest number, a tie to the even one.
* `Double.read?` reads decimal notation through it.
* `Double.toSingle` rounds once more, to the binary32 format.
* `Double.shortest` finds the fewest digits that read back, and `Double.text` writes them
  positionally, without an exponent.
-/

namespace Schemata

/-- A number of the binary64 format, or none (`nan`). -/
inductive Double
  | nan
  | number (negative : Bool) (word : Nat)
  deriving DecidableEq

namespace Double

/-- The word of infinity. -/
def infinityWord : Nat := 0x7FF0000000000000

/-- Infinity of either sign. -/
def infinity (negative : Bool) : Double := .number negative infinityWord

/-- The sixteen hexadecimal digits' worth of bits. -/
def bits : Double → Nat
  | .nan => 0x7FF8000000000000
  | .number negative word => (if negative then 1 <<< 63 else 0) + word

/-! ## Order -/

/-- Position in the order of numbers; both zeros have one position, and `nan` has none. -/
def rank? : Double → Option Int
  | .nan => none
  | .number negative word => some (if negative then -(word : Int) else word)

/-- Compare two numbers; `nan` compares with nothing. -/
def compare? (a b : Double) : Option Ordering :=
  match a.rank?, b.rank? with
  | some x, some y => some (Ord.compare x y)
  | _, _ => none

/-- Whether two numbers are the same, where `nan` is the same as itself and the zeros agree. -/
def equal (a b : Double) : Bool := a.rank? == b.rank?

/-! ## Rounding -/

/-- The nearest integer to a quotient, a tie going to the even one. -/
def roundQuotient (num den : Nat) : Nat :=
  let q := num / den
  let r := num % den
  if 2 * r < den then q
  else if 2 * r = den then q + q % 2
  else q + 1

/-- A fraction over a power of two, as numerator and denominator. -/
def overPower (num den : Nat) (e : Int) : Nat × Nat :=
  if 0 ≤ e then (num, den * Nat.pow 2 e.toNat) else (num * Nat.pow 2 (-e).toNat, den)

/-- Round a fraction to `s * 2 ^ e` with `s` of the given number of bits, or fewer at the least
exponent. The result is `s` and `e`. -/
def roundFraction (precision : Nat) (least : Int) (num den : Nat) : Nat × Int :=
  let guess := max ((num.log2 : Int) - (den.log2 : Int) - (precision : Int)) least
  let (n, d) := overPower num den guess
  let e := if n < d * Nat.pow 2 precision then guess else guess + 1
  let (n, d) := overPower num den e
  (roundQuotient n d, e)

/-- The word of a positive `s * 2 ^ e` that the format can hold, or of infinity. -/
def wordOfScaled (s : Nat) (e : Int) : Nat :=
  min infinityWord (if s < 1 <<< 52 then s else ((e + 1074).toNat <<< 52) + s)

/-- The number nearest to a fraction. -/
def ofFraction (negative : Bool) (num den : Nat) : Double :=
  if num = 0 then .number negative 0
  else
    let (s, e) := roundFraction 53 (-1074) num den
    .number negative (wordOfScaled s e)

/-- The significand and the exponent of a finite word. -/
def scaledOfWord (word : Nat) : Nat × Int :=
  if word < 1 <<< 52 then (word, -1074)
  else ((1 <<< 52) + word % (1 <<< 52), ((word >>> 52 : Nat) : Int) - 1075)

/-- The number nearest to the product of two. Infinity times zero is none. -/
def mul : Double → Double → Double
  | .number n a, .number m b =>
    let negative := n != m
    if infinityWord ≤ a ∨ infinityWord ≤ b then
      if a = 0 ∨ b = 0 then .nan else infinity negative
    else
      let (x, p) := scaledOfWord a
      let (y, q) := scaledOfWord b
      let (num, den) := overPower (x * y) 1 (-(p + q))
      ofFraction negative num den
  | _, _ => .nan

/-- Round to the binary32 format. The result is again a binary64 number. -/
def toSingle : Double → Double
  | .nan => .nan
  | .number negative word =>
    if word = 0 ∨ infinityWord ≤ word then .number negative word
    else
      let (m, q) := scaledOfWord word
      let (num, den) := overPower m 1 (-q)
      let (s, e) := roundFraction 24 (-149) num den
      let (num, den) := overPower s 1 (-e)
      if den <<< 128 ≤ num then infinity negative else ofFraction negative num den

/-! ## Reading -/

/-- The number nearest to `n * 10 ^ e`. Exponents far outside the format are decided by the place
of the first digit. -/
def ofScientific (negative : Bool) (n : Nat) (e : Int) : Double :=
  let place : Int := (Nat.toDigits 10 n).length + e
  if n = 0 ∨ place < -400 then .number negative 0
  else if 400 < place then infinity negative
  else if 0 ≤ e then ofFraction negative (n * Nat.pow 10 e.toNat) 1
  else ofFraction negative n (Nat.pow 10 (-e).toNat)

/-- An exponent: nothing, or a mark, an optional sign and digits. -/
def readExponent : List Char → Option Int
  | [] => some 0
  | mark :: rest =>
    if mark == 'e' || mark == 'E' then
      match rest with
      | '-' :: ds => (Text.natural? ds).map fun n => -(n : Int)
      | '+' :: ds => (Text.natural? ds).map fun n => (n : Int)
      | ds => (Text.natural? ds).map fun n => (n : Int)
    else none

/-- Read a magnitude: digits with an optional point, and an optional exponent. -/
def readMagnitude (negative : Bool) (cs : List Char) : Option Double :=
  let whole := cs.takeWhile Char.isDigit
  let (fraction, rest) := match cs.dropWhile Char.isDigit with
    | '.' :: rest => (rest.takeWhile Char.isDigit, rest.dropWhile Char.isDigit)
    | rest => ([], rest)
  if whole.isEmpty && fraction.isEmpty then none
  else (readExponent rest).map fun e =>
    ofScientific negative (Text.digitsValue (whole ++ fraction)) (e - fraction.length)

/-- Read a number: an optional sign, then a magnitude or a word for infinity or for none, in any
case. -/
def read? (cs : List Char) : Option Double :=
  let negative := cs.head? == some '-'
  let magnitude := if negative || cs.head? == some '+' then cs.tail else cs
  match String.ofList (magnitude.map Char.toLower) with
  | "inf" | "infinity" => some (infinity negative)
  | "nan" => some .nan
  | _ => readMagnitude negative magnitude

/-! ## Writing -/

/-- The number of zeros right after the point of a proper fraction, at most `fuel`. -/
def zerosAfterPoint (den : Nat) : Nat → Nat → Nat
  | 0, _ => 0
  | fuel + 1, num => if den ≤ 10 * num then 0 else zerosAfterPoint den fuel (10 * num) + 1

/-- The exponent of the first digit of a positive fraction. -/
def leadingExponent (num den : Nat) : Int :=
  if den ≤ num then ((Nat.toDigits 10 (num / den)).length : Int) - 1
  else -(zerosAfterPoint den 400 num : Int) - 1

/-- A multiple of `10 ^ k` that reads back as a given finite word: of the two around the value
`m * 2 ^ q` the nearer one that the word's interval holds, and the upper one of a tie. The ends of
the interval, half way to the neighbours, belong to it if the significand is even. -/
def onGrid? (m : Nat) (q : Int) (k : Int) : Option Nat :=
  let up := Nat.pow 2 (q - 2).toNat * Nat.pow 10 (-k).toNat
  let down := Nat.pow 2 (2 - q).toNat * Nat.pow 10 k.toNat
  let low := (if m = 1 <<< 52 ∧ -1074 < q then 4 * m - 1 else 4 * m - 2) * up
  let high := (4 * m + 2) * up
  let value := 4 * m * up
  let holds (c : Nat) : Bool :=
    if m % 2 = 0 then low ≤ c * down && c * down ≤ high else low < c * down && c * down < high
  let c := value / down
  match holds c, holds (c + 1) with
  | false, false => none
  | true, false => some c
  | false, true => some (c + 1)
  | true, true => some (if value - c * down < (c + 1) * down - value then c else c + 1)

/-- Try ever finer grids, from the one of `10 ^ k` on. -/
def shortestFrom (m : Nat) (q : Int) : Nat → Int → Nat × Int
  | 0, k => (0, k)
  | fuel + 1, k =>
    match onGrid? m q k with
    | some c => (c, k)
    | none => shortestFrom m q fuel (k - 1)

/-- The fewest digits that read back as a positive finite word, as `c` and `k` of `c * 10 ^ k`.
Seventeen digits always do; the first grid is that of the next greater power of ten. -/
def shortest (word : Nat) : Nat × Int :=
  let (m, q) := scaledOfWord word
  let (num, den) := overPower m 1 (-q)
  shortestFrom m q 19 (leadingExponent num den + 1)

/-- Positional notation of `c * 10 ^ k`. -/
def positional (c : Nat) (k : Int) : List Char :=
  if 0 ≤ k then Nat.toDigits 10 c ++ List.replicate k.toNat '0'
  else
    let places := (-k).toNat
    let digits := Text.padded (places + 1) c
    digits.take (digits.length - places) ++ '.' :: digits.drop (digits.length - places)

/-- The shortest positional notation that reads back. -/
def text : Double → List Char
  | .nan => "NaN".toList
  | .number negative word =>
    (if negative then ['-'] else []) ++
      if infinityWord ≤ word then "INF".toList
      else if word = 0 then ['0']
      else
        let (c, k) := shortest word
        positional c k

end Double

end Schemata
