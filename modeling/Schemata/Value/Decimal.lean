import Schemata.Text.Digits

/-!
# Decimal numbers

A decimal is a sign and a magnitude of at most 96 bits over a power of ten with an exponent of at
most 28, its scale. The scale is kept, so `1.50` and `1.5` are two decimals of one value, and a
zero that a negative number was rounded to keeps its sign.

* `Decimal.read?` reads plain and scientific notation. Digits after the point that find no room
  are rounded away, half up.
* `Decimal.text` writes every digit of the scale.
* `Decimal.compare` is the order of the values, whatever the scales.
* `Decimal.digits` counts the digits that the value needs.
-/

namespace Schemata

/-- A signed integer divided by a power of ten. -/
structure Decimal where
  negative : Bool
  magnitude : Nat
  scale : Nat
  magnitude_lt : magnitude < 1 <<< 96
  scale_le : scale ≤ 28
  deriving DecidableEq

namespace Decimal

/-- The integer that is divided by the power of ten. -/
def mantissa (d : Decimal) : Int := if d.negative then -(d.magnitude : Int) else d.magnitude

/-- The decimal of a sign, a magnitude and a scale, if they are within bounds. -/
def ofParts? (negative : Bool) (magnitude scale : Nat) : Option Decimal :=
  if h : magnitude < 1 <<< 96 ∧ scale ≤ 28 then some ⟨negative, magnitude, scale, h.1, h.2⟩
  else none

/-- An integer of few enough bits as a decimal. -/
def ofInt (n : Int) (h : n.natAbs < 1 <<< 96) : Decimal := ⟨n < 0, n.natAbs, 0, h, by decide⟩

/-! ## Order -/

/-- Compare the values of two decimals. -/
def compare (a b : Decimal) : Ordering :=
  Ord.compare (a.mantissa * Nat.pow 10 b.scale) (b.mantissa * Nat.pow 10 a.scale)

/-- Whether two decimals have the same value. -/
def equal (a b : Decimal) : Bool := a.compare b == .eq

/-! ## Reading -/

/-- The part of a magnitude that has been read. -/
structure Scan where
  mantissa : Nat := 0
  scale : Nat := 0
  pastPoint : Bool := false
  hasDigit : Bool := false

/-- Whether the text from the first digit without room on is acceptable: digits and separators. -/
def isDroppable (cs : List Char) : Bool :=
  cs.all fun c => c.isDigit || c == '_'

/-- From this mantissa on a number counts as long: one more digit might not fit in 64 bits. -/
def longFrom : Nat := 1844674407370954906

/-- The digit by which dropped text is rounded: its first character, where a separator counts as
zero. A number that was long before its last digit looks past separators for a digit. -/
def roundingDigit (s : Scan) (dropped : List Char) : Nat :=
  let dropped := if longFrom ≤ s.mantissa / 10 then dropped.dropWhile (· == '_') else dropped
  match dropped with
  | c :: _ => if c.isDigit then Text.digitValue c else 0
  | [] => 0

/-- Round half up on the first dropped digit. A mantissa that outgrows its bits by this gives up
one more digit. -/
def roundOff (s : Scan) (dropped : List Char) : Option (Nat × Nat) :=
  if !isDroppable dropped then none
  else if roundingDigit s dropped < 5 then some (s.mantissa, s.scale)
  else if s.mantissa + 1 < 1 <<< 96 then some (s.mantissa + 1, s.scale)
  else if s.scale = 0 then none
  else some ((s.mantissa + 5) / 10, s.scale - 1)

/-- Read the rest of a magnitude in plain notation: digits with at most one point, and separators
anywhere after the first digit. -/
def readPlain (s : Scan) : List Char → Option (Nat × Nat)
  | [] => if s.hasDigit then some (s.mantissa, s.scale) else none
  | c :: rest =>
    if s.pastPoint && 28 ≤ s.scale then roundOff s (c :: rest)
    else if c.isDigit then
      let mantissa := 10 * s.mantissa + Text.digitValue c
      if mantissa < 1 <<< 96 then
        readPlain { s with
          mantissa
          scale := if s.pastPoint then s.scale + 1 else s.scale
          hasDigit := true } rest
      else if s.pastPoint then roundOff s (c :: rest)
      else none
    else if c == '.' && !s.pastPoint then readPlain { s with pastPoint := true } rest
    else if c == '_' && s.hasDigit then readPlain s rest
    else none

/-- Read plain notation with an optional sign. A zero is not negative. -/
def readSigned (cs : List Char) : Option Decimal :=
  let negative := cs.head? == some '-'
  let magnitude := if negative || cs.head? == some '+' then cs.tail else cs
  (readPlain {} magnitude).bind fun (m, scale) => ofParts? (negative && m != 0) m scale

/-- An exponent without its minus: digits after an optional plus, at most the greatest scale. -/
def readExponent (cs : List Char) : Option Nat :=
  let digits := if cs.head? == some '+' then cs.tail else cs
  (Text.natural? digits).bind fun n => if n ≤ 28 then some n else none

/-- A decimal times a power of ten: the scale shrinks, and below zero the mantissa grows. -/
def shiftUp (d : Decimal) (n : Nat) : Option Decimal :=
  if n ≤ d.scale then ofParts? d.negative d.magnitude (d.scale - n)
  else ofParts? d.negative (d.magnitude * Nat.pow 10 (n - d.scale)) 0

/-- A decimal divided by a power of ten: the scale grows, and what goes beyond the greatest scale
is rounded half up. The sign stays, even that of a zero. -/
def shiftDown (d : Decimal) (n : Nat) : Option Decimal :=
  if d.scale + n ≤ 28 then ofParts? d.negative d.magnitude (d.scale + n)
  else
    let divisor := Nat.pow 10 (d.scale + n - 28)
    ofParts? d.negative ((d.magnitude + divisor / 2) / divisor) 28

/-- Read scientific notation: a plain decimal and an exponent on either side of an `e`. -/
def readScientific (cs : List Char) : Option Decimal :=
  let isMark (c : Char) := c == 'e' || c == 'E'
  match cs.dropWhile (!isMark ·) with
  | [] => none
  | _ :: exponent => do
    let base ← readSigned (cs.takeWhile (!isMark ·))
    match exponent with
    | '-' :: rest => base.shiftDown (← readExponent rest)
    | _ => base.shiftUp (← readExponent exponent)

/-- Read a decimal in plain notation or else in scientific notation. -/
def read? (cs : List Char) : Option Decimal :=
  (readSigned cs).or (readScientific cs)

/-! ## Writing -/

/-- Plain notation with every digit of the scale. -/
def text (d : Decimal) : List Char :=
  let digits := Text.padded (d.scale + 1) d.magnitude
  let whole := digits.length - d.scale
  (if d.negative then ['-'] else []) ++ digits.take whole ++
    if d.scale = 0 then [] else '.' :: digits.drop whole

/-! ## Digits -/

/-- Drop the zeros at the end of the fraction: the mantissa and the scale that remain. -/
def dropZeros (mantissa : Int) : Nat → Int × Nat
  | 0 => (mantissa, 0)
  | scale + 1 =>
    if mantissa % 10 = 0 then dropZeros (mantissa / 10) scale else (mantissa, scale + 1)

/-- The mantissa and the scale of the shortest form of the value. -/
def normal (d : Decimal) : Int × Nat := dropZeros d.mantissa d.scale

/-- The digits that the value needs: all of them, counting the zeros right after the point, and
those after the point. -/
def digits (d : Decimal) : Nat × Nat :=
  let (mantissa, scale) := d.normal
  (max (Nat.toDigits 10 mantissa.natAbs).length scale, scale)

end Decimal

end Schemata
