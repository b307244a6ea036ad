/-!
# Bytes of characters

The bytes by which a character is encoded in UTF-8, and the rows of byte ranges that encode a range
of characters: one row for every way to vary the bytes independently of one another.
-/

namespace Schemata.Text

/-- The bytes of a code point. -/
def utf8 (code : Nat) : List Nat :=
  if code < 0x80 then [code]
  else if code < 0x800 then [0xC0 + code / 64, 0x80 + code % 64]
  else if code < 0x10000 then
    [0xE0 + code / 4096, 0x80 + code / 64 % 64, 0x80 + code % 64]
  else
    [0xF0 + code / 262144, 0x80 + code / 4096 % 64, 0x80 + code / 64 % 64, 0x80 + code % 64]

/-- The last code points that have encodings of one, of two and of three bytes. -/
def lastOfLength : List Nat := [0x7F, 0x7FF, 0xFFFF]

/-- The numbers of code points that share all bytes but the last one, two or three. -/
def blockSizes : List Nat := [64, 4096, 262144]

/-- Where a range has to be cut because its ends differ before the last bytes and those do not
vary fully: the last code point of the lower part. -/
def cutIn (first last : Nat) : List Nat → Option Nat
  | [] => none
  | size :: sizes =>
    if first / size == last / size then cutIn first last sizes
    else if first % size != 0 then some (first / size * size + size - 1)
    else if last % size != size - 1 then some (last / size * size - 1)
    else cutIn first last sizes

/-- Where a range has to be cut: between lengths first. -/
def cut? (first last : Nat) : Option Nat :=
  match lastOfLength.find? fun m => first ≤ m && m < last with
  | some m => some m
  | none => if last < 0x80 then none else cutIn first last blockSizes

/-- The rows of byte ranges of a range of characters. No range is cut as often as the fuel
allows. -/
def utf8Rows : Nat → Nat → Nat → List (List (Nat × Nat))
  | 0, _, _ => []
  | fuel + 1, first, last =>
    match cut? first last with
    | some m => utf8Rows fuel first m ++ utf8Rows fuel (m + 1) last
    | none => [(utf8 first).zip (utf8 last)]

/-- The rows of byte ranges of a range of characters. -/
def rowsOfRange (first last : Nat) : List (List (Nat × Nat)) := utf8Rows 24 first last

end Schemata.Text
