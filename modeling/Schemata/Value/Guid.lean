import Schemata.Text.Ranges

/-!
# Globally unique identifiers

An identifier is thirty-two hexadecimal digits. It is read from the bare digits, from the digits
in groups of eight, four, four, four and twelve between hyphens, and from the grouped form in
braces or after `urn:uuid:`. It is written in the grouped form, in lower case.
-/

namespace Schemata

/-- Thirty-two hexadecimal digits. -/
structure Guid where
  digits : List (Fin 16)
  length_digits : digits.length = 32
  deriving DecidableEq

namespace Guid

/-- The value of a hexadecimal digit. -/
def digit? (c : Char) : Option (Fin 16) :=
  (Text.hexDigit? c).bind fun n => if h : n < 16 then some ⟨n, h⟩ else none

/-- The identifier of thirty-two digits. -/
def ofDigits? (cs : List Char) : Option Guid :=
  (cs.mapM digit?).bind fun ds => if h : ds.length = 32 then some ⟨ds, h⟩ else none

/-- Whether hyphens stand in a text of thirty-six characters exactly where groups end. -/
def isGrouped (cs : List Char) : Bool :=
  cs.length == 36 && cs.zipIdx.all fun (c, i) => (c == '-') == (i ∈ [8, 13, 18, 23])

/-- Read the grouped form. -/
def readGrouped (cs : List Char) : Option Guid :=
  if isGrouped cs then ofDigits? (cs.filter (· != '-')) else none

/-- Read an identifier in any of its forms, which their lengths tell apart. -/
def read? (cs : List Char) : Option Guid :=
  match cs.length with
  | 32 => ofDigits? cs
  | 36 => readGrouped cs
  | 38 =>
    if cs.head? == some '\x7b' && cs.getLast? == some '\x7d' then readGrouped cs.tail.dropLast
    else none
  | 45 =>
    if (cs.take 9).map Char.toLower == "urn:uuid:".toList then readGrouped (cs.drop 9) else none
  | _ => none

/-- The grouped form. -/
def text (g : Guid) : List Char :=
  let cs := g.digits.map fun d => Nat.digitChar d.val
  cs.take 8 ++ '-' :: (cs.drop 8).take 4 ++ '-' :: (cs.drop 12).take 4 ++
    '-' :: (cs.drop 16).take 4 ++ '-' :: cs.drop 20

end Guid

end Schemata
