import Schemata.Json.Basic

/-!
# Writing JSON

Two styles: compact, without any blank, and indented, with one member or item on a line, two
spaces for every level and a space after each colon. Empty arrays and objects take no line of their
own in either style. In strings only the quote, the backslash and the control characters are
escaped.
-/

namespace Schemata.Json

/-- A hexadecimal digit in lower case. -/
def hexDigit (n : Nat) : Char := Nat.digitChar n

/-- The written form of a character in a string. -/
def escaped (c : Char) : List Char :=
  match c with
  | '"' => ['\\', '"']
  | '\\' => ['\\', '\\']
  | '\x08' => ['\\', 'b']
  | '\x0c' => ['\\', 'f']
  | '\n' => ['\\', 'n']
  | '\r' => ['\\', 'r']
  | '\t' => ['\\', 't']
  | c =>
    if c.toNat < 32 then
      ['\\', 'u', '0', '0', hexDigit (c.toNat / 16), hexDigit (c.toNat % 16)]
    else [c]

/-- A string between quotes, in front of a text. -/
def quoted (s : String) (rest : List Char) : List Char :=
  '"' :: s.toList.flatMap escaped ++ '"' :: rest

/-- How a value is laid out. -/
inductive Style
  | compact
  /-- Indented, at a number of levels. -/
  | indented (level : Nat)

namespace Style

/-- The style one level further in. -/
def deeper : Style → Style
  | .compact => .compact
  | .indented level => .indented (level + 1)

/-- What goes before an item or a closing mark: in the indented style a new line. -/
def lineBreak : Style → List Char
  | .compact => []
  | .indented level => '\n' :: List.replicate (2 * level) ' '

/-- What goes between a name and its value. -/
def colon : Style → List Char
  | .compact => [':']
  | .indented _ => [':', ' ']

end Style

mutual

/-- Write a value in front of a text. -/
def write (style : Style) (j : Json) (rest : List Char) : List Char :=
  match j with
  | .null => "null".toList ++ rest
  | .bool b => (if b then "true" else "false").toList ++ rest
  | .integer n => (toString n).toList ++ rest
  | .real literal => literal.toList ++ rest
  | .string s => quoted s rest
  | .array [] => '[' :: ']' :: rest
  | .array (j :: js) =>
    '[' :: style.deeper.lineBreak ++
      write style.deeper j (writeItems style.deeper js (style.lineBreak ++ ']' :: rest))
  | .object [] => '\x7b' :: '\x7d' :: rest
  | .object ((name, j) :: members) =>
    '\x7b' :: style.deeper.lineBreak ++ quoted name (style.colon ++
      write style.deeper j (writeMembers style.deeper members (style.lineBreak ++ '\x7d' :: rest)))

/-- Write the items after the first one in front of a text. -/
def writeItems (style : Style) (items : List Json) (rest : List Char) : List Char :=
  match items with
  | [] => rest
  | j :: js => ',' :: style.lineBreak ++ write style j (writeItems style js rest)

/-- Write the members after the first one in front of a text. -/
def writeMembers (style : Style) (members : List (String × Json)) (rest : List Char) : List Char :=
  match members with
  | [] => rest
  | (name, j) :: members =>
    ',' :: style.lineBreak ++ quoted name (style.colon ++
      write style j (writeMembers style members rest))

end

/-- The text of a value without blanks. -/
def compact (j : Json) : String := String.ofList (j.write .compact [])

/-- The text of a value over several lines. -/
def pretty (j : Json) : String := String.ofList (j.write (.indented 0) [])

end Schemata.Json
