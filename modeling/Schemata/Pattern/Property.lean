import Schemata.Pattern.CharSet
import Schemata.Text.Age
import Schemata.Text.Category
import Schemata.Text.Property
import Schemata.Text.Script
import Schemata.Text.Segment

/-!
# Properties named in patterns

A pattern names a property of characters by its name alone, such as `Greek` or `Lu`, or by a kind
of property and a value, such as `Script=Greek` or `Age=3.0`. Case, blanks, underscores, hyphens and
a leading `is` do not matter in names.
-/

namespace Schemata.Pattern

/-- Drop what does not matter in the name of a property. -/
def looseName (name : List Char) : String :=
  let isPrefixed := (name.take 2).map Char.toLower == ['i', 's']
  let kept := ((if isPrefixed then name.drop 2 else name).filter fun c =>
    c.toNat < 128 && c != ' ' && c != '_' && c != '-').map Char.toLower
  if isPrefixed && kept == ['c'] then "isc" else String.ofList kept

/-- The set that a name stands for: a binary property, a category or a script, in this order,
except that three names are always categories. -/
def namedSet? (name : List Char) : Option CharSet :=
  let loose := looseName name
  let binary := if loose ∈ ["cf", "sc", "lc"] then none else Text.property? loose
  ((binary.or (Text.category? loose)).or (Text.script? loose)).map .ofTable

/-- The set that a kind of property and a value stand for. -/
def valueSet? (kind value : List Char) : Option CharSet :=
  let value := looseName value
  (match looseName kind with
    | "generalcategory" | "gc" => Text.category? value
    | "script" | "sc" => Text.script? value
    | "scriptextensions" | "scx" => Text.scriptExtension? value
    | "age" => Text.age? value
    | "graphemeclusterbreak" | "gcb" => Text.graphemeClass? value
    | "wordbreak" | "wb" => Text.wordClass? value
    | "sentencebreak" | "sb" => Text.sentenceClass? value
    | _ => none).map .ofTable

/-- The text before and after the first occurrence of a mark. -/
def splitAtMark (mark : List Char) : List Char → Option (List Char × List Char)
  | [] => none
  | c :: rest =>
    if mark.isPrefixOf (c :: rest) then some ([], (c :: rest).drop mark.length)
    else (splitAtMark mark rest).map fun (before, after) => (c :: before, after)

/-- The set that the text between the braces of a property stands for, and whether its complement
is meant. -/
def bracedSet? (text : List Char) : Option (CharSet × Bool) :=
  match splitAtMark ['!', '='] text with
  | some (kind, value) => (valueSet? kind value).map (·, true)
  | none =>
    ((match (splitAtMark [':'] text).or (splitAtMark ['='] text) with
      | some (kind, value) => valueSet? kind value
      | none => namedSet? text)).map (·, false)

end Schemata.Pattern
