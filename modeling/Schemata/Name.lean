/-!
# Names

A local name is an ASCII identifier. A name written in a declaration may carry an alias, as in
`sys:Int32`; the full name that it stands for pairs the URI of a namespace with a local name.

* `isIdentifier` is the test that every declared name passes.
* `splitAlias` cuts a written name at its first colon.
* `FullName` is ordered by URI, then by local name.
-/

namespace Schemata

/-- Characters that may open an identifier: ASCII letters and the underscore. -/
def isIdentifierStart (c : Char) : Bool :=
  c.isAlpha || c == '_'

/-- Characters that may follow in an identifier: ASCII letters, digits and the underscore. -/
def isIdentifierRest (c : Char) : Bool :=
  c.isAlphanum || c == '_'

/-- Whether a text is an identifier: one opening character and any number of following ones. -/
def isIdentifier (text : String) : Bool :=
  match text.toList with
  | [] => false
  | c :: rest => isIdentifierStart c && rest.all isIdentifierRest

/-- The alias before the first colon, if there is a colon, and the local part. -/
def splitAlias (text : String) : Option String × String :=
  let chars := text.toList
  let before := chars.takeWhile (· != ':')
  match chars.dropWhile (· != ':') with
  | [] => (none, text)
  | _ :: after => (some (String.ofList before), String.ofList after)

/-- The name of a symbol: the URI of its namespace, empty for local symbols, and its own name. -/
@[ext]
structure FullName where
  uri : String
  name : String
  deriving DecidableEq, Inhabited

namespace FullName

/-- URI of the namespace that holds the built-in types. -/
def systemUri : String := "urn:sdata:system"

/-- Alias under which every namespace sees the built-in types. -/
def systemAlias : String := "sys"

/-- A name outside every namespace. -/
def unqualified (name : String) : FullName := ⟨"", name⟩

/-- A name in the namespace of the built-in types. -/
def system (name : String) : FullName := ⟨systemUri, name⟩

/-- Whether the name lies in the namespace of the built-in types. -/
def isSystem (n : FullName) : Bool := n.uri == systemUri

/-- The written form: the URI in braces before the name, or the bare name without a URI. -/
def text (n : FullName) : String :=
  if n.uri.isEmpty then n.name else "\x7b" ++ n.uri ++ "\x7d" ++ n.name

instance : ToString FullName := ⟨text⟩

/-- Whether `a` comes no later than `b`: by URI, then by name, both by code points. -/
def le (a b : FullName) : Bool :=
  a.uri < b.uri || (a.uri == b.uri && (a.name < b.name || a.name == b.name))

end FullName

end Schemata
