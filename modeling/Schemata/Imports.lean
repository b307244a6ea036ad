/-!
# Imports of a namespace

A namespace imports other namespaces by URI, each optionally under an alias. An alias stands for
one URI only, so a second import under a taken alias is refused and changes nothing; importing the
same URI again is harmless. Both the URIs and the aliases keep the order in which they came.
-/

namespace Schemata

/-- The imports of one namespace. -/
structure Imports where
  /-- Distinct imported URIs in the order of their first import. -/
  uris : List String := []
  /-- Aliases with the URI that each stands for, in the order of their import. -/
  aliases : List (String × String) := []

namespace Imports

/-- The URI that an alias stands for. -/
def uriOf (imports : Imports) (name : String) : Option String :=
  imports.aliases.lookup name

/-- Add an import. The result is `none` if its alias is already taken. -/
def add (imports : Imports) (uri : String) (aliasName : Option String) : Option Imports :=
  let uris := if imports.uris.contains uri then imports.uris else imports.uris ++ [uri]
  match aliasName with
  | none => some { imports with uris }
  | some name =>
    if (imports.uriOf name).isSome then none
    else some { uris, aliases := imports.aliases ++ [(name, uri)] }

end Imports

end Schemata
