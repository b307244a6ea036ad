import Schemata.Compile.Fault
import Schemata.Imports

/-!
# The catalog of declarations

Before anything is resolved, the members of all namespaces are registered by name and the imports
of each namespace are checked. The result is a catalog: the declarations that have a name of their
own, in the order in which they were declared, each with the scope in which its references are
looked up. Declarations of one namespace may be spread over several parts, which may have different
imports; a name is taken if any part has it already.

`Catalog.resolve` says what a reference stands for. A reference with an alias is looked up in the
namespace of the alias only. Any other is looked up in the namespace that it is written in, then in
the imported ones, of which at most one may have the name, and last among the built-in types.
-/

namespace Schemata

/-- Where the references of a declaration are looked up. -/
structure Scope where
  uri : String
  imports : Imports

/-- A registered declaration. -/
structure Declaration where
  scope : Scope
  member : MemberDecl

namespace Declaration

/-- The name under which others refer to the declaration. -/
def name (d : Declaration) : String := d.member.name.text

/-- The name with the namespace. -/
def fullName (d : Declaration) : FullName := ⟨d.scope.uri, d.name⟩

/-- The type that is declared, if it is one. -/
def asType? (d : Declaration) : Option TypeDecl :=
  match d.member with
  | .type t => some t
  | _ => none

/-- The global attribute that is declared, if it is one. -/
def asAttribute? (d : Declaration) : Option GlobalAttributeDecl :=
  match d.member with
  | .attr a => some a
  | _ => none

/-- The global element that is declared, if it is one. -/
def asElement? (d : Declaration) : Option GlobalElementDecl :=
  match d.member with
  | .element e => some e
  | _ => none

/-- The words for what is declared. -/
def sort (d : Declaration) : String :=
  match d.member with
  | .type _ => "a type"
  | .attr _ => "an attribute"
  | .element _ => "an element"

end Declaration

/-- The number of a declaration in its catalog. -/
structure DeclarationId where
  index : Nat
  deriving DecidableEq

/-- The registered declarations. -/
structure Catalog where
  /-- The URIs of the namespaces, which may be imported even if they have no members. -/
  uris : List String
  /-- The declarations in order, no two with the same full name. -/
  declarations : Array Declaration

/-! ## Registering -/

/-- The imports of a namespace as far as they are free of faults, and the faults. -/
def registerImports (uris : List String) : List ImportDecl → Imports → Imports × List Diagnostic
  | [], imports => (imports, [])
  | d :: rest, imports =>
    let refuse (f : Fault) (span : Option Span) :=
      let (imports, faults) := registerImports uris rest imports
      (imports, f.diagnostic span :: faults)
    let aliasSpan := (d.aliasName.bind (·.span)).or d.span
    let aliasName := d.aliasName.map (·.text)
    if aliasName == some FullName.systemAlias then refuse .reservedAlias aliasSpan
    else if d.uri != FullName.systemUri && !uris.contains d.uri then
      refuse (.unknownNamespace d.uri) d.span
    else
      match imports.add d.uri aliasName with
      | some imports => registerImports uris rest imports
      | none => refuse (.duplicateAlias (aliasName.getD "")) aliasSpan

/-- Register members under a scope after those that are registered already. -/
def registerMembers (scope : Scope) :
    List MemberDecl → Array Declaration → Array Declaration × List Diagnostic
  | [], found => (found, [])
  | m :: rest, found =>
    let refuse (f : Fault) :=
      let (found, faults) := registerMembers scope rest found
      (found, f.diagnostic m.name.span :: faults)
    let d : Declaration := ⟨scope, m⟩
    if !isIdentifier d.name then refuse (.invalidIdentifier d.name)
    else if found.any fun other => other.fullName == d.fullName then
      refuse (.duplicateMember d.name scope.uri)
    else registerMembers scope rest (found.push d)

/-- Whether a namespace is the one of the built-in types, to which nothing can be added. -/
def NamespaceDecl.isReserved (ns : NamespaceDecl) : Bool := ns.uri == FullName.systemUri

/-- Register the members of namespaces, each with its scope. -/
def registerNamespaces (scope : NamespaceDecl → Scope) :
    List NamespaceDecl → Array Declaration → Array Declaration × List Diagnostic
  | [], found => (found, [])
  | ns :: rest, found =>
    if ns.isReserved then
      let (found, faults) := registerNamespaces scope rest found
      (found, Fault.reservedNamespace.diagnostic ns.span :: faults)
    else
      let (found, faults) := registerMembers (scope ns) ns.members found
      let (found, more) := registerNamespaces scope rest found
      (found, faults ++ more)

/-- The catalog of some namespaces, and the faults found in making it: those of members before
those of imports. -/
def Catalog.ofNamespaces (namespaces : List NamespaceDecl) : Catalog × List Diagnostic :=
  let unreserved := namespaces.filter (!·.isReserved)
  let uris := unreserved.map (·.uri)
  let importsOf (ns : NamespaceDecl) := registerImports uris ns.imports {}
  let (declarations, faults) :=
    registerNamespaces (fun ns => ⟨ns.uri, (importsOf ns).1⟩) namespaces #[]
  (⟨uris, declarations⟩, faults ++ unreserved.flatMap fun ns => (importsOf ns).2)

/-! ## Looking up -/

/-- What a reference stands for. -/
inductive Referent
  | builtin (kind : Kind)
  | declared (id : DeclarationId)
  deriving DecidableEq

namespace Catalog

/-- The numbers of all declarations. -/
def ids (c : Catalog) : List DeclarationId :=
  (List.range c.declarations.size).map DeclarationId.mk

/-- A declaration. -/
def get? (c : Catalog) (id : DeclarationId) : Option Declaration := c.declarations[id.index]?

/-- A declaration together with what it declares, if it declares a thing of some sort. -/
def getAs? {α : Type} (c : Catalog) (as? : Declaration → Option α) (id : DeclarationId) :
    Option (Declaration × α) :=
  (c.get? id).bind fun d => (as? d).map (d, ·)

theorem getAs?_eq_some_iff {α : Type} {c : Catalog} {as? : Declaration → Option α}
    {id : DeclarationId} {d : Declaration} {a : α} :
    c.getAs? as? id = some (d, a) ↔ c.get? id = some d ∧ as? d = some a := by
  unfold getAs?
  cases c.get? id with
  | none => simp
  | some e =>
    simp only [Option.bind_some, Option.map_eq_some_iff, Prod.mk.injEq, Option.some.injEq]
    constructor
    · rintro ⟨x, hx, rfl, rfl⟩
      exact ⟨rfl, hx⟩
    · rintro ⟨rfl, hx⟩
      exact ⟨a, hx, rfl, rfl⟩

/-- What a name stands for in one namespace. -/
def find? (c : Catalog) (n : FullName) : Option Referent :=
  if n.isSystem then (Kind.ofName? n.name).map .builtin
  else (c.declarations.findIdx? (·.fullName == n)).map (.declared ⟨·⟩)

/-- What a reference without an alias stands for among the namespaces that a scope imports. -/
def importedReferents (c : Catalog) (scope : Scope) (name : String) : List (String × Referent) :=
  (scope.imports.uris.filter (· != scope.uri)).filterMap fun uri =>
    (c.find? ⟨uri, name⟩).map (uri, ·)

/-- What a reference stands for where it is written. -/
def resolve (c : Catalog) (scope : Scope) (r : NameRef) : Except Diagnostic Referent :=
  let name := r.name.text
  let unknown : Except Diagnostic Referent := .error ((Fault.unknownName r).diagnostic r.span)
  match r.aliasName with
  | some a =>
    let uri :=
      if a.text == FullName.systemAlias then some FullName.systemUri
      else scope.imports.uriOf a.text
    match uri with
    | none => .error ((Fault.unknownAlias a.text).diagnostic (a.span.or r.span))
    | some uri => (c.find? ⟨uri, name⟩).elim unknown .ok
  | none =>
    match c.find? ⟨scope.uri, name⟩ with
    | some found => .ok found
    | none =>
      match c.importedReferents scope name with
      | [] => (c.find? (.system name)).elim unknown .ok
      | [(_, found)] => .ok found
      | several => .error ((Fault.ambiguousName r (several.map (·.1))).diagnostic r.span)

end Catalog

end Schemata
