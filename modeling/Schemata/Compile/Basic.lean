import Schemata.Compile.ComplexTypes

/-!
# Compiling

`compile` turns the declarations of some namespaces into a schema:

1. the members and the imports of all namespaces are registered;
2. every declaration gets its symbol, in the order of declaration, unless it has it already because
   another one needed it;
3. every type gets its content, in the order of the numbers of types, so that bases come first;
4. the symbols get their names, in the order of declaration.

The result is every diagnostic that was recorded, whether it is valid, which it is if nothing
stopped the compilation and none of them is an error, and the schema if it is valid.
-/

namespace Schemata

/-- The result of compiling. -/
structure Compilation where
  diagnostics : List Diagnostic
  schema : Option Schema
  isValid : Bool

namespace Compilation

/-- The diagnostics that are errors. -/
def errors (c : Compilation) : List Diagnostic := c.diagnostics.filter (·.isError)

/-- The number of diagnostics that have a code. -/
def count (c : Compilation) (code : Code) : Nat := c.diagnostics.countP (·.code == code)

end Compilation

/-- Give a declaration its symbol. -/
def resolveDeclaration (c : Catalog) (limits : Limits) (id : DeclarationId) : Build Unit := do
  match c.get? id with
  | none => pure ()
  | some d =>
    match d.member with
    | .type _ => discard (resolveType c limits id)
    | .attr a => discard (resolveAttribute c limits id d a)
    | .element _ => discard (resolveElement c limits id)

/-- Give a type its content unless it has it. -/
def finishType (c : Catalog) (limits : Limits) (id : TypeId) : Build Unit := do
  let b ← get
  if b.isFinished id then pure ()
  else if b.openTypes.contains id then Build.internal .contentReentered
  else if (b.schema.typeDef id).kind.isSimple then finishSimple c limits id
  else finishComplex c limits id

/-- Name the symbols of all declarations. -/
def Builder.published (b : Builder) (c : Catalog) : Schema :=
  c.ids.foldl (fun s id =>
    match c.get? id, b.symbol? id with
    | some d, some symbol => s.publish d.fullName symbol
    | _, _ => s) b.schema

/-- Resolve and finish everything in a catalog. -/
def buildAll (c : Catalog) (limits : Limits) : Build Unit := do
  c.ids.forM (resolveDeclaration c limits)
  (← get).declaredTypes.forM (finishType c limits)

/-- Compile the declarations of some namespaces. -/
def compile (namespaces : List NamespaceDecl) (limits : Limits) :
    Except TooLong Compilation :=
  let (c, faults) := Catalog.ofNamespaces namespaces
  let start : Builder := { ledger := Ledger.extend {} faults }
  match (buildAll c limits).run start with
  | .ok (_, b) =>
    let isValid := !b.ledger.hasErrors
    .ok ⟨b.ledger.entries.toList, if isValid then some (b.published c) else none, isValid⟩
  | .error (.aborted ledger) => .ok ⟨ledger.entries.toList, none, false⟩
  | .error (.failed message ledger) =>
    let ledger := ledger.add ((Fault.failure message).diagnostic none)
    .ok ⟨ledger.entries.toList, none, false⟩
  | .error .tooLong => .error {}

end Schemata
