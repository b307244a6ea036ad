import Schemata.Compile.Catalog
import Schemata.Ledger
import Schemata.Schema.Derivation
import Schemata.Schema.Values

/-!
# The state of a compilation

A compilation turns declarations into symbols one at a time, whenever a symbol is first needed. A
type gets its symbol first, with empty content, and its content later, so that contents may speak
of types that are not finished. `Builder` holds the schema so far, which declaration became which
symbol, which types have their content, and which attributes and contents are being made.

Most faults are recorded in the ledger and the compilation goes on. A reference that stands for
nothing stops it (`Stop.aborted`), and so does a literal that is too long to count. What should
never be met is recorded as an internal error, which stops it as well; a failure that no step has
recorded (`Stop.failed`) becomes one at the end.
-/

namespace Schemata

/-- The state of a compilation. -/
structure Builder where
  schema : Schema := .builtin
  /-- The symbol of each declaration that has one. -/
  symbols : List (DeclarationId × SymbolId) := []
  /-- The declaration of each declared type, in the order of the numbers of types. -/
  origins : Array DeclarationId := #[]
  /-- The declared types that have their content. -/
  finished : List TypeId := []
  /-- The global attributes whose symbols are being made. -/
  openAttributes : List DeclarationId := []
  /-- The types whose content is being made. -/
  openTypes : List TypeId := []
  ledger : Ledger := {}

/-- Why a compilation stopped early. -/
inductive Stop
  /-- A fault that leaves nothing to go on with; it is the last in the ledger. -/
  | aborted (ledger : Ledger)
  /-- A failure that is not in the ledger. -/
  | failed (message : String) (ledger : Ledger)
  | tooLong

/-- A step of a compilation. -/
abbrev Build (α : Type) := StateT Builder (Except Stop) α

namespace Build

/-- Record a diagnostic and go on. -/
def note (d : Diagnostic) : Build Unit :=
  modify fun b => { b with ledger := b.ledger.add d }

/-- Record a fault if a condition fails, and go on. -/
def require (holds : Bool) (f : Fault) (span : Option Span) : Build Unit :=
  if holds then pure () else note (f.diagnostic span)

/-- Record a diagnostic and stop. -/
def abort {α : Type} (d : Diagnostic) : Build α := do
  throw (.aborted ((← get).ledger.add d))

/-- Record a fault of the compilation itself and stop. -/
def internal {α : Type} (f : Fault) : Build α := abort (f.diagnostic none)

/-- Go on with a result, or record what is wrong and stop. -/
def orAbort {α : Type} : Except Diagnostic α → Build α
  | .ok a => pure a
  | .error d => abort d

/-- Go on with what was read, unless a literal was too long. -/
def reading {α : Type} : Except TooLong α → Build α
  | .ok a => pure a
  | .error _ => throw .tooLong

/-- The schema so far. -/
def schema : Build Schema := do return (← get).schema

end Build

namespace Builder

/-- The symbol of a declaration. -/
def symbol? (b : Builder) (id : DeclarationId) : Option SymbolId := b.symbols.lookup id

/-- The symbol of a declaration, if it has one. It has to be of some sort. -/
def symbolAs {α : Type} (b : Builder) (sort : String) (as? : SymbolId → Option α)
    (id : DeclarationId) : Except Diagnostic (Option α) :=
  match b.symbol? id with
  | none => .ok none
  | some s =>
    match as? s with
    | some a => .ok (some a)
    | none => .error ((Fault.builtAsAnotherKind sort).diagnostic none)

/-- The declaration of a declared type. -/
def origin? (b : Builder) (id : TypeId) : Option DeclarationId :=
  if id.index < Kind.all.length then none else b.origins[id.index - Kind.all.length]?

/-- Whether a type has its content. Built-in types do. -/
def isFinished (b : Builder) (id : TypeId) : Bool :=
  (b.origin? id).isNone || b.finished.contains id

/-- The declared types in the order of their numbers. -/
def declaredTypes (b : Builder) : List TypeId :=
  (List.range b.origins.size).map fun i => ⟨Kind.all.length + i⟩

/-- Add a type for a declaration. -/
def addType (b : Builder) (origin : DeclarationId) (t : TypeDef) : TypeId × Builder :=
  let id : TypeId := ⟨b.schema.types.size⟩
  (id, { b with
    schema := { b.schema with types := b.schema.types.push t }
    symbols := (origin, .type id) :: b.symbols
    origins := b.origins.push origin })

/-- Begin to make a global attribute. -/
def openAttribute (b : Builder) (origin : DeclarationId) : Builder :=
  { b with openAttributes := origin :: b.openAttributes }

/-- Add a global attribute for a declaration. -/
def addAttribute (b : Builder) (origin : DeclarationId) (a : Attribute) : AttributeId × Builder :=
  let id : AttributeId := ⟨b.schema.attributes.size⟩
  (id, { b with
    schema := { b.schema with attributes := b.schema.attributes.push a }
    symbols := (origin, .attr id) :: b.symbols
    openAttributes := b.openAttributes.erase origin })

/-- Add a global element for a declaration, as a substitutor of the one that it substitutes. -/
def addElement (b : Builder) (origin : DeclarationId) (e : Element) : ElementId × Builder :=
  let id : ElementId := ⟨b.schema.elements.size⟩
  (id, { b with
    schema := { b.schema with
      elements := b.schema.elements.push e
      substitutions := Schema.addSubstitution e.substituted id b.schema.substitutions }
    symbols := (origin, .element id) :: b.symbols })

/-- Begin to make the content of a type. -/
def openType (b : Builder) (id : TypeId) : Builder :=
  { b with openTypes := id :: b.openTypes }

/-- Give a type its content. -/
def finish (b : Builder) (id : TypeId) (c : Content) : Builder :=
  { b with
    schema := { b.schema with
      types := b.schema.types.modify id.index fun t => { t with content := c } }
    finished := id :: b.finished
    openTypes := b.openTypes.erase id }

end Builder

end Schemata
