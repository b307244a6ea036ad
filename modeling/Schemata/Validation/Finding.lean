import Schemata.Facets.Basic
import Schemata.Limits
import Schemata.Objects.Basic
import Schemata.Validation.Mode

/-!
# Findings of a validation

Everything that can be wrong with an object that is held against a schema. A finding is recorded
for one object, at the place of the object.
-/

namespace Schemata

/-- What is wrong with an object. -/
inductive Finding
  /-- The object lies deeper than the bound. -/
  | tooDeep (bound : Nat)
  -- Instances of types
  | noInstance (sort : ObjectSort)
  | unknownType (name : FullName)
  | foreignType (name expected : FullName)
  | abstractType (type : FullName)
  | notSimple (type : FullName)
  | notComplex (type : FullName)
  | wrongKind (type : FullName)
  | violation (v : FacetViolation)
  -- Attributes, and what attributes and elements hold
  | missingAttribute (name : String)
  | undeclaredAttribute (name : String)
  | brokenReference (fault : TreeFault)
  | longReference (exceeded : Limits.Exceeded)
  | nullAttribute
  | nullElement
  -- Children
  | undeclaredChildren
  | missingSimpleValue
  | noChildSet
  | missingChildren
  | missingMember (name : String)
  | severalChoices (names : List String)
  | noChoice
  | undeclaredChild
  | tooFewItems (count least : Nat)
  | tooManyItems (count most : Nat)
  | wrongItem (name : String)
  -- Elements
  | abstractElement (element : FullName)
  | foreignElement (name : FullName) (head : String)

namespace Finding

/-- The code of a finding. -/
def code : Finding → Code
  | .tooDeep _ | .longReference _ => .objectTooDeep
  | .noInstance _ | .brokenReference _ | .noChildSet | .wrongItem _ => .invalidObjectKind
  | .unknownType _ => .unknownTypeName
  | .foreignType .. | .foreignElement .. => .invalidObjectType
  | .abstractType _ => .typeIsAbstract
  | .notSimple _ | .notComplex _ | .wrongKind _ => .valueKindMismatch
  | .violation v => v.code
  | .missingAttribute _ => .requiredAttributeNotFound
  | .undeclaredAttribute _ => .redundantAttribute
  | .nullAttribute => .attributeIsNotNullable
  | .nullElement => .elementIsNotNullable
  | .undeclaredChildren | .undeclaredChild => .redundantChildMember
  | .missingSimpleValue | .missingChildren | .missingMember _ | .noChoice =>
    .requiredChildMemberNotFound
  | .severalChoices _ => .multipleChoiceMembers
  | .tooFewItems .. => .childListCountLessThanMinOccurs
  | .tooManyItems .. => .childListCountGreaterThanMaxOccurs
  | .abstractElement _ => .elementIsAbstract

/-- The wording of a finding for an object. -/
def message (id : ObjectId) : Finding → String
  | .tooDeep bound => s!"object {id.text} is nested deeper than {bound}"
  | .noInstance sort => s!"{sort.text} object {id.text} is not a type instance"
  | .unknownType name => s!"unknown type '{name.text}'"
  | .foreignType name expected =>
    s!"type '{name.text}' is not equal to or derived from '{expected.text}'"
  | .abstractType type => s!"type '{type.text}' is abstract"
  | .notSimple type => s!"type '{type.text}' is not a simple type"
  | .notComplex type => s!"type '{type.text}' is not a complex type"
  | .wrongKind type => s!"value does not match the kind of type '{type.text}'"
  | .violation v => v.message
  | .missingAttribute name => s!"required attribute '{name}' not found"
  | .undeclaredAttribute name => s!"attribute '{name}' is not declared"
  | .brokenReference fault => fault.detail
  | .longReference exceeded => exceeded.message
  | .nullAttribute => s!"attribute {id.text} has no value and is not nullable"
  | .nullElement => s!"element {id.text} has no value and is not nullable"
  | .undeclaredChildren => "type declares no children"
  | .missingSimpleValue => "simple content not found"
  | .noChildSet => s!"object {id.text} is not a child set"
  | .missingChildren => "required children not found"
  | .missingMember name => s!"required member '{name}' not found"
  | .severalChoices names =>
    let joined := ", ".intercalate names
    s!"choice holds members {joined}"
  | .noChoice => "choice holds none of its members"
  | .undeclaredChild => s!"child {id.text} is not declared"
  | .tooFewItems count least => s!"{count} items, at least {least} required"
  | .tooManyItems count most => s!"{count} items, at most {most} allowed"
  | .wrongItem name => s!"item {id.text} does not match '{name}'"
  | .abstractElement element => s!"element '{element.text}' is abstract"
  | .foreignElement name head => s!"element '{name.text}' cannot stand for '{head}'"

/-- Whether the object has more than its type declares, and nothing else is wrong with it. -/
def isRedundancy : Finding → Bool
  | .undeclaredAttribute _ | .undeclaredChildren | .undeclaredChild => true
  | _ => false

/-- How grave a finding is. -/
def severity (mode : Mode) (f : Finding) : Severity :=
  if f.isRedundancy && mode == .lax then .warning else .error

/-- A finding for an object of a tree as a diagnostic. -/
def diagnostic (mode : Mode) (t : Tree) (id : ObjectId) (f : Finding) : Diagnostic :=
  { severity := f.severity mode
    code := f.code
    message := f.message id
    span := t.span? id
    object := some id }

/-- Whatever is not merely redundant is an error in every mode. -/
theorem isError_diagnostic (mode : Mode) (t : Tree) (id : ObjectId) {f : Finding}
    (h : f.isRedundancy = false) : (f.diagnostic mode t id).isError := by
  simp [diagnostic, severity, Diagnostic.isError, h]

end Finding

end Schemata
