import Schemata.Limits
import Schemata.Schema.Children
import Schemata.Facets.Basic

/-!
# Faults of a schema

Everything that can be wrong with the declarations of a schema, beside the faults of declared
facets. A fault has a code and a wording; where it is found, it becomes a diagnostic at a place.
-/

namespace Schemata

/-- What is wrong with the declarations of a schema. -/
inductive Fault
  -- Registering namespaces and imports
  | reservedNamespace
  | invalidIdentifier (name : String)
  | duplicateMember (name uri : String)
  | reservedAlias
  | unknownNamespace (uri : String)
  | duplicateAlias (name : String)
  -- Names
  | unknownAlias (name : String)
  | unknownName (reference : NameRef)
  | ambiguousName (reference : NameRef) (uris : List String)
  | baseIsNoType (reference : NameRef)
  | notType (reference : NameRef) (sort : String)
  | notAttribute (reference : NameRef)
  | notElement (reference : NameRef)
  | circular (name : FullName)
  -- Bases
  | sealedBase (base : FullName)
  | complexRootAsBase
  | simpleRootAsBase (kind : Kind)
  | tooDeep (type : FullName) (exceeded : Limits.Exceeded)
  -- Simple types and values
  | notSimple (reference : NameRef)
  | malformedDefault (literal : String) (type : FullName)
  | invalidDefault (literal : String) (type : FullName) (violation : FacetViolation)
  | contentOnSimpleType
  | facetsOnComplexType
  | itemTypeWidens (type base : FullName)
  -- Attributes
  | attributeDeletedOutsideRestriction (name : String)
  | duplicateAttribute (name : String)
  | unknownRestrictedAttribute (name : String)
  | requiredAttributeDeleted (name : String)
  | requiredAttributeLeftOut (name : String)
  | attributeBecomesOptional (name : String)
  | attributeBecomesNullable (name : String)
  | attributeTypeWidens (name : String) (type base : FullName)
  -- Children
  | memberDeletedOutsideRestriction (name : String)
  | duplicateChild (name : String)
  | invalidOccurs (occurs : Occurs)
  | simpleValueExtended (bySet : Bool)
  | setExtendedBySimpleValue
  | noRestrictedChildren
  | simpleValueWidens (reference : NameRef) (base : FullName)
  | childrenDiffer
  | unknownRestrictedChild (name : String)
  | requiredChildDeleted (name : String)
  | requiredChildLeftOut (name : String)
  | choiceBecomesEmpty
  | leastOccursBelow (name : String) (occurs base : Occurs)
  | mostOccursAbove (name : String) (occurs base : Occurs)
  | memberBecomesList (name : String)
  | memberBecomesOptional (name : String)
  | shapeDiffers (name : String) (base : Shape)
  | elementBecomesNullable (name : String)
  | elementTypeWidens (name : String) (type : NameRef) (base : FullName)
  | elementReferenceWidens (reference : NameRef) (base : FullName)
  -- Substitution
  | sealedHead (head : FullName)
  | substitutorTypeWidens (element type headType : FullName)
  | substitutorBecomesNullable (element head : FullName)
  -- States that no declarations lead to
  | declarationExpected (sort : String)
  | builtAsAnotherKind (sort : String)
  | contentReentered
  | emptyChain
  | failure (message : String)

namespace Fault

/-- The code of a fault. -/
def code : Fault → Code
  | .reservedNamespace | .unknownNamespace _ => .invalidNamespaceReference
  | .invalidIdentifier _ => .parsing
  | .duplicateMember .. => .duplicateNamespaceMember
  | .reservedAlias => .aliasSysIsReserved
  | .duplicateAlias _ => .duplicateImportAlias
  | .unknownAlias _ => .invalidImportAliasReference
  | .unknownName _ => .invalidNameReference
  | .ambiguousName .. => .ambiguousNameReference
  | .baseIsNoType _ | .notType .. => .invalidTypeNameReference
  | .notAttribute _ => .invalidAttributeNameReference
  | .notElement _ => .invalidElementNameReference
  | .circular _ => .circularReferenceDetected
  | .sealedBase _ => .baseTypeIsSealed
  | .complexRootAsBase => .cannotExtendOrRestrictSysComplexType
  | .simpleRootAsBase _ => .cannotExtendOrRestrictSysSimpleType
  | .tooDeep .. => .derivationTooDeep
  | .notSimple _ => .typeIsNotSimple
  | .malformedDefault .. | .invalidDefault .. => .invalidAtomValueLiteral
  | .contentOnSimpleType => .attributesOrChildrenNotAllowedOnSimpleType
  | .facetsOnComplexType => .facetsNotAllowedOnComplexType
  | .itemTypeWidens .. => .listItemTypeNotEqualToOrDeriveFromRestricted
  | .attributeDeletedOutsideRestriction _ | .unknownRestrictedAttribute _ =>
    .cannotFindRestrictedAttribute
  | .duplicateAttribute _ => .duplicateAttributeName
  | .requiredAttributeDeleted _ | .requiredAttributeLeftOut _ => .requiredAttributeNotRestricting
  | .attributeBecomesOptional _ => .attributeIsOptionalButRestrictedIsRequired
  | .attributeBecomesNullable _ => .attributeIsNullableButRestrictedIsNotNullable
  | .attributeTypeWidens .. => .attributeTypeNotEqualToOrDeriveFromRestricted
  | .memberDeletedOutsideRestriction _ | .unknownRestrictedChild _ | .noRestrictedChildren =>
    .cannotFindRestrictedChildMember
  | .duplicateChild _ => .duplicateMemberName
  | .invalidOccurs _ => .invalidOccurrence
  | .simpleValueExtended true => .cannotExtendSimpleChildWithComplexChildren
  | .simpleValueExtended false | .setExtendedBySimpleValue => .cannotExtendChildrenWithSimpleChild
  | .simpleValueWidens .. => .simpleChildTypeNotEqualToOrDeriveFromRestricted
  | .childrenDiffer | .memberBecomesList _ | .shapeDiffers .. => .memberKindNotEqualToRestricted
  | .requiredChildDeleted _ | .requiredChildLeftOut _ | .choiceBecomesEmpty =>
    .requiredChildMemberNotRestricting
  | .leastOccursBelow .. | .memberBecomesOptional _ => .minOccursNotGreaterThanOrEqualToRestricted
  | .mostOccursAbove .. => .maxOccursNotLessThanOrEqualToRestricted
  | .elementBecomesNullable _ => .elementIsNullableButRestrictedIsNotNullable
  | .elementTypeWidens .. => .elementTypeNotEqualToOrDeriveFromRestricted
  | .elementReferenceWidens .. => .elementReferenceNotEqualToOrSubstituteRestricted
  | .sealedHead _ => .substitutedElementIsSealed
  | .substitutorTypeWidens .. => .elementTypeNotEqualToOrDeriveFromSubstituted
  | .substitutorBecomesNullable .. => .elementIsNullableButSubstitutedIsNotNullable
  | .declarationExpected _ | .builtAsAnotherKind _ | .contentReentered | .emptyChain
  | .failure _ => .internalCompilerError

/-- The wording of a fault. -/
def message : Fault → String
  | .reservedNamespace => s!"namespace '{FullName.systemUri}' is reserved for built-in types"
  | .invalidIdentifier name => s!"invalid identifier '{name}'"
  | .duplicateMember name uri => s!"duplicate namespace member '{name}' in '{uri}'"
  | .reservedAlias => s!"alias '{FullName.systemAlias}' is reserved"
  | .unknownNamespace uri => s!"invalid namespace reference '{uri}'"
  | .duplicateAlias name => s!"duplicate import alias '{name}'"
  | .unknownAlias name => s!"invalid import alias reference '{name}'"
  | .unknownName r => s!"invalid name reference '{r.text}'"
  | .ambiguousName r uris =>
    s!"ambiguous name reference '{r.text}': found in " ++ ", ".intercalate uris
  | .baseIsNoType r => s!"'{r.text}' is not a type"
  | .notType r sort => s!"'{r.text}' is {sort}, a type is required"
  | .notAttribute r => s!"'{r.text}' is not a global attribute"
  | .notElement r => s!"'{r.text}' is not a global element"
  | .circular name => s!"circular reference detected at '{name.text}'"
  | .sealedBase base => s!"base type '{base.text}' is sealed"
  | .complexRootAsBase => "cannot extend or restrict sys:ComplexType"
  | .simpleRootAsBase kind => s!"cannot extend or restrict sys:{kind.name}"
  | .tooDeep type exceeded => s!"type '{type.text}': {exceeded.message}"
  | .notSimple r => s!"type '{r.text}' is not a simple type"
  | .malformedDefault literal type => s!"invalid literal '{literal}' for type '{type.text}'"
  | .invalidDefault literal type violation =>
    s!"default value '{literal}' is invalid for '{type.text}': {violation.message}"
  | .contentOnSimpleType => "attributes or children are not allowed on a simple type"
  | .facetsOnComplexType => "facets are not allowed on a complex type"
  | .itemTypeWidens type base =>
    s!"list item type '{type.text}' is not equal to or derived from '{base.text}'"
  | .attributeDeletedOutsideRestriction name =>
    s!"cannot delete attribute '{name}' outside a restriction"
  | .duplicateAttribute name => s!"duplicate attribute name '{name}'"
  | .unknownRestrictedAttribute name => s!"cannot find restricted attribute '{name}'"
  | .requiredAttributeDeleted name => s!"cannot delete required attribute '{name}'"
  | .requiredAttributeLeftOut name => s!"required attribute '{name}' is not restricted"
  | .attributeBecomesOptional name =>
    s!"attribute '{name}' is optional but the restricted one is required"
  | .attributeBecomesNullable name =>
    s!"attribute '{name}' is nullable but the restricted one is not nullable"
  | .attributeTypeWidens name type base =>
    s!"type '{type.text}' of attribute '{name}' is not equal to or derived from '{base.text}'"
  | .memberDeletedOutsideRestriction name =>
    s!"cannot delete member '{name}' outside a restriction"
  | .duplicateChild name => s!"duplicate member name '{name}'"
  | .invalidOccurs occurs => s!"invalid occurrence {occurs.text}"
  | .simpleValueExtended _ => "cannot extend simple content with more children"
  | .setExtendedBySimpleValue => "cannot extend structural children with simple content"
  | .noRestrictedChildren => "the restricted type has no children"
  | .simpleValueWidens r base =>
    s!"simple child type '{r.text}' is not equal to or derived from '{base.text}'"
  | .childrenDiffer => "children kind is not equal to the restricted children kind"
  | .unknownRestrictedChild name => s!"cannot find restricted child member '{name}'"
  | .requiredChildDeleted name => s!"cannot delete required child member '{name}'"
  | .requiredChildLeftOut name => s!"required child member '{name}' must be restricted"
  | .choiceBecomesEmpty => "a restricted choice must keep at least one member"
  | .leastOccursBelow name occurs base =>
    s!"min occurs {occurs.least} of '{name}' is less than the restricted {base.least}"
  | .mostOccursAbove name occurs base =>
    s!"occurrence {occurs.text} of '{name}' exceeds the restricted {base.text}"
  | .memberBecomesList name => s!"member '{name}' is a list but the restricted member is not"
  | .memberBecomesOptional name =>
    s!"member '{name}' is optional but the restricted member is required"
  | .shapeDiffers name base => s!"member '{name}' must restrict a {base.text}"
  | .elementBecomesNullable name =>
    s!"element '{name}' is nullable but the restricted one is not nullable"
  | .elementTypeWidens name type base =>
    s!"type '{type.text}' of element '{name}' is not equal to or derived from '{base.text}'"
  | .elementReferenceWidens r base =>
    s!"element reference '{r.text}' is not equal to or a substitute of '{base.text}'"
  | .sealedHead head => s!"substituted element '{head.text}' is sealed"
  | .substitutorTypeWidens element type headType =>
    s!"type '{type.text}' of element '{element.text}' is not equal to or derived from " ++
      s!"'{headType.text}'"
  | .substitutorBecomesNullable element head =>
    s!"element '{element.text}' is nullable but the substituted element '{head.text}' is not"
  | .declarationExpected sort => s!"{sort} declaration expected"
  | .builtAsAnotherKind sort => s!"{sort} declaration built as another kind"
  | .contentReentered => "type body re-entered while building"
  | .emptyChain => "empty substitution chain"
  | .failure message => message

/-- A fault at a place, if the place is known. -/
def diagnostic (f : Fault) (span : Option Span) : Diagnostic := .errorAt span f.code f.message

theorem isError_diagnostic (f : Fault) (span : Option Span) : (f.diagnostic span).isError := rfl

end Fault

end Schemata
