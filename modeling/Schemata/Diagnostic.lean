/-!
# Diagnostics

A diagnostic says what is wrong with a schema or with an object: its severity, a numbered code, a
message, and where it can be told, the place in the schema text or the object that it is about.

* `Code` lists the kinds of diagnostic; `Code.value` is the public number of each. Reading text
  uses the numbers from -1999 to -1000, compiling those from -2999 to -2000, and validating the
  positive ones.
* `Span` is a region of a file.
* `Diagnostic.text` is the one-line form.
-/

namespace Schemata

/-- How much a diagnostic matters. -/
inductive Severity
  /-- The compilation or validation fails. -/
  | error
  /-- Reported, but without an effect on the outcome. -/
  | warning
  /-- For information only. -/
  | info
  deriving DecidableEq

/-- The word for a severity. -/
def Severity.text : Severity → String
  | .error => "error"
  | .warning => "warning"
  | .info => "info"

/-- A place in a text; lines and columns count from one. -/
structure Position where
  line : Nat := 0
  column : Nat := 0
  deriving DecidableEq, Inhabited

/-- A region of a file, from `start` up to, but not including, `stop`. -/
structure Span where
  path : String
  start : Position
  stop : Position
  deriving DecidableEq, Inhabited

/-- A span in a message: the path and the place where it starts. -/
def Span.text (s : Span) : String :=
  s!"{s.path}:{s.start.line}:{s.start.column}"

/-- The kinds of diagnostic, in three bands: reading, compiling and validating. -/
inductive Code
  -- Reading schema text
  | parsing
  | invalidSchemaFile
  -- Compiling: namespaces and names
  | internalCompilerError
  | duplicateNamespaceMember
  | duplicateImportAlias
  | aliasSysIsReserved
  | invalidNamespaceReference
  | invalidImportAliasReference
  | invalidNameReference
  | ambiguousNameReference
  | invalidTypeNameReference
  | invalidAttributeNameReference
  | invalidElementNameReference
  | circularReferenceDetected
  -- Compiling: derivation of types
  | baseTypeIsSealed
  | cannotExtendOrRestrictSysComplexType
  | cannotExtendOrRestrictSysSimpleType
  | cannotExtendSimpleChildWithComplexChildren
  | cannotExtendChildrenWithSimpleChild
  | duplicateAttributeName
  | duplicateMemberName
  | attributeIsOptionalButRestrictedIsRequired
  | attributeIsNullableButRestrictedIsNotNullable
  | requiredAttributeNotRestricting
  | attributeTypeNotEqualToOrDeriveFromRestricted
  | cannotFindRestrictedAttribute
  | cannotFindRestrictedChildMember
  | memberKindNotEqualToRestricted
  | minOccursNotGreaterThanOrEqualToRestricted
  | maxOccursNotLessThanOrEqualToRestricted
  | requiredChildMemberNotRestricting
  | elementTypeNotEqualToOrDeriveFromRestricted
  | elementIsNullableButRestrictedIsNotNullable
  | elementReferenceNotEqualToOrSubstituteRestricted
  | simpleChildTypeNotEqualToOrDeriveFromRestricted
  | facetsNotAllowedOnComplexType
  | attributesOrChildrenNotAllowedOnSimpleType
  | invalidOccurrence
  | substitutedElementIsSealed
  | elementTypeNotEqualToOrDeriveFromSubstituted
  | elementIsNullableButSubstitutedIsNotNullable
  | typeIsNotSimple
  -- Compiling: facets
  | facetNotApplicable
  | minLengthBelowBase
  | maxLengthAboveBase
  | minLengthGreaterThanMaxLength
  | precisionAboveBase
  | scaleAboveBase
  | scaleGreaterThanPrecision
  | minValueBelowBase
  | maxValueAboveBase
  | minValueGreaterThanMaxValue
  | enumItemNotInBase
  | duplicateEnumItemName
  | invalidPattern
  | invalidAtomValueLiteral
  | listItemTypeNotEqualToOrDeriveFromRestricted
  | invalidPrecision
  | derivationTooDeep
  -- Validating objects
  | requiredAttributeNotFound
  | redundantAttribute
  | requiredChildMemberNotFound
  | redundantChildMember
  | elementIsAbstract
  | typeIsAbstract
  | invalidObjectType
  | unknownTypeName
  | elementIsNotNullable
  | attributeIsNotNullable
  | valueKindMismatch
  | lengthNotInRange
  | precisionExceeded
  | scaleExceeded
  | valueNotInRange
  | valueNotInEnumeration
  | patternNotMatched
  | childListCountLessThanMinOccurs
  | childListCountGreaterThanMaxOccurs
  | multipleChoiceMembers
  | objectTooDeep
  | invalidObjectKind
  deriving DecidableEq

namespace Code

/-- The number by which other programs know a code. -/
def value : Code → Int
  | .parsing => -1000
  | .invalidSchemaFile => -1001
  | .internalCompilerError => -2000
  | .duplicateNamespaceMember => -2001
  | .duplicateImportAlias => -2002
  | .aliasSysIsReserved => -2003
  | .invalidNamespaceReference => -2004
  | .invalidImportAliasReference => -2005
  | .invalidNameReference => -2006
  | .ambiguousNameReference => -2007
  | .invalidTypeNameReference => -2008
  | .invalidAttributeNameReference => -2009
  | .invalidElementNameReference => -2010
  | .circularReferenceDetected => -2011
  | .baseTypeIsSealed => -2012
  | .cannotExtendOrRestrictSysComplexType => -2013
  | .cannotExtendOrRestrictSysSimpleType => -2014
  | .cannotExtendSimpleChildWithComplexChildren => -2015
  | .cannotExtendChildrenWithSimpleChild => -2016
  | .duplicateAttributeName => -2017
  | .duplicateMemberName => -2018
  | .attributeIsOptionalButRestrictedIsRequired => -2019
  | .attributeIsNullableButRestrictedIsNotNullable => -2020
  | .requiredAttributeNotRestricting => -2021
  | .attributeTypeNotEqualToOrDeriveFromRestricted => -2022
  | .cannotFindRestrictedAttribute => -2023
  | .cannotFindRestrictedChildMember => -2024
  | .memberKindNotEqualToRestricted => -2025
  | .minOccursNotGreaterThanOrEqualToRestricted => -2026
  | .maxOccursNotLessThanOrEqualToRestricted => -2027
  | .requiredChildMemberNotRestricting => -2028
  | .elementTypeNotEqualToOrDeriveFromRestricted => -2029
  | .elementIsNullableButRestrictedIsNotNullable => -2030
  | .elementReferenceNotEqualToOrSubstituteRestricted => -2031
  | .simpleChildTypeNotEqualToOrDeriveFromRestricted => -2032
  | .facetsNotAllowedOnComplexType => -2033
  | .attributesOrChildrenNotAllowedOnSimpleType => -2034
  | .invalidOccurrence => -2035
  | .substitutedElementIsSealed => -2036
  | .elementTypeNotEqualToOrDeriveFromSubstituted => -2037
  | .elementIsNullableButSubstitutedIsNotNullable => -2038
  | .typeIsNotSimple => -2039
  | .facetNotApplicable => -2040
  | .minLengthBelowBase => -2041
  | .maxLengthAboveBase => -2042
  | .minLengthGreaterThanMaxLength => -2043
  | .precisionAboveBase => -2044
  | .scaleAboveBase => -2045
  | .scaleGreaterThanPrecision => -2046
  | .minValueBelowBase => -2047
  | .maxValueAboveBase => -2048
  | .minValueGreaterThanMaxValue => -2049
  | .enumItemNotInBase => -2050
  | .duplicateEnumItemName => -2051
  | .invalidPattern => -2052
  | .invalidAtomValueLiteral => -2053
  | .listItemTypeNotEqualToOrDeriveFromRestricted => -2054
  | .invalidPrecision => -2055
  | .derivationTooDeep => -2056
  | .requiredAttributeNotFound => 1
  | .redundantAttribute => 2
  | .requiredChildMemberNotFound => 3
  | .redundantChildMember => 4
  | .elementIsAbstract => 5
  | .typeIsAbstract => 6
  | .invalidObjectType => 7
  | .unknownTypeName => 8
  | .elementIsNotNullable => 9
  | .attributeIsNotNullable => 10
  | .valueKindMismatch => 11
  | .lengthNotInRange => 12
  | .precisionExceeded => 13
  | .scaleExceeded => 14
  | .valueNotInRange => 15
  | .valueNotInEnumeration => 16
  | .patternNotMatched => 17
  | .childListCountLessThanMinOccurs => 18
  | .childListCountGreaterThanMaxOccurs => 19
  | .multipleChoiceMembers => 20
  | .objectTooDeep => 21
  | .invalidObjectKind => 22

/-- The name of a code. -/
def name : Code → String
  | .parsing => "Parsing"
  | .invalidSchemaFile => "InvalidSchemaFile"
  | .internalCompilerError => "InternalCompilerError"
  | .duplicateNamespaceMember => "DuplicateNamespaceMember"
  | .duplicateImportAlias => "DuplicateImportAlias"
  | .aliasSysIsReserved => "AliasSysIsReserved"
  | .invalidNamespaceReference => "InvalidNamespaceReference"
  | .invalidImportAliasReference => "InvalidImportAliasReference"
  | .invalidNameReference => "InvalidNameReference"
  | .ambiguousNameReference => "AmbiguousNameReference"
  | .invalidTypeNameReference => "InvalidTypeNameReference"
  | .invalidAttributeNameReference => "InvalidAttributeNameReference"
  | .invalidElementNameReference => "InvalidElementNameReference"
  | .circularReferenceDetected => "CircularReferenceDetected"
  | .baseTypeIsSealed => "BaseTypeIsSealed"
  | .cannotExtendOrRestrictSysComplexType => "CannotExtendOrRestrictSysComplexType"
  | .cannotExtendOrRestrictSysSimpleType => "CannotExtendOrRestrictSysSimpleType"
  | .cannotExtendSimpleChildWithComplexChildren => "CannotExtendSimpleChildWithComplexChildren"
  | .cannotExtendChildrenWithSimpleChild => "CannotExtendChildrenWithSimpleChild"
  | .duplicateAttributeName => "DuplicateAttributeName"
  | .duplicateMemberName => "DuplicateMemberName"
  | .attributeIsOptionalButRestrictedIsRequired => "AttributeIsOptionalButRestrictedIsRequired"
  | .attributeIsNullableButRestrictedIsNotNullable =>
    "AttributeIsNullableButRestrictedIsNotNullable"
  | .requiredAttributeNotRestricting => "RequiredAttributeNotRestricting"
  | .attributeTypeNotEqualToOrDeriveFromRestricted =>
    "AttributeTypeNotEqualToOrDeriveFromRestricted"
  | .cannotFindRestrictedAttribute => "CannotFindRestrictedAttribute"
  | .cannotFindRestrictedChildMember => "CannotFindRestrictedChildMember"
  | .memberKindNotEqualToRestricted => "MemberKindNotEqualToRestricted"
  | .minOccursNotGreaterThanOrEqualToRestricted => "MinOccursNotGreaterThanOrEqualToRestricted"
  | .maxOccursNotLessThanOrEqualToRestricted => "MaxOccursNotLessThanOrEqualToRestricted"
  | .requiredChildMemberNotRestricting => "RequiredChildMemberNotRestricting"
  | .elementTypeNotEqualToOrDeriveFromRestricted => "ElementTypeNotEqualToOrDeriveFromRestricted"
  | .elementIsNullableButRestrictedIsNotNullable => "ElementIsNullableButRestrictedIsNotNullable"
  | .elementReferenceNotEqualToOrSubstituteRestricted =>
    "ElementReferenceNotEqualToOrSubstituteRestricted"
  | .simpleChildTypeNotEqualToOrDeriveFromRestricted =>
    "SimpleChildTypeNotEqualToOrDeriveFromRestricted"
  | .facetsNotAllowedOnComplexType => "FacetsNotAllowedOnComplexType"
  | .attributesOrChildrenNotAllowedOnSimpleType => "AttributesOrChildrenNotAllowedOnSimpleType"
  | .invalidOccurrence => "InvalidOccurrence"
  | .substitutedElementIsSealed => "SubstitutedElementIsSealed"
  | .elementTypeNotEqualToOrDeriveFromSubstituted => "ElementTypeNotEqualToOrDeriveFromSubstituted"
  | .elementIsNullableButSubstitutedIsNotNullable => "ElementIsNullableButSubstitutedIsNotNullable"
  | .typeIsNotSimple => "TypeIsNotSimple"
  | .facetNotApplicable => "FacetNotApplicable"
  | .minLengthBelowBase => "MinLengthBelowBase"
  | .maxLengthAboveBase => "MaxLengthAboveBase"
  | .minLengthGreaterThanMaxLength => "MinLengthGreaterThanMaxLength"
  | .precisionAboveBase => "PrecisionAboveBase"
  | .scaleAboveBase => "ScaleAboveBase"
  | .scaleGreaterThanPrecision => "ScaleGreaterThanPrecision"
  | .minValueBelowBase => "MinValueBelowBase"
  | .maxValueAboveBase => "MaxValueAboveBase"
  | .minValueGreaterThanMaxValue => "MinValueGreaterThanMaxValue"
  | .enumItemNotInBase => "EnumItemNotInBase"
  | .duplicateEnumItemName => "DuplicateEnumItemName"
  | .invalidPattern => "InvalidPattern"
  | .invalidAtomValueLiteral => "InvalidAtomValueLiteral"
  | .listItemTypeNotEqualToOrDeriveFromRestricted => "ListItemTypeNotEqualToOrDeriveFromRestricted"
  | .invalidPrecision => "InvalidPrecision"
  | .derivationTooDeep => "DerivationTooDeep"
  | .requiredAttributeNotFound => "RequiredAttributeNotFound"
  | .redundantAttribute => "RedundantAttribute"
  | .requiredChildMemberNotFound => "RequiredChildMemberNotFound"
  | .redundantChildMember => "RedundantChildMember"
  | .elementIsAbstract => "ElementIsAbstract"
  | .typeIsAbstract => "TypeIsAbstract"
  | .invalidObjectType => "InvalidObjectType"
  | .unknownTypeName => "UnknownTypeName"
  | .elementIsNotNullable => "ElementIsNotNullable"
  | .attributeIsNotNullable => "AttributeIsNotNullable"
  | .valueKindMismatch => "ValueKindMismatch"
  | .lengthNotInRange => "LengthNotInRange"
  | .precisionExceeded => "PrecisionExceeded"
  | .scaleExceeded => "ScaleExceeded"
  | .valueNotInRange => "ValueNotInRange"
  | .valueNotInEnumeration => "ValueNotInEnumeration"
  | .patternNotMatched => "PatternNotMatched"
  | .childListCountLessThanMinOccurs => "ChildListCountLessThanMinOccurs"
  | .childListCountGreaterThanMaxOccurs => "ChildListCountGreaterThanMaxOccurs"
  | .multipleChoiceMembers => "MultipleChoiceMembers"
  | .objectTooDeep => "ObjectTooDeep"
  | .invalidObjectKind => "InvalidObjectKind"

/-- Every code, band by band. -/
def all : List Code :=
  [.parsing, .invalidSchemaFile, .internalCompilerError, .duplicateNamespaceMember,
   .duplicateImportAlias, .aliasSysIsReserved, .invalidNamespaceReference,
   .invalidImportAliasReference, .invalidNameReference, .ambiguousNameReference,
   .invalidTypeNameReference, .invalidAttributeNameReference, .invalidElementNameReference,
   .circularReferenceDetected, .baseTypeIsSealed, .cannotExtendOrRestrictSysComplexType,
   .cannotExtendOrRestrictSysSimpleType, .cannotExtendSimpleChildWithComplexChildren,
   .cannotExtendChildrenWithSimpleChild, .duplicateAttributeName, .duplicateMemberName,
   .attributeIsOptionalButRestrictedIsRequired, .attributeIsNullableButRestrictedIsNotNullable,
   .requiredAttributeNotRestricting, .attributeTypeNotEqualToOrDeriveFromRestricted,
   .cannotFindRestrictedAttribute, .cannotFindRestrictedChildMember,
   .memberKindNotEqualToRestricted, .minOccursNotGreaterThanOrEqualToRestricted,
   .maxOccursNotLessThanOrEqualToRestricted, .requiredChildMemberNotRestricting,
   .elementTypeNotEqualToOrDeriveFromRestricted, .elementIsNullableButRestrictedIsNotNullable,
   .elementReferenceNotEqualToOrSubstituteRestricted,
   .simpleChildTypeNotEqualToOrDeriveFromRestricted, .facetsNotAllowedOnComplexType,
   .attributesOrChildrenNotAllowedOnSimpleType, .invalidOccurrence, .substitutedElementIsSealed,
   .elementTypeNotEqualToOrDeriveFromSubstituted, .elementIsNullableButSubstitutedIsNotNullable,
   .typeIsNotSimple, .facetNotApplicable, .minLengthBelowBase, .maxLengthAboveBase,
   .minLengthGreaterThanMaxLength, .precisionAboveBase, .scaleAboveBase,
   .scaleGreaterThanPrecision, .minValueBelowBase, .maxValueAboveBase,
   .minValueGreaterThanMaxValue, .enumItemNotInBase, .duplicateEnumItemName, .invalidPattern,
   .invalidAtomValueLiteral, .listItemTypeNotEqualToOrDeriveFromRestricted, .invalidPrecision,
   .derivationTooDeep, .requiredAttributeNotFound, .redundantAttribute,
   .requiredChildMemberNotFound, .redundantChildMember, .elementIsAbstract, .typeIsAbstract,
   .invalidObjectType, .unknownTypeName, .elementIsNotNullable, .attributeIsNotNullable,
   .valueKindMismatch, .lengthNotInRange, .precisionExceeded, .scaleExceeded, .valueNotInRange,
   .valueNotInEnumeration, .patternNotMatched, .childListCountLessThanMinOccurs,
   .childListCountGreaterThanMaxOccurs, .multipleChoiceMembers, .objectTooDeep,
   .invalidObjectKind]

/-- The code of a given name. -/
def ofName? (name : String) : Option Code :=
  all.find? (·.name == name)

/-- A code in a message: its name with its number. -/
def text (c : Code) : String :=
  s!"{c.name}({c.value})"

/-- Whether the code belongs to reading schema text. -/
def isReading (c : Code) : Bool := -1999 ≤ c.value && c.value ≤ -1000

/-- Whether the code belongs to compiling. -/
def isCompiling (c : Code) : Bool := -2999 ≤ c.value && c.value ≤ -2000

/-- Whether the code belongs to validating. -/
def isValidating (c : Code) : Bool := 0 ≤ c.value

end Code

/-- The number of an object in its tree. -/
structure ObjectId where
  index : Nat
  deriving DecidableEq, Inhabited

/-- An object in a message. -/
def ObjectId.text (id : ObjectId) : String := s!"#{id.index}"

/-- One finding of a pass over a schema or an object tree. -/
structure Diagnostic where
  severity : Severity
  code : Code
  message : String
  span : Option Span := none
  object : Option ObjectId := none
  deriving DecidableEq

namespace Diagnostic

/-- An error at a place, if the place is known. -/
def errorAt (span : Option Span) (code : Code) (message : String) : Diagnostic :=
  { severity := .error, code, message, span }

/-- Whether the diagnostic makes its pass fail. -/
def isError (d : Diagnostic) : Bool := d.severity == .error

/-- The one-line form: the place, the severity with the number, the message and the object. -/
def text (d : Diagnostic) : String :=
  let place := match d.span with
    | some s => s.text ++ ": "
    | none => ""
  let subject := match d.object with
    | some id => s!" (object {id.text})"
    | none => ""
  s!"{place}{d.severity.text} {d.code.value}: {d.message}{subject}"

end Diagnostic

end Schemata
