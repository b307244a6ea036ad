/-!
# Kinds of types and facets

Every type has a kind. Four kinds are roots, of all complex types, all simple types, all atomic
types and all list types; every other kind is a kind of atomic values. Each kind has one built-in
type, and the built-in types derive from one another along `Kind.base`. A declared type has the
kind of the built-in type that it derives from.

* `Kind.all` lists the kinds in the order in which their built-in types are numbered.
* `Facet` lists the ways to narrow a simple type, and `Kind.admits` says which apply to a kind.
-/

namespace Schemata

/-- The eight kinds of integers. -/
inductive IntegerKind
  | int64
  | int32
  | int16
  | sbyte
  | uint64
  | uint32
  | uint16
  | byte
  deriving DecidableEq

namespace IntegerKind

/-- The number of bits of a kind. -/
def bits : IntegerKind → Nat
  | .int64 | .uint64 => 64
  | .int32 | .uint32 => 32
  | .int16 | .uint16 => 16
  | .sbyte | .byte => 8

/-- Whether the kind has negative numbers. -/
def isSigned : IntegerKind → Bool
  | .int64 | .int32 | .int16 | .sbyte => true
  | .uint64 | .uint32 | .uint16 | .byte => false

/-- The least integer of a kind. -/
def least (k : IntegerKind) : Int := if k.isSigned then -Nat.pow 2 (k.bits - 1) else 0

/-- The greatest integer of a kind. -/
def greatest (k : IntegerKind) : Int :=
  if k.isSigned then Nat.pow 2 (k.bits - 1) - 1 else Nat.pow 2 k.bits - 1

end IntegerKind

/-- The kinds of types. -/
inductive Kind
  | complexType
  | simpleType
  | atomicType
  | listType
  | string
  | ignoreCaseString
  | decimal
  | integer (k : IntegerKind)
  | double
  | single
  | boolean
  | binary
  | guid
  | duration
  | dateTime
  deriving DecidableEq

/-- The facets, each a way to narrow a simple type. -/
inductive Facet
  | lengthRange
  | precision
  | scale
  | valueRange
  | enumeration
  | pattern
  | listItemType
  deriving DecidableEq

/-- The word that declares a facet. -/
def Facet.keyword : Facet → String
  | .lengthRange => "lengthrange"
  | .precision => "precision"
  | .scale => "scale"
  | .valueRange => "valuerange"
  | .enumeration => "enums"
  | .pattern => "pattern"
  | .listItemType => "lists"

/-- Every facet. -/
def Facet.all : List Facet :=
  [.lengthRange, .precision, .scale, .valueRange, .enumeration, .pattern, .listItemType]

namespace Kind

/-- Every kind, in the order in which the built-in types are numbered. -/
def all : List Kind :=
  [.complexType, .simpleType, .atomicType, .listType, .string, .ignoreCaseString, .decimal,
   .integer .int64, .integer .int32, .integer .int16, .integer .sbyte,
   .integer .uint64, .integer .uint32, .integer .uint16, .integer .byte,
   .double, .single, .boolean, .binary, .guid, .duration, .dateTime]

/-- The position of a kind in `all`, by which kinds are ordered. -/
def rank : Kind → Nat
  | .complexType => 0
  | .simpleType => 1
  | .atomicType => 2
  | .listType => 3
  | .string => 4
  | .ignoreCaseString => 5
  | .decimal => 6
  | .integer .int64 => 7
  | .integer .int32 => 8
  | .integer .int16 => 9
  | .integer .sbyte => 10
  | .integer .uint64 => 11
  | .integer .uint32 => 12
  | .integer .uint16 => 13
  | .integer .byte => 14
  | .double => 15
  | .single => 16
  | .boolean => 17
  | .binary => 18
  | .guid => 19
  | .duration => 20
  | .dateTime => 21

/-- The name of the built-in type of a kind. -/
def name : Kind → String
  | .complexType => "ComplexType"
  | .simpleType => "SimpleType"
  | .atomicType => "AtomicType"
  | .listType => "ListType"
  | .string => "String"
  | .ignoreCaseString => "IgnoreCaseString"
  | .decimal => "Decimal"
  | .integer .int64 => "Int64"
  | .integer .int32 => "Int32"
  | .integer .int16 => "Int16"
  | .integer .sbyte => "SByte"
  | .integer .uint64 => "UInt64"
  | .integer .uint32 => "UInt32"
  | .integer .uint16 => "UInt16"
  | .integer .byte => "Byte"
  | .double => "Double"
  | .single => "Single"
  | .boolean => "Boolean"
  | .binary => "Binary"
  | .guid => "Guid"
  | .duration => "Duration"
  | .dateTime => "DateTime"

/-- The kind whose built-in type has a given name. -/
def ofName? (name : String) : Option Kind :=
  all.find? (·.name == name)

/-- The kind of the base of the built-in type; the two topmost roots have none. -/
def base : Kind → Option Kind
  | .complexType | .simpleType => none
  | .atomicType | .listType => some .simpleType
  | .ignoreCaseString => some .string
  | .integer .int64 | .integer .uint64 => some .decimal
  | .integer .int32 => some (.integer .int64)
  | .integer .int16 => some (.integer .int32)
  | .integer .sbyte => some (.integer .int16)
  | .integer .uint32 => some (.integer .uint64)
  | .integer .uint16 => some (.integer .uint32)
  | .integer .byte => some (.integer .uint16)
  | .single => some .double
  | _ => some .atomicType

/-- Whether types of the kind have attributes and children. -/
def isComplex (k : Kind) : Bool := k == .complexType

/-- Whether types of the kind have simple values. -/
def isSimple (k : Kind) : Bool := !k.isComplex

/-- Whether the kind is a kind of atomic values and not a root. -/
def isAtomic : Kind → Bool
  | .complexType | .simpleType | .atomicType | .listType => false
  | _ => true

/-- Whether values of the kind are lists. -/
def isList (k : Kind) : Bool := k == .listType

/-- Whether the kind is one of the three simple roots, which no declared type derives from
directly. -/
def isSimpleRoot : Kind → Bool
  | .simpleType | .atomicType | .listType => true
  | _ => false

/-- Whether values of the kind are exact numbers. -/
def isDecimalFamily : Kind → Bool
  | .decimal | .integer _ => true
  | _ => false

/-- Whether values of the kind are integers. -/
def isInteger : Kind → Bool
  | .integer _ => true
  | _ => false

/-- Whether values of the kind are floating point numbers. -/
def isDoubleFamily : Kind → Bool
  | .double | .single => true
  | _ => false

/-- Whether values of the kind are texts. -/
def isStringFamily : Kind → Bool
  | .string | .ignoreCaseString => true
  | _ => false

/-- Whether a facet may narrow types of the kind. -/
def admits : Kind → Facet → Bool
  | .string, f | .ignoreCaseString, f => f == .lengthRange || f == .enumeration || f == .pattern
  | .binary, f => f == .lengthRange
  | .listType, f => f == .lengthRange || f == .listItemType
  | .decimal, f =>
    f == .precision || f == .scale || f == .valueRange || f == .enumeration || f == .pattern
  | .integer _, f => f == .precision || f == .valueRange || f == .enumeration || f == .pattern
  | .double, f | .single, f | .duration, f | .dateTime, f =>
    f == .valueRange || f == .enumeration || f == .pattern
  | .boolean, f => f == .pattern
  | .guid, f => f == .enumeration || f == .pattern
  | .complexType, _ | .simpleType, _ | .atomicType, _ => false

theorem mem_all (k : Kind) : k ∈ all := by
  cases k with
  | integer i => cases i <;> decide
  | _ => decide

theorem all_length : all.length = 22 := rfl

theorem ofName?_name (k : Kind) : ofName? k.name = some k := by
  cases k with
  | integer i => cases i <;> decide
  | _ => decide

theorem name_injective {k l : Kind} (h : k.name = l.name) : k = l := by
  have hk := ofName?_name k
  rw [h, ofName?_name l] at hk
  exact (Option.some.inj hk).symm

end Kind

end Schemata
