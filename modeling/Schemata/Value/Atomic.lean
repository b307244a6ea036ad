import Schemata.Kind
import Schemata.Text.Blank
import Schemata.Text.Lowercase
import Schemata.Value.Base64
import Schemata.Value.Decimal
import Schemata.Value.Double
import Schemata.Value.Duration
import Schemata.Value.Guid
import Schemata.Value.Moment

/-!
# Atomic values

A value of one of the atomic kinds. Values of all kinds can be read from a literal, written,
compared for equality and, where the kind is ordered, compared for order.

* `Atomic.read` reads a literal as a value of a kind; blanks around it are ignored except in texts.
* `Atomic.equal` is equality of values: case does not matter to an `IgnoreCaseString`, trailing
  zeros not to a decimal, and the offset not to a moment. Values of two kinds are never equal.
* `Atomic.compare?` is the order of values. Integers and decimals share one order, and so do the
  two kinds of floating point numbers.
* `Atomic.fingerprint` is what a value contributes to a hash.
-/

namespace Schemata

/-- A value of an atomic kind. -/
inductive Atomic
  | string (text : String)
  | ignoreCaseString (text : String)
  | decimal (value : Decimal)
  | integer (kind : IntegerKind) (value : Int)
      (inRange : kind.least ≤ value ∧ value ≤ kind.greatest)
  | double (value : Double)
  | single (value : Double)
  | boolean (value : Bool)
  | binary (bytes : List UInt8)
  | guid (value : Guid)
  | duration (value : Duration)
  | dateTime (value : Moment)

/-- One datum that a value contributes to a hash. -/
inductive HashDatum
  | number (n : Int)
  | text (s : String)
  deriving DecidableEq

namespace Atomic

/-- The kind of a value. -/
def kind : Atomic → Kind
  | .string _ => .string
  | .ignoreCaseString _ => .ignoreCaseString
  | .decimal _ => .decimal
  | .integer k _ _ => .integer k
  | .double _ => .double
  | .single _ => .single
  | .boolean _ => .boolean
  | .binary _ => .binary
  | .guid _ => .guid
  | .duration _ => .duration
  | .dateTime _ => .dateTime

theorem kind_isAtomic (v : Atomic) : v.kind.isAtomic := by
  cases v <;> rfl

/-! ## Reading -/

/-- The value of an integer, if its kind has room for it. -/
def ofInt? (k : IntegerKind) (n : Int) : Option Atomic :=
  if h : k.least ≤ n ∧ n ≤ k.greatest then some (.integer k n h) else none

/-- Read an integer: digits after an optional plus, or a minus if the kind is signed. -/
def readInteger (k : IntegerKind) (cs : List Char) : Option Atomic :=
  match cs with
  | '+' :: ds => (Text.natural? ds).bind fun n => ofInt? k n
  | '-' :: ds =>
    if k.isSigned then (Text.natural? ds).bind fun n => ofInt? k (-(n : Int)) else none
  | ds => (Text.natural? ds).bind fun n => ofInt? k n

/-- Read one of the two words for a truth value. -/
def readBoolean (cs : List Char) : Option Atomic :=
  match String.ofList cs with
  | "true" => some (.boolean true)
  | "false" => some (.boolean false)
  | _ => none

/-- Read a literal as a value of a kind. The roots have no values. -/
def read (k : Kind) (literal : String) : Reading Atomic :=
  let cs := Text.trim literal.toList
  match k with
  | .string => .ok (some (.string literal))
  | .ignoreCaseString => .ok (some (.ignoreCaseString literal))
  | .decimal => .ok ((Decimal.read? cs).map decimal)
  | .integer i => .ok (readInteger i cs)
  | .double => .ok ((Double.read? cs).map double)
  | .single => .ok ((Double.read? cs).map fun x => single x.toSingle)
  | .boolean => .ok (readBoolean cs)
  | .binary => .ok ((Base64.decode? cs).map binary)
  | .guid => .ok ((Guid.read? cs).map guid)
  | .duration => (Duration.read cs).map (·.map duration)
  | .dateTime => .ok ((Moment.read? cs).map dateTime)
  | .complexType | .simpleType | .atomicType | .listType => .ok none

/-! ## Views -/

theorem natAbs_lt_of_inRange {k : IntegerKind} {n : Int} (h : k.least ≤ n ∧ n ≤ k.greatest) :
    n.natAbs < 1 <<< 96 := by
  cases k <;> simp [IntegerKind.least, IntegerKind.greatest, IntegerKind.isSigned,
    IntegerKind.bits] at h <;> omega

/-- The exact number that an integer or a decimal is. -/
def asDecimal? : Atomic → Option Decimal
  | .decimal d => some d
  | .integer _ n h => some (.ofInt n (natAbs_lt_of_inRange h))
  | _ => none

/-- The floating point number that a value is. -/
def asDouble? : Atomic → Option Double
  | .double x | .single x => some x
  | _ => none

/-- The length that a length range is about: characters of a text, bytes of a binary value. -/
def length? : Atomic → Option Nat
  | .string s | .ignoreCaseString s => some s.length
  | .binary bytes => some bytes.length
  | _ => none

/-- The digits that an exact number needs, in all and after the point. -/
def digits? (v : Atomic) : Option (Nat × Nat) :=
  v.asDecimal?.map Decimal.digits

/-- The written form. -/
def text : Atomic → String
  | .string s | .ignoreCaseString s => s
  | .decimal d => String.ofList d.text
  | .integer _ n _ => toString n
  | .double x | .single x => String.ofList x.text
  | .boolean b => if b then "true" else "false"
  | .binary bytes => String.ofList (Base64.encode bytes)
  | .guid g => String.ofList g.text
  | .duration d => String.ofList d.text
  | .dateTime m => String.ofList m.text

/-! ## Comparison -/

/-- Whether two values are equal. -/
def equal : Atomic → Atomic → Bool
  | .string a, .string b => a == b
  | .ignoreCaseString a, .ignoreCaseString b => Text.lowercase a == Text.lowercase b
  | .decimal a, .decimal b => a.equal b
  | .integer k a _, .integer l b _ => k == l && a == b
  | .double a, .double b | .single a, .single b => a.equal b
  | .boolean a, .boolean b => a == b
  | .binary a, .binary b => a == b
  | .guid a, .guid b => a == b
  | .duration a, .duration b => a == b
  | .dateTime a, .dateTime b => a.equal b
  | _, _ => false

/-- The order of two texts, by code points. -/
def compareText (a b : String) : Ordering :=
  if a < b then .lt else if a == b then .eq else .gt

/-- The order of two values of one ordered family. -/
def compare? (a b : Atomic) : Option Ordering :=
  match a.asDecimal?, b.asDecimal? with
  | some x, some y => some (x.compare y)
  | _, _ =>
    match a.asDouble?, b.asDouble? with
    | some x, some y => x.compare? y
    | _, _ =>
      match a, b with
      | .string x, .string y => some (compareText x y)
      | .ignoreCaseString x, .ignoreCaseString y =>
        some (compareText (Text.lowercase x) (Text.lowercase y))
      | .duration x, .duration y => some (compare x.nanoseconds y.nanoseconds)
      | .dateTime x, .dateTime y => some (x.compare y)
      | _, _ => none

/-- What a floating point number contributes to a hash: its place in the order, and zero for
both zeros. -/
def doubleData (x : Double) : List HashDatum :=
  match x.rank? with
  | none => [.text "nan"]
  | some r => [.number r]

/-- What a value contributes to a hash: its kind, and the part of it that equality looks at. -/
def fingerprint (v : Atomic) : List HashDatum :=
  .number v.kind.rank ::
    match v with
    | .string s => [.text s]
    | .ignoreCaseString s => [.text (Text.lowercase s)]
    | .decimal d => [.number d.normal.1, .number d.normal.2]
    | .integer _ n _ => [.number n]
    | .double x | .single x => doubleData x
    | .boolean b => [.number (if b then 1 else 0)]
    | .binary bytes => .number bytes.length :: bytes.map fun b => .number b.toNat
    | .guid g => g.digits.map fun d => .number d.val
    | .duration d => [.number d.nanoseconds]
    | .dateTime m => [.number m.instant.1, .number m.instant.2]

end Atomic

end Schemata
