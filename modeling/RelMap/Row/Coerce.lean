import RelMap.Schema.ScalarType
import RelMap.Text.Blank
import RelMap.Value.Record

/-!
# Coercion

Raw column values become field values of a declared type: integers widen and narrow where they fit,
dates and timestamps turn into each other, texts are read as identifiers, and enums are read in
their encoding. Enum variants go back to raw values by `EnumType.encode`.
-/

namespace RelMap

open Text

namespace EnumType

def variantAt? (type : EnumType) (position : Int) : Option String :=
  if position < 0 then none else type.variants[position.toNat]?

/-- A position as a numeral: digits behind an optional plus sign, blanks around them. -/
def readOrdinal? (text : String) : Option Nat :=
  let digits := match trimBlanks text.toList with
    | '+' :: digits => digits
    | digits => digits
  if digits ≠ [] ∧ digits.all Char.isDigit then some (digitsValue digits) else none

def decode (type : EnumType) (value : SqlValue) (path : String) : Except MappingError String :=
  let orInvalid (text : String) : Option String → Except MappingError String
    | some variant => .ok variant
    | none => .error (.invalidEnum path type.name text)
  match type.encoding, value with
  | .name, .text name => orInvalid name (if name ∈ type.variants then some name else none)
  | .ordinal, .text ordinal =>
    orInvalid ordinal ((readOrdinal? ordinal).bind (type.variants[·]?))
  | .ordinal, .int ordinal => orInvalid value.display (type.variantAt? ordinal.toInt)
  | .ordinal, .bigInt ordinal => orInvalid value.display (type.variantAt? ordinal.toInt)
  | _, value => .error (.typeMismatch path (ScalarType.enum type).display value.typeName)

def encode (type : EnumType) (variant path : String) : Except MappingError SqlValue :=
  match type.variants.idxOf? variant with
  | none => .error (.invalidEnum path type.name variant)
  | some position =>
    match type.encoding with
    | .name => .ok (.text variant)
    | .ordinal => .ok (.text (natText position))

end EnumType

namespace SqlValue

def ofType? : ScalarType → SqlValue → Option SqlValue
  | .boolean, boolean value => some (boolean value)
  | .boolean, int value =>
    if value.toInt = 0 ∨ value.toInt = 1 then some (boolean (value.toInt = 1)) else none
  | .boolean, bigInt value =>
    if value.toInt = 0 ∨ value.toInt = 1 then some (boolean (value.toInt = 1)) else none
  | .int, int value => some (int value)
  | .int, bigInt value =>
    if -0x80000000 ≤ value.toInt ∧ value.toInt < 0x80000000 then
      some (int (Int32.ofInt value.toInt))
    else none
  | .bigInt, int value => some (bigInt (Int64.ofInt value.toInt))
  | .bigInt, bigInt value => some (bigInt value)
  | .double, double value => some (double value)
  | .double, int value => some (double (.ofInt value.toInt))
  | .double, bigInt value => some (double (.ofInt value.toInt))
  | .text, text value => some (text value)
  | .date, date value => some (date value)
  | .date, timestamp value => some (date value.date)
  | .timestamp, timestamp value => some (timestamp value)
  | .timestamp, date value => some (timestamp (.ofDate value))
  | .uuid, uuid value => some (uuid value)
  | .uuid, text value => (Uuid.parse? value).map uuid
  | .bytes, bytes value => some (bytes value)
  | _, _ => none

end SqlValue

/-- The field value of a raw value other than NULL; `path` names the field in errors. -/
def coerce (value : SqlValue) (typ : ScalarType) (path : String) :
    Except MappingError FieldValue :=
  match typ with
  | .enum type => (type.decode value path).map .enum
  | typ =>
    match value.ofType? typ with
    | some scalar => .ok (.scalar scalar)
    | none => .error (.typeMismatch path typ.display value.typeName)

end RelMap
