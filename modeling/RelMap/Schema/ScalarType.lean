/-!
# Scalar types

The types of single columns. An enum is stored by the names of its variants or by their positions.
-/

namespace RelMap

inductive EnumEncoding where
  | name
  /-- The zero-based position of the variant, as a numeral. -/
  | ordinal
deriving DecidableEq, Repr

structure EnumType where
  name : String
  variants : List String
  encoding : EnumEncoding := .name
deriving DecidableEq, Repr

inductive ScalarType where
  | boolean
  | int
  | bigInt
  | double
  | text
  | date
  | timestamp
  | uuid
  | bytes
  | enum (type : EnumType)
deriving DecidableEq, Repr

def ScalarType.display : ScalarType → String
  | boolean => "boolean"
  | int => "int"
  | bigInt => "bigint"
  | double => "double"
  | text => "text"
  | date => "date"
  | timestamp => "timestamp"
  | uuid => "uuid"
  | bytes => "bytes"
  | enum type => "enum " ++ type.name

end RelMap
