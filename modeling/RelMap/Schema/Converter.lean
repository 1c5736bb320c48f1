import RelMap.Schema.ScalarType
import RelMap.Value.Record

/-!
# Converters

A converter maps one field value to a fixed number of columns and back.
-/

namespace RelMap

/-- A column of a converter. Its suffix is appended to the field's column name, unless it is
empty. -/
structure ConvertedColumn where
  suffix : String
  typ : ScalarType
deriving DecidableEq, Repr

structure Converter where
  columns : List ConvertedColumn
  /-- The field value of as many raw values as there are columns. -/
  fromColumns : List SqlValue → Except String FieldValue
  toColumns : FieldValue → Except String (List SqlValue)

end RelMap
