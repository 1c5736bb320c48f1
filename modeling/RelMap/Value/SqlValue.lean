import RelMap.Number.Shortest
import RelMap.Value.Calendar
import RelMap.Value.Uuid

/-!
# Column values

A single value as it travels to and from the database. Equality is structural: integers of different
widths differ, and doubles are compared by their bits.
-/

namespace RelMap

inductive SqlValue where
  | null
  | boolean (value : Bool)
  | int (value : Int32)
  | bigInt (value : Int64)
  | double (value : Double)
  | text (value : String)
  | date (value : Date)
  | timestamp (value : Timestamp)
  | uuid (value : Uuid)
  | bytes (value : List UInt8)
deriving DecidableEq, Repr

namespace SqlValue

def isNull : SqlValue → Bool
  | null => true
  | _ => false

def typeName : SqlValue → String
  | null => "null"
  | boolean _ => "boolean"
  | int _ => "int"
  | bigInt _ => "bigint"
  | double _ => "double"
  | text _ => "text"
  | date _ => "date"
  | timestamp _ => "timestamp"
  | uuid _ => "uuid"
  | bytes _ => "bytes"

def intText (n : Int) : String :=
  if n < 0 then "-" ++ String.ofList (Nat.toDigits 10 n.natAbs)
  else String.ofList (Nat.toDigits 10 n.natAbs)

def display : SqlValue → String
  | null => "NULL"
  | boolean value => if value then "true" else "false"
  | int value => intText value.toInt
  | bigInt value => intText value.toInt
  | double value => value.text
  | text value => "'" ++ value ++ "'"
  | date value => value.text
  | timestamp value => value.text
  | uuid value => value.text
  | bytes value => "<" ++ intText value.length ++ " bytes>"

theorem isNull_iff (v : SqlValue) : v.isNull = true ↔ v = null := by
  cases v <;> simp [isNull]

end SqlValue

end RelMap
