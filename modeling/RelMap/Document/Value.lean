import RelMap.Document.Basic
import RelMap.Value.SqlValue

/-!
# Column values as documents

A value is tagged with its type. Integers have to be in the range of their type, bytes are written
as a list of numbers, and dates, timestamps and identifiers as texts.
-/

namespace RelMap

namespace SqlValue

open Document

def toDocument : SqlValue → Document
  | null => .string "Null"
  | boolean value => tagged "Boolean" (.bool value)
  | int value => tagged "Int" (.integer value.toInt)
  | bigInt value => tagged "BigInt" (.integer value.toInt)
  | double value => tagged "Double" (.decimal value)
  | text value => tagged "Text" (.string value)
  | date value => tagged "Date" (.string value.text)
  | timestamp value => tagged "Timestamp" (.string (value.textWith "T"))
  | uuid value => tagged "Uuid" (.string value.text)
  | bytes value => tagged "Bytes" (.array (value.map fun b => .integer b.toNat))

/-- A whole number from `low` up to but not including `high`. -/
def integerIn? (low high : Int) : Document → Option Int
  | .integer value => if low ≤ value ∧ value < high then some value else none
  | _ => none

def double? : Document → Option Double
  | .integer value => some (.ofInt value)
  | .decimal value => some value
  | _ => none

def bytes? : Document → Option (List UInt8)
  | .array items => items.mapM fun d => (integerIn? 0 256 d).map fun n => UInt8.ofNat n.toNat
  | _ => none

def ofDocument? (d : Document) : Option SqlValue := do
  match ← d.tagged? with
  | ("Null", none) => return null
  | (_, none) => none
  | (tag, some body) =>
    match tag with
    | "Boolean" => boolean <$> body.bool?
    | "Int" => (integerIn? (-0x80000000) 0x80000000 body).map fun n => int (Int32.ofInt n)
    | "BigInt" =>
      (integerIn? (-0x8000000000000000) 0x8000000000000000 body).map fun n => bigInt (Int64.ofInt n)
    | "Double" => double <$> double? body
    | "Text" => text <$> body.string?
    | "Date" => date <$> (body.string?.bind Date.parse?)
    | "Timestamp" => timestamp <$> (body.string?.bind Timestamp.parse?)
    | "Uuid" => uuid <$> (body.string?.bind Uuid.parse?)
    | "Bytes" => bytes <$> bytes? body
    | _ => none

end SqlValue

end RelMap
