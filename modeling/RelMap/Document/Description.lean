import RelMap.Document.Words
import RelMap.Statement.Compile

/-!
# Descriptions as documents

Schema descriptions and compile options are written out with all their fields, and read back with
defaults for what is missing. The naming strategy, converters and observers are code and stay out.
-/

namespace RelMap

open Document

instance : Enumeration Safety where
  values := [.safe, .missingWhere]
  word
    | .safe => "Safe"
    | .missingWhere => "MissingWhere"

/-- The scalar types that need no more than a word. -/
def ScalarType.words : List (String × ScalarType) :=
  [("Boolean", .boolean), ("Int", .int), ("BigInt", .bigInt), ("Double", .double), ("Text", .text),
    ("Date", .date), ("Timestamp", .timestamp), ("Uuid", .uuid), ("Bytes", .bytes)]

def EnumType.toDocument (type : EnumType) : Document :=
  object [("name", string type.name), ("variants", ofStrings type.variants),
    ("encoding", word type.encoding)]

def EnumType.ofDocument? (d : Document) : Option EnumType := do
  match ← d.members? ["name", "variants", "encoding"] with
  | [name, variants, encoding] =>
    return {
      name := ← required string? name
      variants := ← required strings? variants
      encoding := ← optional enumerated? .name encoding }
  | _ => none

def ScalarType.toDocument : ScalarType → Document
  | boolean => string "Boolean"
  | int => string "Int"
  | bigInt => string "BigInt"
  | double => string "Double"
  | text => string "Text"
  | date => string "Date"
  | timestamp => string "Timestamp"
  | uuid => string "Uuid"
  | bytes => string "Bytes"
  | enum type => tagged "Enum" type.toDocument

def ScalarType.ofDocument? (d : Document) : Option ScalarType := do
  match ← d.tagged? with
  | (tag, none) => ScalarType.words.lookup tag
  | (tag, some body) => if tag = "Enum" then (EnumType.ofDocument? body).map enum else none

def FieldType.toDocument : FieldType → Document
  | scalar typ => tagged "Scalar" typ.toDocument
  | composite entity => tagged "Composite" (string entity)
  | ref entity => tagged "Ref" (string entity)
  | converted converter => tagged "Converted" (string converter)

def FieldType.ofDocument? : Document → Option FieldType
  | object [("Scalar", body)] => (ScalarType.ofDocument? body).map scalar
  | object [("Composite", string entity)] => some (composite entity)
  | object [("Ref", string entity)] => some (ref entity)
  | object [("Converted", string converter)] => some (converted converter)
  | _ => none

def FieldSpec.toDocument (f : FieldSpec) : Document :=
  object [("name", string f.name), ("typ", f.typ.toDocument), ("primary_key", bool f.primaryKey),
    ("foreign_key", bool f.foreignKey), ("nullable", bool f.nullable),
    ("auto_generated", bool f.autoGenerated), ("insertable", bool f.insertable),
    ("updatable", bool f.updatable), ("columns", ofStrings f.columns)]

def FieldSpec.ofDocument? (d : Document) : Option FieldSpec := do
  match ← d.members? ["name", "typ", "primary_key", "foreign_key", "nullable", "auto_generated",
      "insertable", "updatable", "columns"] with
  | [name, typ, primaryKey, foreignKey, nullable, autoGenerated, insertable, updatable, columns] =>
    return {
      name := ← required string? name
      typ := ← required FieldType.ofDocument? typ
      primaryKey := ← optional bool? false primaryKey
      foreignKey := ← optional bool? false foreignKey
      nullable := ← optional bool? false nullable
      autoGenerated := ← optional bool? false autoGenerated
      insertable := ← optional bool? true insertable
      updatable := ← optional bool? true updatable
      columns := ← optional strings? [] columns }
  | _ => none

def EntitySpec.toDocument (e : EntitySpec) : Document :=
  object [("name", string e.name), ("kind", word e.kind),
    ("table", match e.table with
      | some table => string table
      | none => null),
    ("fields", array (e.fields.map FieldSpec.toDocument))]

def FieldSpec.listOfDocument? : Document → Option (List FieldSpec)
  | array items => items.mapM FieldSpec.ofDocument?
  | _ => none

def EntitySpec.ofDocument? (d : Document) : Option EntitySpec := do
  match ← d.members? ["name", "kind", "table", "fields"] with
  | [name, kind, table, fields] =>
    return {
      name := ← required string? name
      kind := ← optional enumerated? .table kind
      table := ← optional optionalString? none table
      fields := ← required FieldSpec.listOfDocument? fields }
  | _ => none

def EntitySpec.listOfDocument? : Document → Option (List EntitySpec)
  | array items => items.mapM EntitySpec.ofDocument?
  | _ => none

def SchemaSpec.toDocument (spec : SchemaSpec) : Document :=
  object [("entities", array (spec.entities.map EntitySpec.toDocument))]

def SchemaSpec.ofDocument? (d : Document) : Option SchemaSpec := do
  match ← d.members? ["entities"] with
  | [entities] => return { entities := ← required EntitySpec.listOfDocument? entities }
  | _ => none

def CompileOptions.toDocument (options : CompileOptions) : Document :=
  object [("dialect", word options.dialect),
    ("reject_unsafe_statements", bool options.rejectUnsafe)]

def CompileOptions.ofDocument? (d : Document) : Option CompileOptions := do
  match ← d.members? ["dialect", "reject_unsafe_statements"] with
  | [dialect, rejectUnsafe] =>
    return {
      dialect := ← optional enumerated? .ansi dialect
      rejectUnsafe := ← optional bool? false rejectUnsafe }
  | _ => none

end RelMap
