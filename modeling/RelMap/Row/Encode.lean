import RelMap.Row.Coerce
import RelMap.Row.Plan

/-!
# Encoding records

A record becomes the values of its table's columns, in column order. A foreign key contributes the
key of the record or reference it holds, or a bare key.
-/

namespace RelMap

def FieldValue.typeName : FieldValue → String
  | null => "null"
  | scalar value => value.typeName
  | enum _ => "enum"
  | record _ _ => "record"
  | reference _ => "reference"

/-- The values that a converter splits a field value into, as many as it has columns. -/
def Converter.encode (converter : Converter) (value : FieldValue) (path : String) :
    Except MappingError (List SqlValue) :=
  match converter.toColumns value with
  | .error reason => .error (.converter path reason)
  | .ok values =>
    if values.length = converter.columns.length then .ok values
    else
      .error (.converter path ("produced " ++ natText values.length ++ " value(s), expected " ++
        natText converter.columns.length))

def Reference.keyValues (r : Reference) (width : Nat) : List SqlValue :=
  r.key.getD (List.replicate width .null)

def Entity.checkArity (e : Entity) (values : List FieldValue) : Except UsageError Unit :=
  if values.length = e.fields.length then .ok ()
  else .error (.recordWidth e.name values.length e.fields.length)

instance : MonadLift (Except UsageError) (Except Error) := ⟨fun x => x.mapError .usage⟩

namespace Encode

def plainField (f : Field) (value : FieldValue) (path : String) : Except Error (List SqlValue) :=
  let mismatch (expected : String) : Except Error (List SqlValue) :=
    .error (.mapping (.typeMismatch path expected value.typeName))
  match f, value with
  | .scalar _ (.enum type), .enum variant => return [← type.encode variant path]
  | .scalar _ _, .scalar value => .ok [value]
  | .scalar _ typ, _ => mismatch typ.display
  | .converted _ converter, value => converter.encode value path
  | .inline _ target _, _ => mismatch target.name
  | .foreignKey _ target _ _, value => keyOf target.name value
  | .ref _ target _, value => keyOf target value
where
  keyOf (target : EntityName) : FieldValue → Except Error (List SqlValue)
    | .reference r => .ok (r.keyValues f.width)
    | .scalar key => .ok [key]
    | value => .error (.mapping (.typeMismatch path target value.typeName))

mutual

def field (s : Schema) (f : Field) (path : String) : FieldValue → Except Error (List SqlValue)
  | .null => .ok (List.replicate f.width .null)
  | .record handle content =>
    match f with
    | .inline _ _ _ => record s content
    | .foreignKey _ _ _ _ | .ref _ _ _ => key s content
    | f => plainField f (.record handle content) path
  | value => plainField f value path
termination_by structural value => value

def record (s : Schema) : Record → Except Error (List SqlValue)
  | ⟨entity, values⟩ => do
    let e ← s.entity entity
    e.checkArity values
    fields s e.name e.fields values
termination_by structural r => r

def fields (s : Schema) (entity : EntityName) (fs : List Field) :
    List FieldValue → Except Error (List SqlValue)
  | [] => .ok []
  | value :: values =>
    match fs with
    | [] => .ok []
    | f :: fs => do
      let first ← field s f s!"{entity}.{f.name}" value
      return first ++ (← fields s entity fs values)
termination_by structural values => values

def key (s : Schema) : Record → Except Error (List SqlValue)
  | ⟨entity, values⟩ => do
    let e ← s.entity entity
    match e.keyFieldIndex?, e.keyField? with
    | some index, some f => nth s f s!"{e.name}.{f.name}" index values
    | _, _ => throw (.schema (.missingPrimaryKey e.name))
termination_by structural r => r

def nth (s : Schema) (f : Field) (path : String) (index : Nat) :
    List FieldValue → Except Error (List SqlValue)
  | [] => .ok (List.replicate f.width .null)
  | value :: values =>
    match index with
    | 0 => field s f path value
    | index + 1 => nth s f path index values
termination_by structural values => values

end

end Encode

namespace Schema

def encodeRecord (s : Schema) (r : Record) : Except Error (List SqlValue) := Encode.record s r

/-- The values for the columns of one field; `path` names the field in errors. -/
def encodeField (s : Schema) (f : Field) (value : FieldValue) (path : String) :
    Except Error (List SqlValue) := Encode.field s f path value

def keyValues (s : Schema) (r : Record) : Except Error (List SqlValue) := Encode.key s r

end Schema

end RelMap
