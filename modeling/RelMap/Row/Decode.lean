import RelMap.Row.Coerce
import RelMap.Row.Interner
import RelMap.Row.Plan

/-!
# Decoding rows

A flat row becomes a record by the row plan of its entity and select mode, or a reference by its key
slots alone. Nested records pass through an intern table; the record of the row itself does not.
-/

namespace RelMap

/-- What decoding keeps from row to row. -/
structure DecodeState where
  interner : Interner := {}
  /-- The next cell for references, if there is a fetcher to fill it. -/
  nextCell : Option Nat := none

/-- What was interned before a failure stays interned. -/
abbrev Decoding := ExceptT MappingError (StateM DecodeState)

namespace Decode

def intern (r : Record) : Decoding SharedRecord :=
  modifyGet fun state =>
    let (shared, interner) := state.interner.intern r
    (shared, { state with interner })

/-- A reference with a cell of its own, if there is a fetcher. -/
def newReference (target : EntityName) (key : List SqlValue) : Decoding Reference :=
  modifyGet fun state =>
    match state.nextCell with
    | none => (⟨target, some key, .unavailable⟩, state)
    | some cell => (⟨target, some key, .pending cell⟩, { state with nextCell := some (cell + 1) })

/-- One value of a reference's key. Enums are kept by the names of their variants. -/
def keyValue (value : SqlValue) (typ : ScalarType) (path : String) :
    Except MappingError SqlValue := do
  if value.isNull then throw (.nullValue path)
  match ← coerce value typ path with
  | .scalar value => return value
  | .enum variant => return .text variant
  | _ => throw (.typeMismatch path typ.display value.typeName)

def keyValues (path : String) :
    List SqlValue → List ScalarType → Except MappingError (List SqlValue)
  | value :: values, typ :: types => do
    let first ← keyValue value typ path
    return first :: (← keyValues path values types)
  | _, _ => .ok []

/-- A reference made of key slots; all of them NULL makes a null reference where one is allowed. -/
def reference (slots : List SqlValue) (target : EntityName) (types : List ScalarType)
    (nullable : Bool) (path : String) : Decoding Reference := do
  if slots.all (·.isNull) then
    if nullable then return .null target else throw (.nullValue path)
  newReference target (← ExceptT.mk (pure (keyValues path slots types)))

def scalar (value : SqlValue) (typ : ScalarType) (nullable : Bool) (path : String) :
    Except MappingError FieldValue :=
  if value.isNull then if nullable then .ok .null else .error (.nullValue path)
  else coerce value typ path

def converted (slots : List SqlValue) (converter : Converter) (nullable : Bool) (path : String) :
    Except MappingError FieldValue :=
  match converter.fromColumns slots with
  | .error reason => .error (.converter path reason)
  | .ok value => if value.isNull && !nullable then .error (.nullValue path) else .ok value

mutual

def field [b : Bounds] (slots : List SqlValue) (path : String) : FieldPlan → Decoding FieldValue
  | .scalar _ typ nullable =>
    ExceptT.mk (pure do scalar (← Bounds.item b.mapping slots 0 .null) typ nullable path)
  | .converted _ converter nullable =>
    ExceptT.mk (pure (converted slots converter nullable path))
  | .composite _ entity inner nullable => do
    if nullable && slots.all (·.isNull) then return .null
    let values ← fields slots path inner
    let shared ← intern ⟨entity, values⟩
    return .record shared.handle shared.content
  | .ref _ target key nullable => return .reference (← reference slots target key nullable path)
termination_by structural p => p

def fields [b : Bounds] (slots : List SqlValue) (path : String) :
    List FieldPlan → Decoding (List FieldValue)
  | [] => return []
  | p :: rest => do
    let own ← ExceptT.mk (pure (Bounds.front b.mapping slots p.width))
    let first ← field own s!"{path}.{p.name}" p
    return first :: (← fields (slots.drop p.width) path rest)
termination_by structural ps => ps

end

def checkedPlan (e : Entity) (mode : SelectMode) (row : List SqlValue) : Except Error RowPlan := do
  let plan ← RowPlan.ofEntity e mode
  if row.length ≠ plan.width then
    throw (.mapping (.columnCount e.name plan.width row.length))
  return plan

end Decode

abbrev RowDecoding := ExceptT Error (StateM DecodeState)

def Decoding.toRow {α : Type} (x : Decoding α) : RowDecoding α :=
  ExceptT.mk do return (← x.run).mapError .mapping

namespace Schema

def mapRow [b : Bounds] (s : Schema) (row : List SqlValue) (entity : EntityName)
    (mode : SelectMode) : RowDecoding Record := do
  if mode = .pk then throw (.usage .keyRow)
  let e ← ExceptT.mk (pure ((s.entity entity).mapError .schema))
  let plan ← ExceptT.mk (pure (Decode.checkedPlan e mode row))
  return ⟨e.name, ← (Decode.fields row e.name plan.fields).toRow⟩

def mapRef [b : Bounds] (s : Schema) (row : List SqlValue) (entity : EntityName)
    (mode : SelectMode) : RowDecoding Reference := do
  let e ← ExceptT.mk (pure ((s.entity entity).mapError .schema))
  let plan ← ExceptT.mk (pure (Decode.checkedPlan e mode row))
  match plan.keySlots? e, e.keyField? with
  | some (_, slots), some key =>
    let columns ← ExceptT.mk (pure ((s.keyColumns e).mapError .schema))
    let own ← ExceptT.mk (pure ((slots.access b.mapping row).mapError .mapping))
    (Decode.reference own e.name (columns.map (·.typ)) false s!"{e.name}.{key.name}").toRow
  | _, _ => throw (.schema (.missingPrimaryKey e.name))

end Schema

end RelMap
