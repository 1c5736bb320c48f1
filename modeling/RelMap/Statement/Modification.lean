import RelMap.Row.Encode
import RelMap.Statement.Compilation

/-!
# Inserts, updates and deletes

An insert names the insertable columns and gives a tuple of values per record; an update sets the
updatable columns, never the primary key. Columns that the database generates are left out of both.
Values are given at once, or later through bind variables named like the columns.
-/

namespace RelMap

namespace Column

def isInserted (c : Column) : Bool := c.insertable && !c.autoGenerated

def isUpdated (c : Column) : Bool := c.updatable && !c.primaryKey && !c.autoGenerated

end Column

namespace Modification

open Compiling

def tableAt (e : Entity) (path : String) : Compiling TableName := do
  let (_, o) ← findBinding e.name (some path) .inner
  return ⟨e.table, o.aliasName⟩

def recordSlots (s : Schema) (accepts : Column → Bool) (r : Record) :
    Except Error (List ParamSlot) := do
  let e ← s.entity r.entity
  let values ← s.encodeRecord r
  return (((s.columns e).zip values).filter fun (c, _) => accepts c).map fun (_, v) => .anonymous v

def bindSlots (s : Schema) (accepts : Column → Bool) (e : Entity) : List ParamSlot :=
  ((s.columns e).filter accepts).map fun c => .bindVar c.name

def bindRecordsOf (entity : EntityName) : Compiling Unit :=
  modify fun state => { state with bindEntity := some entity }

def emitInsert (s : Schema) (format : SqlFormat) (entity : EntityName) : Compiling Fragment := do
  let e ← s.entity entity
  let names := ((s.columns e).filter Column.isInserted).map fun c => format.identifier c.name
  return .ofText "INSERT INTO " ++ format.identifier e.table ++ .ofText " " ++
    Fragment.parenthesized (.join ", " names)

def tuple (slots : List ParamSlot) : Fragment :=
  Fragment.parenthesized (.join ", " (slots.map Fragment.ofParam))

/-- The word VALUES with a tuple per record, or one tuple of bind variables. -/
def emitValues (s : Schema) : ValuesClause → Compiling Fragment
  | .records records => do
    if records.isEmpty then throw (.usage .noRecords)
    let tuples ← records.mapM fun r => recordSlots s Column.isInserted r
    return .ofText "VALUES " ++ .join ", " (tuples.map tuple)
  | .bindVars entity => do
    bindRecordsOf entity
    return .ofText "VALUES " ++ tuple (bindSlots s Column.isInserted (← s.entity entity))

def emitUpdate (s : Schema) (format : SqlFormat) (entity : EntityName) : Compiling Fragment := do
  return .ofText "UPDATE " ++ (← tableAt (← s.entity entity) "").render format

/-- The entity of a SET clause with the parameters for its updatable columns. -/
def assignments (s : Schema) : SetClause → Compiling (EntityName × List ParamSlot)
  | .record r => return (r.entity, ← recordSlots s Column.isUpdated r)
  | .bindVars entity => do
    bindRecordsOf entity
    return (entity, bindSlots s Column.isUpdated (← s.entity entity))

def emitSet (s : Schema) (format : SqlFormat) (clause : SetClause) : Compiling Fragment := do
  let (entity, slots) ← assignments s clause
  let columns := (s.columns (← s.entity entity)).filter Column.isUpdated
  let unqualified := { format with qualifyColumns := false }
  match columns.zip slots with
  | [] => throw (.usage (.noUpdatableColumns entity))
  | pairs =>
    return .ofText "SET " ++ .join ", " (pairs.map fun (c, slot) =>
      unqualified.column "" c.name ++ .ofText " = " ++ .ofParam slot)

def emitDelete (s : Schema) (format : SqlFormat) (entity : EntityName) : Compiling Fragment := do
  return .ofText "DELETE FROM " ++ (← tableAt (← s.entity entity) "").render format

end Modification

end RelMap
