import RelMap.Schema.Converter
import RelMap.Schema.Naming

/-!
# Schema descriptions

What a user declares: entities with their fields, the naming strategy and the converters. Entities
and converters are referred to by name.
-/

namespace RelMap

inductive EntityKind where
  /-- Backed by a table, with exactly one primary key field. -/
  | table
  /-- A view or other column set; the primary key is optional. -/
  | projection
  /-- Embedded into the entities that use it, without a table of its own. -/
  | inline
deriving DecidableEq, Repr

inductive FieldType where
  | scalar (typ : ScalarType)
  /-- Another entity: embedded if it is inline, else linked through a foreign key. -/
  | composite (entity : EntityName)
  /-- A deferred reference to another entity. -/
  | ref (entity : EntityName)
  | converted (converter : String)
deriving DecidableEq, Repr

structure FieldSpec where
  name : String
  typ : FieldType
  primaryKey : Bool := false
  foreignKey : Bool := false
  nullable : Bool := false
  autoGenerated : Bool := false
  insertable : Bool := true
  updatable : Bool := true
  /-- Explicit column names in place of the derived ones. -/
  columns : List String := []
deriving DecidableEq, Repr

structure EntitySpec where
  name : EntityName
  kind : EntityKind := .table
  /-- An explicit table name in place of the derived one. -/
  table : Option String := none
  fields : List FieldSpec
deriving DecidableEq, Repr

structure SchemaSpec where
  entities : List EntitySpec
  naming : NamingStrategy := {}
  converters : List (String × Converter) := []

namespace FieldSpec

def scalar (name : String) (typ : ScalarType) : FieldSpec := { name, typ := .scalar typ }

def composite (name : String) (entity : EntityName) : FieldSpec :=
  { name, typ := .composite entity }

/-- A composite linked through a foreign key. -/
def linked (name : String) (entity : EntityName) : FieldSpec :=
  { composite name entity with foreignKey := true }

def reference (name : String) (entity : EntityName) : FieldSpec :=
  { name, typ := .ref entity, foreignKey := true }

def converted (name : String) (converter : String) : FieldSpec :=
  { name, typ := .converted converter }

def asPrimaryKey (f : FieldSpec) : FieldSpec := { f with primaryKey := true }

def asNullable (f : FieldSpec) : FieldSpec := { f with nullable := true }

def asReadOnly (f : FieldSpec) : FieldSpec := { f with insertable := false, updatable := false }

/-- Filled by the database, hence neither inserted nor updated. -/
def asAutoGenerated (f : FieldSpec) : FieldSpec := { f.asReadOnly with autoGenerated := true }

def withColumns (f : FieldSpec) (columns : List String) : FieldSpec := { f with columns }

end FieldSpec

namespace EntitySpec

def ofTable (name : EntityName) (fields : List FieldSpec) : EntitySpec := { name, fields }

def ofProjection (name : EntityName) (fields : List FieldSpec) : EntitySpec :=
  { name, kind := .projection, fields }

def ofInline (name : EntityName) (fields : List FieldSpec) : EntitySpec :=
  { name, kind := .inline, fields }

def withTableName (e : EntitySpec) (table : String) : EntitySpec := { e with table := some table }

end EntitySpec

namespace SchemaSpec

/-- Registers a converter; a later one of the same name takes the place of an earlier one. -/
def withConverter (spec : SchemaSpec) (name : String) (converter : Converter) : SchemaSpec :=
  { spec with converters := spec.converters.filter (·.1 != name) ++ [(name, converter)] }

def converter? (spec : SchemaSpec) (name : String) : Option Converter :=
  match spec.converters.find? (·.1 == name) with
  | some (_, converter) => some converter
  | none => none

def entity? (spec : SchemaSpec) (name : EntityName) : Option EntitySpec :=
  spec.entities.find? (·.name == name)

end SchemaSpec

end RelMap
