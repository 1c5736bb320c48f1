import RelMap.Bounds
import RelMap.Schema.Spec

/-!
# Entities

An entity is a tree: a composite field holds the fields of its target, so functions on entities are
structural recursions. References are leaves, since they are never expanded. The columns of an
entity are laid out by walking its fields in order, flattening inline composites.
-/

namespace RelMap

structure FieldInfo where
  name : String
  primaryKey : Bool := false
  nullable : Bool := false
  autoGenerated : Bool := false
  insertable : Bool := true
  updatable : Bool := true
  /-- Explicit column names. -/
  columnNames : List String := []
deriving DecidableEq, Repr

structure EntityInfo where
  name : EntityName
  table : String
  kind : EntityKind
deriving DecidableEq, Repr

/-- The single key column that a foreign key refers to. -/
structure KeyColumn where
  name : String
  typ : ScalarType
deriving DecidableEq, Repr

inductive Field where
  | scalar (info : FieldInfo) (typ : ScalarType)
  /-- An embedded composite, whose columns live in the host's table. -/
  | inline (info : FieldInfo) (target : EntityInfo) (fields : List Field)
  /-- A composite linked through a foreign key; its own column is the target's key. -/
  | foreignKey (info : FieldInfo) (target : EntityInfo) (key : KeyColumn) (fields : List Field)
  /-- A deferred reference; its own column is the target's key. -/
  | ref (info : FieldInfo) (target : EntityName) (key : KeyColumn)
  | converted (info : FieldInfo) (converter : Converter)

structure Entity extends EntityInfo where
  fields : List Field

structure Column where
  name : String
  typ : ScalarType
  nullable : Bool
  primaryKey : Bool
  foreignKey : Bool
  autoGenerated : Bool
  insertable : Bool
  updatable : Bool
  /-- The dot-separated path of the field it belongs to, through inline composites. -/
  fieldPath : String
deriving DecidableEq, Repr

/-- The columns from `start` up to but not including `stop`. -/
structure Span where
  start : Nat
  stop : Nat
deriving DecidableEq, Repr

namespace Span

def width (s : Span) : Nat := s.stop - s.start

def shift (s : Span) (offset : Nat) : Span := ⟨s.start + offset, s.stop + offset⟩

def slice {α : Type} (s : Span) (items : List α) : List α := (items.drop s.start).take s.width

def Within {α : Type} (s : Span) (items : List α) : Prop := s.start ≤ s.stop ∧ s.stop ≤ items.length

instance {α : Type} (s : Span) (items : List α) : Decidable (s.Within items) :=
  inferInstanceAs (Decidable (_ ∧ _))

/-- The items of a span, which is to lie in the list. -/
def access {ε α : Type} (breach : Option ε) (s : Span) (items : List α) : Except ε (List α) :=
  Bounds.access breach (s.Within items) (s.slice items)

end Span

namespace Field

def info : Field → FieldInfo
  | scalar info _ | inline info _ _ | foreignKey info _ _ _ | ref info _ _
  | converted info _ => info

def name (f : Field) : String := f.info.name

def target? : Field → Option EntityName
  | inline _ target _ | foreignKey _ target _ _ => some target.name
  | ref _ target _ => some target
  | scalar _ _ | converted _ _ => none

/-- Whether the field is stored as the key of another entity. -/
def isForeignKey : Field → Bool
  | foreignKey _ _ _ _ | ref _ _ _ => true
  | _ => false

mutual

def width : Field → Nat
  | scalar _ _ => 1
  | inline _ _ fields => widths fields
  | foreignKey _ _ _ _ => 1
  | ref _ _ _ => 1
  | converted _ converter => converter.columns.length
termination_by structural f => f

def widths : List Field → Nat
  | [] => 0
  | f :: rest => f.width + widths rest
termination_by structural fs => fs

end

/-- Each field with the span of its columns, the first column being number `start`. -/
def spansFrom (start : Nat) : List Field → List (Field × Span)
  | [] => []
  | f :: rest => (f, ⟨start, start + f.width⟩) :: spansFrom (start + f.width) rest

end Field

/-! ## Column layout -/

/-- Flags and names that a field takes over from the inline composites around it. -/
structure Enclosing where
  segments : List String := []
  path : List String := []
  nullable : Bool := false
  primaryKey : Bool := false
  autoGenerated : Bool := false
  readOnly : Bool := false
deriving DecidableEq, Repr

namespace Enclosing

/-- What the fields of an inline composite take over; an explicit column name of the composite
replaces all name segments around it. -/
def enter (e : Enclosing) (info : FieldInfo) : Enclosing where
  segments := match info.columnNames with
    | explicit :: _ => [explicit]
    | [] => e.segments ++ [info.name]
  path := e.path ++ [info.name]
  nullable := e.nullable || info.nullable
  primaryKey := e.primaryKey || info.primaryKey
  autoGenerated := e.autoGenerated || info.autoGenerated
  readOnly := e.readOnly || (!info.insertable && !info.updatable)

/-- The name of a field's column number `index`: the explicit one, or one derived from the segments
around the field, its name and `extra`. -/
def columnName (e : Enclosing) (naming : NamingStrategy) (info : FieldInfo) (index : Nat)
    (extra : List String) : String :=
  match info.columnNames[index]? with
  | some name => name
  | none => naming.column (e.segments ++ info.name :: extra)

def column (e : Enclosing) (info : FieldInfo) (foreignKey : Bool) (name : String)
    (typ : ScalarType) : Column where
  name := name
  typ := typ
  nullable := e.nullable || info.nullable
  primaryKey := e.primaryKey || info.primaryKey
  foreignKey := foreignKey
  autoGenerated := e.autoGenerated || info.autoGenerated
  insertable := !e.readOnly && info.insertable
  updatable := !e.readOnly && info.updatable
  fieldPath := ".".intercalate (e.path ++ [info.name])

def convertedColumns (e : Enclosing) (naming : NamingStrategy) (info : FieldInfo) :
    Nat → List ConvertedColumn → List Column
  | _, [] => []
  | index, c :: rest =>
    let extra := if c.suffix = "" then [] else [c.suffix]
    e.column info false (e.columnName naming info index extra) c.typ ::
      e.convertedColumns naming info (index + 1) rest

end Enclosing

namespace Field

mutual

def columns (naming : NamingStrategy) (e : Enclosing) : Field → List Column
  | scalar info typ => [e.column info false (e.columnName naming info 0 []) typ]
  | inline info _ fields => columnsOf naming (e.enter info) fields
  | foreignKey info _ key _ => [e.column info true (e.columnName naming info 0 [key.name]) key.typ]
  | ref info _ key => [e.column info true (e.columnName naming info 0 [key.name]) key.typ]
  | converted info converter => e.convertedColumns naming info 0 converter.columns
termination_by structural f => f

def columnsOf (naming : NamingStrategy) (e : Enclosing) : List Field → List Column
  | [] => []
  | f :: rest => f.columns naming e ++ columnsOf naming e rest
termination_by structural fs => fs

end

end Field

namespace Entity

def fieldIndex? (e : Entity) (name : String) : Option Nat :=
  e.fields.findIdx? (·.name == name)

def field? (e : Entity) (name : String) : Option Field :=
  e.fields.find? (·.name == name)

def keyFieldIndex? (e : Entity) : Option Nat := e.fields.findIdx? (·.info.primaryKey)

def keyField? (e : Entity) : Option Field := e.fields.find? (·.info.primaryKey)

def spans (e : Entity) : List (Field × Span) := Field.spansFrom 0 e.fields

def columnCount (e : Entity) : Nat := Field.widths e.fields

def columns (naming : NamingStrategy) (e : Entity) : List Column :=
  Field.columnsOf naming {} e.fields

/-- Where the columns of the primary key are, an empty span when there is no primary key. -/
def keySpan (e : Entity) : Span :=
  match e.spans.find? (·.1.info.primaryKey) with
  | some (_, span) => span
  | none => ⟨0, 0⟩

def keyColumns (naming : NamingStrategy) (e : Entity) : List Column :=
  e.keySpan.slice (e.columns naming)

end Entity

end RelMap
