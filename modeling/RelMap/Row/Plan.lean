import RelMap.Query.Element
import RelMap.Schema.Basic

/-!
# Row plans

How the slots of a row belong to the fields of an entity, for one select mode. A composite takes a
run of slots: always if it is inline, and in full mode also behind a foreign key.
-/

namespace RelMap

inductive FieldPlan where
  | scalar (name : String) (typ : ScalarType) (nullable : Bool)
  | converted (name : String) (converter : Converter) (nullable : Bool)
  | composite (name : String) (entity : EntityName) (fields : List FieldPlan) (nullable : Bool)
  /-- A reference made of the key of its target. -/
  | ref (name : String) (target : EntityName) (key : List ScalarType) (nullable : Bool)

structure RowPlan where
  entity : EntityName
  fields : List FieldPlan

namespace FieldPlan

def name : FieldPlan → String
  | scalar name _ _ | converted name _ _ | composite name _ _ _ | ref name _ _ _ => name

def nullable : FieldPlan → Bool
  | scalar _ _ nullable | converted _ _ nullable | composite _ _ _ nullable
  | ref _ _ _ nullable => nullable

mutual

def width : FieldPlan → Nat
  | scalar _ _ _ => 1
  | converted _ converter _ => converter.columns.length
  | composite _ _ fields _ => widths fields
  | ref _ _ key _ => key.length
termination_by structural p => p

def widths : List FieldPlan → Nat
  | [] => 0
  | p :: rest => p.width + widths rest
termination_by structural ps => ps

end

mutual

/-- The plan of a field. The fields of an inline key are read like those of an inline composite. -/
def ofField (mode : SelectMode) : Field → FieldPlan
  | .scalar info typ => scalar info.name typ info.nullable
  | .converted info converter => converted info.name converter info.nullable
  | .inline info target fields =>
    let mode := if mode = .pk then .nested else mode
    composite info.name target.name (ofFields mode fields) info.nullable
  | .foreignKey info target key fields =>
    if mode = .full then composite info.name target.name (ofFields mode fields) info.nullable
    else ref info.name target.name [key.typ] info.nullable
  | .ref info target key => ref info.name target [key.typ] info.nullable
termination_by structural f => f

def ofFields (mode : SelectMode) : List Field → List FieldPlan
  | [] => []
  | f :: rest => ofField mode f :: ofFields mode rest
termination_by structural fs => fs

end

/-- Each field with its slots, the first slot being number `start`. -/
def spansFrom (start : Nat) : List FieldPlan → List (FieldPlan × Span)
  | [] => []
  | p :: rest => (p, ⟨start, start + p.width⟩) :: spansFrom (start + p.width) rest

end FieldPlan

namespace RowPlan

def width (p : RowPlan) : Nat := FieldPlan.widths p.fields

/-- The plan of an entity: all fields, or the key field alone. -/
def ofEntity (e : Entity) (mode : SelectMode) : Except SchemaError RowPlan :=
  match mode with
  | .pk =>
    match e.keyField? with
    | some key => .ok ⟨e.name, [FieldPlan.ofField .pk key]⟩
    | none => .error (.missingPrimaryKey e.name)
  | mode => .ok ⟨e.name, FieldPlan.ofFields mode e.fields⟩

/-- The position of the primary key field among the planned fields, and its slots. -/
def keySlots? (p : RowPlan) (e : Entity) : Option (Nat × Span) := do
  let key ← e.keyField?
  let spans := FieldPlan.spansFrom 0 p.fields
  let index ← spans.findIdx? (·.1.name == key.name)
  let (_, span) ← spans[index]?
  return (index, span)

end RowPlan

end RelMap
