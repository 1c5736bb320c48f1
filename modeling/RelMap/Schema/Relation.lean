import RelMap.Schema.Basic
import RelMap.Schema.FieldPath
import RelMap.Sql.Join

/-!
# Relations

A relation is a foreign key or reference field, at any depth of inline composites. Two entities are
joined on the one relation between them, in either direction.
-/

namespace RelMap

structure Relation where
  /-- The entity that holds the foreign key. -/
  child : EntityName
  /-- The entity whose key it refers to. -/
  parent : EntityName
  fieldPath : String
  /-- The foreign key in the columns of the child. -/
  columns : Span
  /-- Whether the key may be null, of its own or through a composite around it. -/
  nullable : Bool
deriving DecidableEq, Repr

/-- The columns of a foreign key, before they are looked at. -/
structure KeyPlace where
  parent : EntityName
  fieldPath : String
  columns : Span

namespace KeyPlace

def relation (child : EntityName) (place : KeyPlace) (columns : List Column) : Relation :=
  ⟨child, place.parent, place.fieldPath, place.columns, columns.any (·.nullable)⟩

def relationIn (child : EntityName) (columns : List Column) (place : KeyPlace) : Relation :=
  place.relation child (place.columns.slice columns)

def access {ε : Type} (breach : Option ε) (child : EntityName) (columns : List Column)
    (place : KeyPlace) : Except ε Relation := do
  return place.relation child (← place.columns.access breach columns)

end KeyPlace

namespace Field

def keyPlace (path : String) (start : Nat) (info : FieldInfo) (parent : EntityName) : KeyPlace :=
  ⟨parent, Path.join path info.name, ⟨start, start + 1⟩⟩

mutual

def keyPlaces (wanted : Field → Bool) (path : String) (start : Nat) : Field → List KeyPlace
  | .inline info _ fields => keyPlacesIn wanted (Path.join path info.name) start fields
  | .foreignKey info target key fields =>
    if wanted (.foreignKey info target key fields) then [keyPlace path start info target.name]
    else []
  | .ref info target key =>
    if wanted (.ref info target key) then [keyPlace path start info target] else []
  | .scalar _ _ | .converted _ _ => []
termination_by structural f => f

def keyPlacesIn (wanted : Field → Bool) (path : String) (start : Nat) :
    List Field → List KeyPlace
  | [] => []
  | f :: rest => keyPlaces wanted path start f ++ keyPlacesIn wanted path (start + f.width) rest
termination_by structural fs => fs

end

/-- The relations of `child` that come from a field, where `start` is its first column and `wanted`
chooses among the foreign keys and references. -/
def relations (child : EntityName) (columns : List Column) (wanted : Field → Bool) (path : String)
    (start : Nat) (f : Field) : List Relation :=
  (keyPlaces wanted path start f).map (KeyPlace.relationIn child columns)

def relationsIn (child : EntityName) (columns : List Column) (wanted : Field → Bool)
    (path : String) (start : Nat) (fs : List Field) : List Relation :=
  (keyPlacesIn wanted path start fs).map (KeyPlace.relationIn child columns)

def isEager : Field → Bool
  | .foreignKey _ _ _ _ => true
  | _ => false

end Field

namespace Schema

def relations (s : Schema) (child : Entity) (parent : EntityName) : List Relation :=
  Field.relationsIn child.name (s.columns child) (·.target? == some parent) "" 0 child.fields

/-- The foreign keys of `child` that link composites, references left out. -/
def eagerRelations (s : Schema) (child : Entity) : List Relation :=
  Field.relationsIn child.name (s.columns child) Field.isEager "" 0 child.fields

def accessRelations [b : Bounds] (s : Schema) (child : Entity) (wanted : Field → Bool) :
    Except JoinError (List Relation) :=
  (Field.keyPlacesIn wanted "" 0 child.fields).mapM
    (KeyPlace.access b.join child.name (s.columns child))

/-- The relations between two entities. On a self join only those of the left side count, so the
joined occurrence is the one referred to. -/
def candidates [b : Bounds] (s : Schema) (left right : Entity) :
    Except JoinError (List Relation) := do
  let own ← s.accessRelations left (·.target? == some right.name)
  if left.name = right.name then return own
  return own ++ (← s.accessRelations right (·.target? == some left.name))

def choose (left right : EntityName) : List Relation → Except JoinError Relation
  | [] => .error (.noRelation left right)
  | [relation] => .ok relation
  | candidates =>
    .error (.ambiguousRelation left right (candidates.map fun r => s!"{r.child}.{r.fieldPath}"))

def findRelation [b : Bounds] (s : Schema) (left right : Entity) :
    Except JoinError Relation := do
  choose left.name right.name (← s.candidates left right)

/-- Foreign key columns equal key columns, in order of declaration. -/
def relationCondition [b : Bounds] (s : Schema) (relation : Relation) (child parent : Entity)
    (childQualifier parentQualifier : String) : Except JoinError JoinCondition := do
  let foreignKey ← relation.columns.access b.join (s.columns child)
  let key ← parent.keySpan.access b.join (s.columns parent)
  if foreignKey.length ≠ key.length then
    throw (.columnCountMismatch s!"{relation.child}.{relation.fieldPath}" foreignKey.length
      key.length)
  return List.zipWith (fun f k => ⟨.column childQualifier f.name, .column parentQualifier k.name⟩)
    foreignKey key

def joinCondition [b : Bounds] (s : Schema) (left : Entity) (leftQualifier : String)
    (right : Entity) (rightQualifier : String) : Except JoinError JoinCondition := do
  let relation ← s.findRelation left right
  if relation.child = left.name then
    s.relationCondition relation left right leftQualifier rightQualifier
  else s.relationCondition relation right left rightQualifier leftQualifier

end Schema

end RelMap
