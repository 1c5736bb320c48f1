import RelMap.Schema.Entity

/-!
# Drafts

A draft is an entity whose references to other entities and converters are resolved, but which is
not yet validated: compositions may be cyclic, so targets are still given by name.
-/

namespace RelMap

inductive DraftKind where
  | scalar (typ : ScalarType)
  | inline (target : EntityName)
  | foreignKey (target : EntityName)
  | ref (target : EntityName)
  | converted (converter : Converter)

structure DraftField where
  info : FieldInfo
  kind : DraftKind

structure Draft where
  info : EntityInfo
  fields : List DraftField

/-- The entity that a field is composed of; references do not count, as they are not expanded. -/
def DraftKind.component? : DraftKind → Option EntityName
  | .inline target | .foreignKey target => some target
  | _ => none

def Draft.keyFields (d : Draft) : List DraftField := d.fields.filter (·.info.primaryKey)

def Draft.find? (drafts : List Draft) (name : EntityName) : Option Draft :=
  drafts.find? (·.info.name == name)

namespace SchemaSpec

def qualifiedName (entity : EntityName) (field : String) : String := s!"{entity}.{field}"

def target (spec : SchemaSpec) (name : EntityName) : Except SchemaError EntitySpec :=
  match spec.entity? name with
  | some target => .ok target
  | none => .error (.unknownEntity name)

def resolveKind (spec : SchemaSpec) (qualified : String) (f : FieldSpec) :
    Except SchemaError DraftKind :=
  match f.typ with
  | .scalar typ =>
    if f.foreignKey then .error (.invalidForeignKey qualified .scalarField) else .ok (.scalar typ)
  | .composite name => do
    if (← spec.target name).kind ≠ .inline then return .foreignKey name
    else if f.foreignKey then throw (.invalidForeignKey qualified (.inlineTarget name))
    else return .inline name
  | .ref name => do
    if (← spec.target name).kind = .inline then
      throw (.invalidForeignKey qualified (.referenceToInline name))
    else return .ref name
  | .converted name =>
    match spec.converter? name with
    | none => .error (.unknownConverter qualified name)
    | some converter =>
      if f.primaryKey || f.foreignKey then .error (.converterKey qualified)
      else .ok (.converted converter)

def resolveField (spec : SchemaSpec) (entity : EntityName) (f : FieldSpec) :
    Except SchemaError DraftField := do
  let kind ← spec.resolveKind (qualifiedName entity f.name) f
  let info : FieldInfo := {
    name := f.name, primaryKey := f.primaryKey, nullable := f.nullable,
    autoGenerated := f.autoGenerated, insertable := f.insertable, updatable := f.updatable,
    columnNames := f.columns }
  return ⟨info, kind⟩

def resolveEntity (spec : SchemaSpec) (e : EntitySpec) : Except SchemaError Draft := do
  let fields ← e.fields.mapM (spec.resolveField e.name)
  return ⟨⟨e.name, e.table.getD (spec.naming.table e.name), e.kind⟩, fields⟩

end SchemaSpec

end RelMap
