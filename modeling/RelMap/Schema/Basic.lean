import RelMap.Schema.Validation

/-!
# Schemas

A schema is a list of entities with distinct names, built from a description: names are resolved,
every entity is validated in order of declaration, and compositions are expanded into trees.
-/

namespace RelMap

structure Schema where
  entities : List Entity
  naming : NamingStrategy
  /-- The entities before expansion. -/
  drafts : List Draft

namespace Draft

def keyColumn? (naming : NamingStrategy) (d : Draft) : Option KeyColumn :=
  match d.fields.find? (·.info.primaryKey) with
  | some ⟨info, .scalar typ⟩ => some ⟨info.columnNames.head?.getD (naming.column [info.name]), typ⟩
  | _ => none

def targetKey (naming : NamingStrategy) (drafts : List Draft) (target : EntityName) :
    Except SchemaError KeyColumn :=
  match (find? drafts target).bind (keyColumn? naming) with
  | some key => .ok key
  | none => .error (.missingPrimaryKey target)

/-- The field trees of the given fields. `fresh` holds the entities that are not yet on the path. -/
def expand (naming : NamingStrategy) (drafts fresh : List Draft) :
    List DraftField → Except SchemaError (List Field)
  | [] => .ok []
  | f :: rest => do
    let field : Field ← match f.kind with
      | .scalar typ => pure (.scalar f.info typ)
      | .converted converter => pure (.converted f.info converter)
      | .ref target => do pure (.ref f.info target (← targetKey naming drafts target))
      | .inline target =>
        match _h : find? fresh target with
        | none => throw (.unknownEntity target)
        | some d => do
          pure (.inline f.info d.info (← expand naming drafts (without fresh target) d.fields))
      | .foreignKey target =>
        match _h : find? fresh target with
        | none => throw (.unknownEntity target)
        | some d => do
          let key ← targetKey naming drafts target
          pure (.foreignKey f.info d.info key
            (← expand naming drafts (without fresh target) d.fields))
    return field :: (← expand naming drafts fresh rest)
termination_by fields => (fresh.length, fields.length)
decreasing_by
  all_goals first
    | exact Prod.Lex.left _ _ (length_without_lt ‹_›)
    | exact Prod.Lex.right _ (by simp)

def toEntity (naming : NamingStrategy) (drafts : List Draft) (d : Draft) :
    Except SchemaError Entity := do
  return ⟨d.info, ← expand naming drafts (without drafts d.info.name) d.fields⟩

end Draft

namespace SchemaSpec

/-- Fails at the first name that was declared before; `seen` holds the names so far. -/
def checkDistinct (seen : List EntityName) : List EntitySpec → Except SchemaError Unit
  | [] => .ok ()
  | e :: rest =>
    if e.name ∈ seen then .error (.duplicateEntity e.name) else checkDistinct (e.name :: seen) rest

def toSchema (spec : SchemaSpec) : Except SchemaError Schema := do
  checkDistinct [] spec.entities
  let drafts ← spec.entities.mapM spec.resolveEntity
  drafts.forM (Draft.validate drafts)
  let entities ← drafts.mapM (Draft.toEntity spec.naming drafts)
  return ⟨entities, spec.naming, drafts⟩

end SchemaSpec

namespace Schema

def entity? (s : Schema) (name : EntityName) : Option Entity :=
  s.entities.find? (·.name == name)

def entity (s : Schema) (name : EntityName) : Except SchemaError Entity :=
  match s.entity? name with
  | some e => .ok e
  | none => .error (.unknownEntity name)

def columns (s : Schema) (e : Entity) : List Column := e.columns s.naming

def keyColumns [b : Bounds] (s : Schema) (e : Entity) : Except SchemaError (List Column) := do
  match ← e.keySpan.access b.schema (s.columns e) with
  | [] => throw (.missingPrimaryKey e.name)
  | columns => return columns

def validate (s : Schema) (name : EntityName) : Except SchemaError Unit :=
  match Draft.find? s.drafts name with
  | some d => Draft.validate s.drafts d
  | none => .error (.unknownEntity name)

end Schema

end RelMap
