import RelMap.Statement.Compilation

/-!
# Registration

The first walk binds every table of a query to an alias in its scope, opens the scopes of
subqueries, and plans the joins that the foreign keys of root tables imply.
-/

namespace RelMap

namespace Registration

open Compiling

def bindTable (s : Schema) (entity : EntityInfo) (path : String) :
    Option String → Compiling String
  | some aliasName => do
    resolving (Resolver.setAlias entity aliasName path)
    return aliasName
  | none => resolving (Resolver.generateAlias s.naming entity path)

/-- Binds an occurrence and makes it the root of its scope if it is the first there. -/
def registerTable (s : Schema) (entity : EntityInfo) (aliasName : Option String) (path : String) :
    Compiling String := do
  let aliasName ← bindTable s entity path aliasName
  modify fun state =>
    let scope := state.resolver.current
    if (state.roots.lookup scope).isSome then state
    else { state with roots := state.roots ++ [(scope, entity.name)] }
  return aliasName

/-- The occurrence whose foreign keys are followed. -/
structure PlannedTable where
  entity : Entity
  occurrence : Occurrence
  /-- How the table is joined, if it is not the root. -/
  joined : Option JoinKind

/-- The joined table that another join starts from, which comes along whenever the other does. -/
def noteSource (source : PlannedTable) (joined : Occurrence) : Compiling (Option Occurrence) := do
  if source.joined.isSome then
    modifyTableUse (·.addDependency source.occurrence.qualifier joined.qualifier)
    return some source.occurrence
  else return none

/-- The join for one foreign key of the source. Below a nullable key or a left join it is a left
join. -/
def planRelation [b : Bounds] (s : Schema) (source : PlannedTable) (relation : Relation)
    (parent : Entity) : Compiling AutoJoin := do
  let path := Path.join source.occurrence.path relation.fieldPath
  let aliasName ← resolving (Resolver.generateAlias s.naming parent.toEntityInfo path)
  let joined : Occurrence := ⟨parent.toEntityInfo, path, aliasName⟩
  let kind := if source.joined = some .left ∨ relation.nullable then JoinKind.left else .inner
  let condition ← s.relationCondition relation source.entity parent source.occurrence.qualifier
    joined.qualifier
  let holder ← noteSource source joined
  return ⟨← currentScope, holder, joined, ⟨kind, ⟨parent.table, aliasName⟩, condition⟩⟩

mutual

/-- The joins that a field implies, each before those that hang on it. -/
def planField [b : Bounds] (s : Schema) (source : PlannedTable) (inlinePath : String)
    (start : Nat) : Field → Compiling (List AutoJoin)
  | .inline info _ fields => planFields s source (Path.join inlinePath info.name) start fields
  | .foreignKey info target _ fields => do
    let relation ← (Field.keyPlace inlinePath start info target.name).access b.join
      source.entity.name (s.columns source.entity)
    let parent : Entity := ⟨target, fields⟩
    let join ← planRelation s source relation parent
    let _ ← s.accessRelations parent Field.isEager
    return join :: (← planFields s ⟨parent, join.joined, some join.join.kind⟩ "" 0 fields)
  | .scalar _ _ | .ref _ _ _ | .converted _ _ => return []
termination_by structural f => f

def planFields [b : Bounds] (s : Schema) (source : PlannedTable) (inlinePath : String)
    (start : Nat) : List Field → Compiling (List AutoJoin)
  | [] => return []
  | f :: rest => do
    let first ← planField s source inlinePath start f
    return first ++ (← planFields s source inlinePath (start + f.width) rest)
termination_by structural fs => fs

end

def registerFrom [b : Bounds] (s : Schema) (entity : Entity) (aliasName : Option String)
    (autoJoin : Bool) : Compiling Unit := do
  let aliasName ← registerTable s entity.toEntityInfo aliasName ""
  if autoJoin then
    let root : Occurrence := ⟨entity.toEntityInfo, "", aliasName⟩
    let _ ← s.accessRelations entity Field.isEager
    let joins ← planFields s ⟨entity, root, none⟩ "" 0 entity.fields
    modify fun state => { state with autoJoins := state.autoJoins ++ [joins] }

/-- The path of a joined occurrence: the given one, else the source's path extended by the foreign
key that leads from it to the target, else the alias or the table's name. -/
def joinedPath [b : Bounds] (s : Schema) (target : Entity) (aliasName path : Option String)
    (onClause : JoinOn) : Compiling String := do
  if let some path := path then return path
  let byName := aliasName.getD target.table
  match onClause with
  | .relation source =>
    let (_, o) ← relationSource source
    let entity ← s.entity o.entity.name
    let candidates ← s.candidates entity target
    match Schema.choose entity.name target.name candidates with
    | .ok relation =>
      if relation.child = entity.name then return Path.join o.path relation.fieldPath
      else return byName
    | .error _ => return byName
  | _ => return byName

def registerJoined [b : Bounds] (s : Schema) (entity : EntityName) (aliasName path : Option String)
    (onClause : JoinOn) : Compiling Unit := do
  let e ← s.entity entity
  let path ← joinedPath s e aliasName path onClause
  let _ ← registerTable s e.toEntityInfo aliasName path
  modify fun state => { state with joinPaths := state.joinPaths ++ [path] }

/-- Registers the query that `body` walks, in a new scope inside the current one. -/
def inNewScope (correlated : Bool) (body : Compiling Unit) : Compiling Unit := do
  modifyResolver (·.push correlated)
  let scope ← currentScope
  modify fun state => { state with subqueries := state.subqueries ++ [scope] }
  body
  modifyResolver (·.pop)

mutual

def element [b : Bounds] (s : Schema) : Element → Compiling Unit
  | .fromTable name aliasName autoJoin => do registerFrom s (← s.entity name) aliasName autoJoin
  | .table name aliasName path => do
    let e ← s.entity name
    let _ ← registerTable s e.toEntityInfo aliasName (path.getD "")
  | .insert name => do
    let e ← s.entity name
    let _ ← registerTable s e.toEntityInfo (some "") ""
  | .update name aliasName | .delete name aliasName => do
    let e ← s.entity name
    let _ ← registerTable s e.toEntityInfo (some (aliasName.getD "")) ""
  | .join j => join s j
  | .subquery inner correlated => inNewScope correlated (elements s inner)
  | .condition clause => condition s clause
  | .sql _ | .select _ _ _ | .aliasOf _ | .column _ | .values _ | .set _ | .param _ => return ()
termination_by structural e => e

def elements [b : Bounds] (s : Schema) : List Element → Compiling Unit
  | [] => return ()
  | e :: rest => do
    element s e
    elements s rest
termination_by structural es => es

def join [b : Bounds] (s : Schema) : JoinElement → Compiling Unit
  | ⟨_, target, aliasName, path, onClause, _⟩ => do
    joinTarget s target
    registerJoined s target.entityName aliasName path onClause
    joinOn s onClause
termination_by structural j => j

def joinTarget [b : Bounds] (s : Schema) : JoinTarget → Compiling Unit
  | .entity _ => return ()
  | .subquery _ inner correlated => inNewScope correlated (elements s inner)
termination_by structural t => t

def joinOn [b : Bounds] (s : Schema) : JoinOn → Compiling Unit
  | .template inner => elements s inner
  | .relation _ | .none => return ()
termination_by structural onClause => onClause

def condition [b : Bounds] (s : Schema) : WhereClause → Compiling Unit
  | .template inner => elements s inner
  | .object _ _ _ => return ()
termination_by structural clause => clause

end

end Registration

end RelMap
