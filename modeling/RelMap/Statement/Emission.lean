import RelMap.Statement.Condition
import RelMap.Statement.Modification
import RelMap.Statement.Select

/-!
# Emission

The second walk writes the statement. Clauses write their own keyword, references write just
themselves. A space separates two structural elements; literal SQL is written as it is, with no
space around it. Automatic joins become conditional parts, and what their conditions mention counts
only if the join does.
-/

namespace RelMap

namespace Emission

open Compiling Modification

def space (wanted : Bool) : Fragment := if wanted then .ofText " " else []

def plannedJoin (format : SqlFormat) (j : AutoJoin) : Part :=
  .autoJoin j.scope j.joined (Passage.referring j.mentions (space true ++ j.join.render format))

/-- The root table, followed by the joins planned for it. -/
def emitFrom (s : Schema) (format : SqlFormat) (entity : EntityName) (autoJoin : Bool) :
    Compiling Passage := do
  let table ← tableAt (← s.entity entity) ""
  let joins ← if autoJoin then nextAutoJoins else pure []
  return .ofFragment (.ofText "FROM " ++ table.render format) ++ joins.map (plannedJoin format)

def emitAlias (s : Schema) (format : SqlFormat) (t : TableRef) : Compiling Passage := do
  let e ← s.entity t.entity
  let m ← mention (← findBinding e.name t.path t.scope) t.scope
  return .referring [m] (format.identifier m.occurrence.qualifier)

def slotOf : Param → ParamSlot
  | .positional index value => .positional index value
  | .named name value => .named name value
  | .value value => .anonymous value

/-- The sides of a relation join. The source of an automatic join is needed if the join is; any
other join uses both. -/
def joinSides (auto : Bool) (origin joined : ScopeId × Occurrence) : Compiling (List Mention) := do
  if auto then
    modifyTableUse (·.addDependency origin.2.qualifier joined.2.qualifier)
    let scope ← currentScope
    return [⟨origin.1, origin.2, scope⟩, ⟨joined.1, joined.2, scope⟩]
  else
    let left ← mention origin .cascade
    let right ← mention joined .inner
    return [left, right]

def emitRelation [b : Bounds] (s : Schema) (format : SqlFormat) (auto : Bool) (target : Entity)
    (joined : ScopeId × Occurrence) (source : Option TableRef) : Compiling Passage := do
  let origin ← relationSource source
  let entity ← s.entity origin.2.entity.name
  let condition ← s.joinCondition entity origin.2.qualifier target joined.2.qualifier
  let sides ← joinSides auto origin joined
  return .referring sides (.ofText " ON " ++ condition.render format)

/-- The query that `body` writes, in parentheses and in the scope that registration opened for
it. -/
def inSubquery (body : Compiling Passage) : Compiling Passage := do
  let scope ← nextSubquery
  modifyResolver (·.enter scope)
  let passage ← body
  modifyResolver (·.pop)
  return passage.parenthesized

/-- The condition that `body` writes for the join of an alias. What an automatic join mentions there
is needed only if the join is. -/
def inCondition (auto : Bool) (aliasName : String) (body : Compiling Passage) :
    Compiling Passage := do
  let before := ((← get).resolver.tableUse (← currentScope)).referenced
  let passage ← body
  if auto then modifyTableUse (·.deferSince before aliasName)
  return .ofText " ON " ++ passage

mutual

/-- Writes an element. A join writes the space before it itself, if `separate` is set. -/
def element [b : Bounds] (s : Schema) (format : SqlFormat) (separate : Bool) :
    Element → Compiling Passage
  | .sql text => return .ofText text
  | .select entity mode path => Select.emit s format entity mode path
  | .fromTable entity _ autoJoin => emitFrom s format entity autoJoin
  | .table entity _ path => do
    return .ofFragment ((← tableAt (← s.entity entity) (path.getD "")).render format)
  | .aliasOf t => emitAlias s format t
  | .column c => Select.emitColumn s format c
  | .join j => join s format separate j
  | .insert entity => return .ofFragment (← emitInsert s format entity)
  | .values clause => return .ofFragment (← emitValues s clause)
  | .update entity _ => return .ofFragment (← emitUpdate s format entity)
  | .set clause => return .ofFragment (← emitSet s format clause)
  | .delete entity _ => return .ofFragment (← emitDelete s format entity)
  | .condition clause => return .ofText "WHERE " ++ (← condition s format clause)
  | .param p => return .ofFragment (.ofParam (slotOf p))
  | .subquery inner _ => inSubquery (elements s format true inner)
termination_by structural e => e

/-- Writes the elements in order; `afterSql` tells whether literal SQL, or nothing, comes before. -/
def elements [b : Bounds] (s : Schema) (format : SqlFormat) (afterSql : Bool) :
    List Element → Compiling Passage
  | [] => return []
  | e :: rest => do
    let separate := !e.isSql && !afterSql
    let first ← element s format separate e
    return .ofFragment (space (separate && !e.isJoin)) ++ first ++
      (← elements s format e.isSql rest)
termination_by structural es => es

/-- A join; an automatic one becomes a conditional part, the space before it included. -/
def join [b : Bounds] (s : Schema) (format : SqlFormat) (separate : Bool) :
    JoinElement → Compiling Passage
  | ⟨kind, target, _, _, onClause, auto⟩ => do
    let table ← joinTarget s format target
    let e ← s.entity target.entityName
    let joined ← findBinding e.name (some (← nextJoinPath)) .inner
    let qualifier := joined.2.qualifier
    let aliasName : Fragment := if target.isDerived || qualifier != e.table then
        .ofText " AS " ++ format.identifier qualifier
      else []
    let condition ← joinOn s format auto e joined onClause
    let parts := .ofFragment (space separate ++ .ofText kind.keyword ++ .ofText " ") ++ table ++
      .ofFragment aliasName ++ condition
    if auto then return [.autoJoin (← currentScope) joined.2 parts] else return parts
termination_by structural j => j

def joinTarget [b : Bounds] (s : Schema) (format : SqlFormat) : JoinTarget → Compiling Passage
  | .entity entity => do return .ofFragment (format.identifier (← s.entity entity).table)
  | .subquery _ inner _ => inSubquery (elements s format true inner)
termination_by structural t => t

def joinOn [b : Bounds] (s : Schema) (format : SqlFormat) (auto : Bool) (target : Entity)
    (joined : ScopeId × Occurrence) : JoinOn → Compiling Passage
  | .relation source => emitRelation s format auto target joined source
  | .template inner => inCondition auto joined.2.qualifier (elements s format true inner)
  | .none => return []
termination_by structural onClause => onClause

def condition [b : Bounds] (s : Schema) (format : SqlFormat) : WhereClause → Compiling Passage
  | .template inner => elements s format true inner
  | .object target operator operands => do
    let (m, predicate) ← Condition.objectPredicate s target operator operands
    return .referring [m] (predicate.render format)
termination_by structural clause => clause

end

end Emission

end RelMap
