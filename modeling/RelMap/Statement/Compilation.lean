import RelMap.Schema.Relation
import RelMap.Scope.ColumnBinding
import RelMap.Statement.Passage

/-!
# The state of a compilation

A query is compiled in two walks over its elements. Registration binds every table to an alias,
since a select list refers to tables that come after it; emission writes the statement. What
registration finds out about nested constructs is queued and taken back by emission in the same
order.
-/

namespace RelMap

/-- A join that a foreign key implies. It is written only if the joined occurrence is needed in its
scope. -/
structure AutoJoin where
  scope : ScopeId
  /-- The joined occurrence that holds the key, unless the root table does. -/
  source : Option Occurrence
  joined : Occurrence
  join : Join
deriving DecidableEq, Repr

namespace AutoJoin

def qualifier (j : AutoJoin) : String := j.joined.qualifier

/-- The joined occurrences in the condition: registration has noted in the scope what the join
depends on. -/
def mentions (j : AutoJoin) : List Mention :=
  (j.source.toList ++ [j.joined]).map fun o => ⟨j.scope, o, j.scope⟩

end AutoJoin

structure CompileState where
  resolver : Resolver := {}
  /-- The first table registered in each scope. -/
  roots : List (ScopeId × EntityName) := []
  /-- The scopes of subqueries. -/
  subqueries : List ScopeId := []
  /-- The automatic joins of root tables. -/
  autoJoins : List (List AutoJoin) := []
  /-- The paths at which joined tables are registered. -/
  joinPaths : List String := []
  /-- The entity whose records are bound later. -/
  bindEntity : Option EntityName := none
deriving DecidableEq, Repr

abbrev Compiling := StateT CompileState (Except Error)

namespace Compiling

def onResolver {α : Type} (x : Resolving Error α) : Compiling α := fun state =>
  match x.run.run state.resolver with
  | (.ok a, resolver) => .ok (a, { state with resolver })
  | (.error e, _) => .error e

def resolving {α : Type} (x : Resolving AliasError α) : Compiling α :=
  onResolver (x.adapt Error.aliasing)

def modifyResolver (f : Resolver → Resolver) : Compiling Unit :=
  modify fun state => { state with resolver := f state.resolver }

def currentScope : Compiling ScopeId := return (← get).resolver.current

def modifyTableUse (f : TableUse → TableUse) : Compiling Unit :=
  modifyResolver fun r => r.modifyTableUse r.current f

def findBinding (entity : EntityName) (path : Option String) (filter : ScopeFilter) :
    Compiling (ScopeId × Occurrence) := do
  let found ← (← get).resolver.findBinding entity path filter
  return found

def useAlias (entity : EntityInfo) (aliasName : String) (filter : ScopeFilter) :
    Compiling ScopeId :=
  resolving (Resolver.useAlias entity aliasName filter)

def mention (found : ScopeId × Occurrence) (filter : ScopeFilter) : Compiling Mention := do
  let recorded ← useAlias found.2.entity found.2.aliasName filter
  return ⟨found.1, found.2, recorded⟩

def resolveColumn [b : Bounds] (s : Schema) (c : ColumnRef) : Compiling ColumnBinding :=
  onResolver (Resolver.resolveColumn s c)

/-! ## Queues -/

def nextSubquery : Compiling ScopeId := do
  let state ← get
  match state.subqueries with
  | scope :: rest =>
    set { state with subqueries := rest }
    return scope
  | [] => throw (.usage .subqueryNotRegistered)

def nextJoinPath : Compiling String := do
  let state ← get
  match state.joinPaths with
  | path :: rest =>
    set { state with joinPaths := rest }
    return path
  | [] => throw (.usage .joinNotRegistered)

def nextAutoJoins : Compiling (List AutoJoin) := do
  let state ← get
  match state.autoJoins with
  | joins :: rest =>
    set { state with autoJoins := rest }
    return joins
  | [] => return []

/-- The occurrence that a relation join starts from: the given one, or the root of the scope. -/
def relationSource (source : Option TableRef) : Compiling (ScopeId × Occurrence) := do
  match source with
  | some t => findBinding t.entity t.path t.scope
  | none =>
    let state ← get
    match state.roots.lookup state.resolver.current with
    | some root => findBinding root (some "") .inner
    | none => throw (.usage .noPrecedingTable)

end Compiling

end RelMap
