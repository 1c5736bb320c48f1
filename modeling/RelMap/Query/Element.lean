import RelMap.Query.Operator
import RelMap.Sql.Join
import RelMap.Value.Record

/-!
# Query elements

A query is a list of elements: literal SQL, clauses, references to tables and columns, parameters
and nested queries. Elements name entities and leave aliases and join conditions to be filled in.
-/

namespace RelMap

/-- Which columns a select list covers. -/
inductive SelectMode where
  /-- Every column, also those of composites linked through foreign keys. -/
  | full
  /-- The primary key. -/
  | pk
  /-- The entity's own columns, foreign keys by their key columns. -/
  | nested
deriving DecidableEq, Repr

/-- Which scopes a look-up may consult. -/
inductive ScopeFilter where
  /-- The current scope. -/
  | inner
  /-- The enclosing scopes. -/
  | outer
  /-- The current scope and the enclosing ones; the nearest match wins. -/
  | cascade
deriving DecidableEq, Repr

/-- An occurrence of a table; without a path there has to be just one. -/
structure TableRef where
  entity : EntityName
  path : Option String := none
  scope : ScopeFilter := .cascade
deriving DecidableEq, Repr

/-- A field by its dotted path. For an inline entity, `path` tells which of its occurrences is
meant. -/
structure ColumnRef where
  entity : EntityName
  field : String
  path : Option String := none
  scope : ScopeFilter := .cascade
deriving DecidableEq, Repr

inductive Param where
  /-- A position counted from 1. -/
  | positional (index : Nat) (value : SqlValue)
  | named (name : String) (value : SqlValue)
  | value (value : SqlValue)
deriving DecidableEq, Repr

inductive SetClause where
  | record (record : Record)
  /-- Bind variables named like the columns, to be filled from records of the entity. -/
  | bindVars (entity : EntityName)

inductive ValuesClause where
  | records (records : List Record)
  | bindVars (entity : EntityName)

inductive ConditionTarget where
  | column (column : ColumnRef)
  /-- An occurrence, by its primary key. -/
  | entity (table : TableRef)
deriving DecidableEq, Repr

mutual

inductive Element where
  /-- Literal SQL. -/
  | sql (text : String)
  | select (entity : EntityName) (mode : SelectMode) (path : Option String)
  /-- The root table of a query, with the joins that its foreign keys imply if `autoJoin` is set. -/
  | fromTable (entity : EntityName) (aliasName : Option String) (autoJoin : Bool)
  /-- A further table, as in a list of tables. -/
  | table (entity : EntityName) (aliasName : Option String) (path : Option String)
  /-- The bare alias of an occurrence. -/
  | aliasOf (table : TableRef)
  | column (column : ColumnRef)
  | join (join : JoinElement)
  | insert (entity : EntityName)
  | values (values : ValuesClause)
  | update (entity : EntityName) (aliasName : Option String)
  | set (clause : SetClause)
  | delete (entity : EntityName) (aliasName : Option String)
  | condition (clause : WhereClause)
  | param (param : Param)
  /-- A query in parentheses with a scope of its own; only a correlated one sees the scopes
  around. -/
  | subquery (elements : List Element) (correlated : Bool)

structure JoinElement where
  kind : JoinKind
  target : JoinTarget
  aliasName : Option String
  /-- The path of the joined occurrence, derived from the relation when absent. -/
  path : Option String
  onClause : JoinOn
  /-- An automatic join is written only if its alias is needed. -/
  auto : Bool

inductive JoinTarget where
  | entity (entity : EntityName)
  /-- A derived table whose rows have the shape of the entity. -/
  | subquery (entity : EntityName) (elements : List Element) (correlated : Bool)

inductive JoinOn where
  /-- The foreign key between the target and the source, which is the root of the scope if
  absent. -/
  | relation (source : Option TableRef)
  | template (elements : List Element)
  | none

inductive WhereClause where
  | template (elements : List Element)
  | object (target : ConditionTarget) (operator : Operator) (operands : List FieldValue)

end

namespace Element

def fromEntity (entity : EntityName) : Element := fromTable entity none true

def isSql : Element → Bool
  | sql _ => true
  | _ => false

def isJoin : Element → Bool
  | join _ => true
  | _ => false

end Element

/-- A join on the foreign key between the root of the query and the entity. -/
def JoinElement.relation (kind : JoinKind) (entity : EntityName) : JoinElement :=
  ⟨kind, .entity entity, none, none, .relation none, false⟩

def JoinTarget.entityName : JoinTarget → EntityName
  | .entity name | .subquery name _ _ => name

def JoinTarget.isDerived : JoinTarget → Bool
  | .entity _ => false
  | .subquery _ _ _ => true

end RelMap
