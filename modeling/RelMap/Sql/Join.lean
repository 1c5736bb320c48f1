import RelMap.Sql.Predicate

/-!
# Tables and joins

A table with its alias, the condition that a foreign key gives for a join, and the join itself.
-/

namespace RelMap

/-- A table with its alias, which is empty when the table goes by its own name. -/
structure TableName where
  name : String
  aliasName : String
deriving DecidableEq, Repr

/-- The alias is written only where it differs from the name. -/
def TableName.render (format : SqlFormat) (t : TableName) : Fragment :=
  format.identifier t.name ++
    if t.aliasName = "" ∨ t.aliasName = t.name then []
    else .ofText " AS " ++ format.identifier t.aliasName

inductive JoinKind where
  | inner
  | left
  | right
  | full
  | cross
deriving DecidableEq, Repr

def JoinKind.keyword : JoinKind → String
  | inner => "INNER JOIN"
  | left => "LEFT JOIN"
  | right => "RIGHT JOIN"
  | full => "FULL JOIN"
  | cross => "CROSS JOIN"

structure ColumnEquality where
  left : Operand
  right : Operand
deriving DecidableEq, Repr

abbrev JoinCondition := List ColumnEquality

def JoinCondition.render (format : SqlFormat) (condition : JoinCondition) : Fragment :=
  .join " AND "
    (condition.map fun e => e.left.render format ++ .ofText " = " ++ e.right.render format)

structure Join where
  kind : JoinKind
  table : TableName
  /-- Absent for cross joins. -/
  condition : Option JoinCondition
deriving DecidableEq, Repr

def Join.render (format : SqlFormat) (j : Join) : Fragment :=
  .ofText j.kind.keyword ++ .ofText " " ++ j.table.render format ++
    match j.condition with
    | none => []
    | some condition => .ofText " ON " ++ condition.render format

end RelMap
