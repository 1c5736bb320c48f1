import RelMap.Document.Basic
import RelMap.Query.Element
import RelMap.Schema.Spec
import RelMap.Sql.Join

/-!
# Words of enumerations

The words by which enumerations are written in documents.
-/

namespace RelMap

instance : Enumeration Operator where
  values := [.eq, .neq, .lt, .lte, .gt, .gte, .like, .in, .notIn, .between, .isNull, .isNotNull]
  word := Operator.name

instance : Enumeration SelectMode where
  values := [.full, .pk, .nested]
  word
    | .full => "Full"
    | .pk => "Pk"
    | .nested => "Nested"

instance : Enumeration ScopeFilter where
  values := [.inner, .outer, .cascade]
  word
    | .inner => "Inner"
    | .outer => "Outer"
    | .cascade => "Cascade"

instance : Enumeration JoinKind where
  values := [.inner, .left, .right, .full, .cross]
  word
    | .inner => "Inner"
    | .left => "Left"
    | .right => "Right"
    | .full => "Full"
    | .cross => "Cross"

instance : Enumeration CompareOp where
  values := [.eq, .neq, .lt, .lte, .gt, .gte, .like]
  word
    | .eq => "Eq"
    | .neq => "Neq"
    | .lt => "Lt"
    | .lte => "Lte"
    | .gt => "Gt"
    | .gte => "Gte"
    | .like => "Like"

instance : Enumeration Dialect where
  values := [.ansi, .postgres, .mySql]
  word
    | .ansi => "Ansi"
    | .postgres => "Postgres"
    | .mySql => "MySql"

instance : Enumeration ParamStyle where
  values := [.positional, .named]
  word
    | .positional => "Positional"
    | .named => "Named"

instance : Enumeration EntityKind where
  values := [.table, .projection, .inline]
  word
    | .table => "Table"
    | .projection => "Projection"
    | .inline => "Inline"

instance : Enumeration EnumEncoding where
  values := [.name, .ordinal]
  word
    | .name => "Name"
    | .ordinal => "Ordinal"

end RelMap
