import RelMap.Statement.Compilation

/-!
# Select lists

The columns of an occurrence in a select mode. In full mode the columns of a composite behind a
foreign key come from the occurrence that is joined on it. The list lines up with the row plan of
the same entity and mode.
-/

namespace RelMap

namespace Select

open Compiling

structure ListedColumn where
  mention : Mention
  column : Column
deriving DecidableEq, Repr

def ListedColumn.operand (c : ListedColumn) : Operand :=
  .column c.mention.occurrence.qualifier c.column.name

structure Host where
  mention : Mention
  columns : List Column
  path : String

def Host.list (h : Host) (columns : List Column) : List ListedColumn :=
  columns.map fun c => ⟨h.mention, c⟩

mutual

/-- The columns of a field, its first column in the host's table being number `start`. -/
def fullField [b : Bounds] (naming : NamingStrategy) (host : Host) (inlinePath : String)
    (start : Nat) : Field → Compiling (List ListedColumn)
  | .inline info _ fields =>
    fullFields naming host (Path.join inlinePath info.name) start fields
  | .foreignKey info target _ fields => do
    let path := Path.join host.path (Path.join inlinePath info.name)
    let found ← findBinding target.name (some path) .cascade
    let m ← mention found .cascade
    let own : Host := ⟨m, Field.columnsOf naming {} fields, path⟩
    fullFields naming own "" 0 fields
  | f => return host.list (← (⟨start, start + f.width⟩ : Span).access b.schema host.columns)
termination_by structural f => f

def fullFields [b : Bounds] (naming : NamingStrategy) (host : Host) (inlinePath : String)
    (start : Nat) : List Field → Compiling (List ListedColumn)
  | [] => return []
  | f :: rest => do
    let first ← fullField naming host inlinePath start f
    return first ++ (← fullFields naming host inlinePath (start + f.width) rest)
termination_by structural fs => fs

end

def columns [b : Bounds] (s : Schema) (e : Entity) (found : ScopeId × Occurrence)
    (mode : SelectMode) : Compiling (List ListedColumn) := do
  let m ← mention found .cascade
  let host : Host := ⟨m, s.columns e, found.2.path⟩
  match mode with
  | .pk => return host.list (← s.keyColumns e)
  | .nested => return host.list host.columns
  | .full => fullFields s.naming host "" 0 e.fields

def list [b : Bounds] (s : Schema) (entity : EntityName) (mode : SelectMode)
    (path : Option String) : Compiling (List ListedColumn) := do
  let found ← findBinding entity path .cascade
  columns s (← s.entity entity) found mode

def operandList (format : SqlFormat) (operands : List Operand) : Fragment :=
  .join ", " (operands.map (Operand.render format))

def emit [b : Bounds] (s : Schema) (format : SqlFormat) (entity : EntityName) (mode : SelectMode)
    (path : Option String) : Compiling Passage := do
  let listed ← list s entity mode path
  return .referring (listed.map ListedColumn.mention)
    (.ofText "SELECT " ++ operandList format (listed.map ListedColumn.operand))

def emitColumn [b : Bounds] (s : Schema) (format : SqlFormat) (c : ColumnRef) :
    Compiling Passage := do
  let binding ← resolveColumn s c
  return .referring [binding.mention] (operandList format binding.operands)

end Select

end RelMap
