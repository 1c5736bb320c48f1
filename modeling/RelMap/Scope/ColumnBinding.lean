import RelMap.Schema.Basic
import RelMap.Schema.FieldPath
import RelMap.Scope.Resolver

/-!
# Column references

A column reference is resolved to an occurrence of a table and the columns of a field in it. A field
of an inline entity is found in the tables that embed the entity.
-/

namespace RelMap

/-- The columns that a reference stands for, with the occurrence that holds them. -/
structure ColumnBinding where
  mention : Mention
  table : Entity
  /-- The path of the field inside the table. -/
  fieldPath : String
  columns : List Column

namespace ColumnBinding

def scope (b : ColumnBinding) : ScopeId := b.mention.recorded

def aliasName (b : ColumnBinding) : String := b.mention.occurrence.aliasName

def qualifier (b : ColumnBinding) : String := b.mention.occurrence.qualifier

def operands (b : ColumnBinding) : List Operand :=
  b.columns.map fun c => .column b.qualifier c.name

end ColumnBinding

namespace Resolver

structure Embedding where
  occurrence : Occurrence
  /-- The path inside the table. -/
  path : String
deriving DecidableEq, Repr

def Embedding.absolutePath (e : Embedding) : String := Path.join e.occurrence.path e.path

def embeddings (s : Schema) (r : Resolver) (inline : EntityName) (path : Option String)
    (scope : ScopeId) : List Embedding :=
  let all := (r.occurrences scope).flatMap fun o =>
    match s.entity? o.entity.name with
    | some table => (table.inlineOccurrences inline).map (⟨o, ·⟩)
    | none => []
  all.filter fun e => path.all (· == e.absolutePath)

/-- The decision of the first of the given scopes that embeds the inline entity. -/
def embeddingIn (s : Schema) (r : Resolver) (inline : EntityName) (path : Option String) :
    List ScopeId → Except AliasError (ScopeId × Embedding)
  | [] => .error (.notFound inline path)
  | scope :: rest =>
    match r.embeddings s inline path scope with
    | [] => r.embeddingIn s inline path rest
    | [e] => .ok (scope, e)
    | many => .error (.ambiguous inline (Path.sorted (many.map (·.absolutePath))))

/-- The occurrence that holds a column, with its scope, and the path of its field there. -/
def columnHost (s : Schema) (r : Resolver) (c : ColumnRef) :
    Except Error ((ScopeId × Occurrence) × String) := do
  let entity ← s.entity c.entity
  if entity.kind = .inline then
    let (scope, e) ← r.embeddingIn s c.entity c.path (r.visibleScopes c.scope)
    return ((scope, e.occurrence), Path.join e.path c.field)
  else
    let found ← r.findBinding c.entity c.path c.scope
    return (found, c.field)

def resolveColumn [b : Bounds] (s : Schema) (c : ColumnRef) : Resolving Error ColumnBinding := do
  let r ← get
  let ((owner, o), fieldPath) ← r.columnHost s c
  let table ← s.entity o.entity.name
  let span ← table.fieldSpan fieldPath
  let scope ← (useAlias o.entity o.aliasName c.scope).adapt Error.aliasing
  let columns ← span.access b.schema (s.columns table)
  return ⟨⟨owner, o, scope⟩, table, fieldPath, columns⟩

end Resolver

end RelMap
