import RelMap.Bounds
import RelMap.Sql.Parameters
import RelMap.Statement.Emission
import RelMap.Statement.Registration
import RelMap.Text.Word

/-!
# Compiled statements

A query is registered and emitted, the joins that nothing needs are dropped, and the parameters are
checked and collected. A statement that modifies rows without any condition is flagged.
-/

namespace RelMap

inductive Safety where
  | safe
  /-- An update or delete without a condition, which affects every row. -/
  | missingWhere
deriving DecidableEq, Repr

structure CompiledStatement where
  sql : String
  parameters : Parameters
  /-- Named placeholders to be filled per record. -/
  bindVars : List String
  safety : Safety
  bindEntity : Option EntityName
deriving DecidableEq, Repr

structure CompileOptions where
  dialect : Dialect := .ansi
  /-- Refuse statements that modify rows without any condition. -/
  rejectUnsafe : Bool := false
  /-- Run in order on the compiled statement, which they may change. -/
  observers : List (CompiledStatement → Except Error CompiledStatement) := []

namespace CompiledStatement

open Bounded

def ensureSafe (statement : CompiledStatement) (allowUnsafe : Bool) : Except UsageError Unit :=
  if statement.safety = .missingWhere ∧ !allowUnsafe then .error .unsafeStatement else .ok ()

/-- Sets the value of a name, in its place if it is known and at the end if not. -/
def insertValue (values : List (String × SqlValue)) (name : String) (value : SqlValue) :
    List (String × SqlValue) :=
  if (values.lookup name).isSome then
    values.map fun (n, v) => if n = name then (n, value) else (n, v)
  else values ++ [(name, value)]

/-- The record's value in the first column named like a bind variable. There must be one. -/
def boundValue (columns : List Column) (encoded : List SqlValue) (name : String) :
    Bounded (Except Error) SqlValue :=
  match columns.findIdx? (·.name == name) with
  | some index => access encoded[index]?
  | none => free (.error (.parameter (.unboundVariable name)))

def ownValues (statement : CompiledStatement) : Except UsageError (List (String × SqlValue)) :=
  match statement.parameters with
  | .named values => .ok values
  | .positional [] => .ok []
  | .positional _ => .error .notBindable

def checkEntity (statement : CompiledStatement) (entity : EntityName) : Except UsageError Unit :=
  match statement.bindEntity with
  | some expected => if entity = expected then .ok () else .error (.bindEntity expected entity)
  | none => .ok ()

def bindable (statement : CompiledStatement) (s : Schema) (r : Record) :
    Except Error (List (String × SqlValue) × List Column × List SqlValue) := do
  let values ← statement.ownValues
  statement.checkEntity r.entity
  let columns := s.columns (← s.entity r.entity)
  return (values, columns, ← s.encodeRecord r)

/-- The named values for one record: the statement's own, and the bind variables from the record. -/
def bind (statement : CompiledStatement) (s : Schema) (r : Record) :
    Bounded (Except Error) (List (String × SqlValue)) := do
  let (values, columns, encoded) ← free (statement.bindable s r)
  statement.bindVars.foldlM (fun values name => do
    return insertValue values name (← boundValue columns encoded name)) values

end CompiledStatement

namespace Element

def modifiesRows : Element → Bool
  | update _ _ | delete _ _ => true
  | _ => false

/-- Whether the element brings a condition, be it in literal SQL. -/
def hasCondition : Element → Bool
  | condition _ => true
  | sql text => Text.containsWord "where" text
  | _ => false

end Element

/-- Only the elements of the statement itself count, not those nested in them. -/
def safetyOf (elements : List Element) : Safety :=
  if elements.any Element.modifiesRows && !elements.any Element.hasCondition then .missingWhere
  else .safe

namespace Schema

def emit [b : Bounds] (s : Schema) (dialect : Dialect) (elements : List Element) :
    Except Error (Passage × CompileState) :=
  let walks : Compiling Passage := do
    Registration.elements s elements
    Compiling.modifyResolver (·.enter 0)
    Emission.elements s ⟨dialect, true⟩ true elements
  walks.run {}

/-- Whether a conditional part is needed: its join is required in its scope. -/
def keeps (r : Resolver) (key : ConditionKey) : Bool :=
  (r.tableUse key.scope).isRequired key.aliasName

def compile [b : Bounds] (s : Schema) (options : CompileOptions) (elements : List Element) :
    Except Error CompiledStatement := do
  let (passage, state) ← s.emit options.dialect elements
  let fragment := passage.fragment
  let style ← fragment.paramStyle
  let rendered := fragment.render style (keeps state.resolver)
  let (parameters, bindVars) ← Parameters.collect rendered.slots style options.dialect
  let statement : CompiledStatement :=
    ⟨rendered.sql, parameters, bindVars, safetyOf elements, state.bindEntity⟩
  if options.rejectUnsafe then statement.ensureSafe false
  options.observers.foldlM (fun statement observe => observe statement) statement

end Schema

end RelMap
