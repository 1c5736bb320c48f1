import RelMap.Row.Encode
import RelMap.Statement.Compilation

/-!
# Object conditions

A condition compares a column, or an entity by its key, with operands that are field values. Each
operand is encoded like the field; over several columns equality goes column by column.
-/

namespace RelMap

namespace Condition

open Compiling

/-- What an object condition compares: columns, and the values of each operand for them. -/
structure Comparison where
  columns : List Operand
  operands : List (List SqlValue)
deriving DecidableEq, Repr

def compareOp? : Operator → Option CompareOp
  | .eq => some .eq
  | .neq => some .neq
  | .lt => some .lt
  | .lte => some .lte
  | .gt => some .gt
  | .gte => some .gte
  | .like => some .like
  | _ => none

def literal : SqlValue → Operand
  | .null => .null
  | value => .param (.anonymous value)

def singleColumn [b : Bounds] (column : Operand) (operator : Operator) (operands : List Operand) :
    Except UsageError Predicate := do
  if let some op := compareOp? operator then
    return .comparison column op (← Bounds.item b.usage operands 0 .null)
  match operator with
  | .in => return .inList column operands
  | .notIn => return .notInList column operands
  | .between =>
    let high ← Bounds.item b.usage operands 1 .null
    let low ← Bounds.item b.usage (operands.eraseIdx 1) 0 .null
    return .between column low high
  | .isNull => return .isNull column
  | _ => return .isNotNull column

def allEqual (columns operand : List Operand) : Predicate :=
  .conjAll (List.zipWith Predicate.equal columns operand)

def manyColumns (columns : List Operand) (operator : Operator) (operands : List (List Operand)) :
    Except UsageError Predicate :=
  let equal := operands.map (allEqual columns)
  match operator with
  | .eq => .ok (.conjAll equal)
  | .neq => .ok (Predicate.conjAll equal).negate
  | .in => .ok (.disjAll equal)
  | .notIn => .ok (Predicate.disjAll equal).negate
  | .isNull => .ok (.conjAll (columns.map .isNull))
  | .isNotNull => .ok (.disjAll (columns.map .isNotNull))
  | operator => .error (.compoundOperand operator)

def checkArity (operator : Operator) (count : Nat) : Except UsageError Unit :=
  match operator.arity with
  | none => .ok ()
  | some arity => if count = arity then .ok () else .error (.operandCount operator arity count)

/-- Every operand fits the columns, and none is NULL where values are ordered. -/
def checkOperands (operator : Operator) (columns : Nat) (operands : List (List SqlValue)) :
    Except UsageError Unit :=
  match operands.find? (·.length != columns) with
  | some operand => .error (.operandWidth operand.length columns)
  | none =>
    if operator.ordersValues && operands.any (·.any SqlValue.isNull) then
      .error (.nullOperand operator)
    else .ok ()

def predicate [b : Bounds] (c : Comparison) (operator : Operator) :
    Except UsageError Predicate := do
  checkOperands operator c.columns.length c.operands
  let operands := c.operands.map (·.map literal)
  match c.columns with
  | [column] => singleColumn column operator operands.flatten
  | columns => manyColumns columns operator operands

/-- The values of an operand that stands for an entity: the key of a record or reference, or a
value of the key field. -/
def keyOperand (s : Schema) (key : Field) (path : String) :
    FieldValue → Except Error (List SqlValue)
  | .record _ content => s.keyValues content
  | .reference r => .ok (r.keyValues key.width)
  | value => s.encodeField key value path

def comparison [b : Bounds] (s : Schema) (target : ConditionTarget) (operands : List FieldValue) :
    Compiling (Mention × Comparison) := do
  match target with
  | .column c =>
    let binding ← resolveColumn s c
    let field ← binding.table.fieldAt binding.fieldPath
    let path := s!"{binding.table.name}.{binding.fieldPath}"
    let values ← operands.mapM fun operand => s.encodeField field operand path
    return (binding.mention, ⟨binding.operands, values⟩)
  | .entity t =>
    let e ← s.entity t.entity
    let found ← findBinding t.entity t.path t.scope
    let m ← mention found t.scope
    match e.keyField? with
    | none => throw (.schema (.missingPrimaryKey e.name))
    | some key =>
      let values ← operands.mapM fun operand =>
        keyOperand s key s!"{e.name}.{key.name}" operand
      let columns ← s.keyColumns e
      return (m, ⟨columns.map fun c => .column m.occurrence.qualifier c.name, values⟩)

def objectPredicate [b : Bounds] (s : Schema) (target : ConditionTarget) (operator : Operator)
    (operands : List FieldValue) : Compiling (Mention × Predicate) := do
  checkArity operator operands.length
  let (m, c) ← comparison s target operands
  return (m, ← predicate c operator)

end Condition

end RelMap
